import Tcpcc.Control.Framing

/-!
# The client of the control protocol

`tcpcc_control_transact`: a call writes its request to one pipe and reads the response from the
other, in pieces, until its deadline. A call may fail at any point, and the bytes it has written
and those it has not read stay where they are. The hosted side takes complete records from the
pipe in order and answers each one. Bytes are marked with the call that wrote them, and those of a
response with its place in the log of the hosted side; the program sees the bytes only.
-/

namespace Tcpcc.Native
open Control Machine

variable {σ : Type}

abbrev Marked := List (ℕ × UInt8)

def mark (origin : ℕ) (bytes : List UInt8) : Marked := bytes.map fun b => (origin, b)

def unmark (m : Marked) : List UInt8 := m.map Prod.snd

structure Call where
  op : UInt16
  handle : UInt32 := 0
  arg0 : UInt32 := 0
  arg1 : UInt32 := 0
  data : List UInt8 := []
  deriving DecidableEq, Repr

def Call.request (c : Call) : Request :=
  Control.request c.op.toNat c.handle.toNat c.arg0.toNat c.arg1.toNat c.data

/-- The arguments that `tcpcc_control_transact` takes. -/
def Call.valid (c : Call) : Bool := c.op != 0 && c.data.length ≤ maxPayload

/-- The response is one to this request, as far as `tcpcc_control_transact` looks. -/
def accepts (q : Request) (response : List UInt8) : Bool :=
  field response 0 4 == controlMagic && field response 4 2 == controlVersion &&
    field response 6 2 == q.op && field response 16 4 ≤ maxPayload

inductive Transaction
  | idle
  | sending (q : Request) (rest : List UInt8)
  | receiving (q : Request) (buffer : Marked)
  deriving DecidableEq, Repr

structure Session (σ : Type) where
  world : σ
  requests : Marked := []
  responses : Marked := []
  transaction : Transaction := .idle
  /-- The finished calls, with the response of those that returned 0. -/
  returned : List (Request × Option Marked) := []
  /-- The records the hosted side has answered. -/
  log : List (Marked × Response) := []

inductive Move (σ : Type)
  | begin (c : Call)
  | write (n : ℕ)
  | read (n : ℕ)
  | fail
  | answer
  | others (w : σ)

/-- `tcpcc_control_write_exact` with so much of the request left. -/
def Transaction.sent (q : Request) (rest : List UInt8) : Transaction :=
  if rest = [] then .receiving q [] else .sending q rest

def Session.return (s : Session σ) (q : Request) (result : Option Marked) : Session σ :=
  { s with transaction := .idle, returned := s.returned ++ [(q, result)] }

/-- `tcpcc_control_read_exact` with so much of the response, and what follows it. -/
def Session.received (s : Session σ) (q : Request) (buffer : Marked) : Session σ :=
  if buffer.length < responseSize then { s with transaction := .receiving q buffer }
  else s.return q (if accepts q (unmark buffer) then some buffer else none)

def Session.step (execute : Request → σ → Answer × σ) (s : Session σ) : Move σ → Option (Session σ)
  | .begin c =>
    match s.transaction with
    | .idle =>
      if c.valid then some { s with transaction := .sending c.request c.request.encode }
      else some (s.return c.request none)
    | _ => none
  | .write n =>
    match s.transaction with
    | .sending q rest =>
      if 0 < n ∧ n ≤ rest.length then
        some { s with
          requests := s.requests ++ mark s.returned.length (rest.take n)
          transaction := .sent q (rest.drop n) }
      else none
    | _ => none
  | .read n =>
    match s.transaction with
    | .receiving q buffer =>
      if 0 < n ∧ n ≤ responseSize - buffer.length ∧ n ≤ s.responses.length then
        some ({ s with responses := s.responses.drop n }.received q (buffer ++ s.responses.take n))
      else none
    | _ => none
  | .fail =>
    match s.transaction with
    | .idle => none
    | .sending q _ => some (s.return q none)
    | .receiving q _ => some (s.return q none)
  | .answer =>
    if requestSize ≤ s.requests.length then
      let record := s.requests.take requestSize
      let (r, w) := respond execute (unmark record) s.world
      some { s with
        world := w
        requests := s.requests.drop requestSize
        responses := s.responses ++ mark s.log.length r.encode
        log := s.log ++ [(record, r)] }
    else none
  | .others w => some { s with world := w }

def Matched (s : Session σ) : Prop :=
  ∀ k q stored, s.returned[k]? = some (q, some stored) →
    ∃ i r, s.log[i]? = some (mark k q.encode, r) ∧ stored = mark i r.encode

def Session.clean (s : Session σ) : Move σ → Bool
  | .begin _ => s.requests.isEmpty && s.responses.isEmpty
  | _ => true

/-! ## The invariant of clean calls -/

def Session.Current (s : Session σ) : Prop :=
  match s.transaction with
  | .idle => True
  | .sending q rest =>
    rest ≠ [] ∧ s.requests ++ mark s.returned.length rest = mark s.returned.length q.encode ∧
      s.responses = []
  | .receiving q buffer =>
    (s.requests = mark s.returned.length q.encode ∧ s.responses = [] ∧ buffer = []) ∨
      ∃ i r, s.requests = [] ∧ s.log[i]? = some (mark s.returned.length q.encode, r) ∧
        buffer ++ s.responses = mark i r.encode

theorem length_mark (origin : ℕ) (bytes : List UInt8) :
    (mark origin bytes).length = bytes.length := List.length_map _

theorem mark_append (origin : ℕ) (bytes bytes' : List UInt8) :
    mark origin (bytes ++ bytes') = mark origin bytes ++ mark origin bytes' := List.map_append

theorem Matched.of_log {s t : Session σ} {more : List (Marked × Response)} (hs : Matched s)
    (hlog : t.log = s.log ++ more) (hreturned : t.returned = s.returned) : Matched t := by
  intro k q stored hk
  rw [hreturned] at hk
  obtain ⟨i, r, hi, hstored⟩ := hs k q stored hk
  refine ⟨i, r, ?_, hstored⟩
  rw [hlog, List.getElem?_append_left (List.getElem?_eq_some_iff.mp hi).1]
  exact hi

theorem Matched.return {s : Session σ} {q : Request} {result : Option Marked} (hs : Matched s)
    (hresult : ∀ stored, result = some stored →
      ∃ i r, s.log[i]? = some (mark s.returned.length q.encode, r) ∧ stored = mark i r.encode) :
    Matched (s.return q result) := by
  intro k q' stored hk
  change (s.returned ++ [(q, result)])[k]? = _ at hk
  rw [List.getElem?_append] at hk
  split at hk
  case isTrue => exact hs k q' stored hk
  case isFalse hlt =>
    obtain ⟨hzero, hlast⟩ := List.getElem?_eq_some_iff.mp hk
    have hkeq : k = s.returned.length := by
      rw [List.length_singleton] at hzero
      omega
    subst hkeq
    simp only [Nat.sub_self, List.getElem_cons_zero, Prod.mk.injEq] at hlast
    obtain ⟨rfl, hresult'⟩ := hlast
    exact hresult stored hresult'

theorem Matched.failed {s : Session σ} (hs : Matched s) (q : Request) :
    Matched (s.return q none) := by
  refine hs.return ?_
  rintro stored ⟨⟩

theorem received_matched {s : Session σ} {q : Request} {buffer : Marked} {i : ℕ} {r : Response}
    (hs : Matched s) (hrequests : s.requests = [])
    (hi : s.log[i]? = some (mark s.returned.length q.encode, r))
    (hbuffer : buffer ++ s.responses = mark i r.encode) :
    Matched (s.received q buffer) ∧ (s.received q buffer).Current := by
  unfold Session.received
  split
  case isTrue => exact ⟨hs, .inr ⟨i, r, hrequests, hi, hbuffer⟩⟩
  case isFalse hlt =>
    refine ⟨hs.return fun stored hstored => ?_, trivial⟩
    have hlen : buffer.length + s.responses.length = responseSize := by
      rw [← List.length_append, hbuffer, length_mark, Response.length_encode]
    have hnil : s.responses = [] := List.eq_nil_of_length_eq_zero (by omega)
    rw [hnil, List.append_nil] at hbuffer
    split at hstored
    · cases hstored
      exact ⟨i, r, hi, hbuffer⟩
    · cases hstored

theorem sent_current {s : Session σ} {q : Request} {rest : List UInt8} {n : ℕ}
    (hrequests : s.requests ++ mark s.returned.length rest = mark s.returned.length q.encode)
    (hresponses : s.responses = []) :
    Session.Current { s with
      requests := s.requests ++ mark s.returned.length (rest.take n)
      transaction := .sent q (rest.drop n) } := by
  have hall : s.requests ++ mark s.returned.length (rest.take n) ++
      mark s.returned.length (rest.drop n) = mark s.returned.length q.encode := by
    rw [List.append_assoc, ← mark_append, List.take_append_drop]
    exact hrequests
  unfold Transaction.sent
  split
  case isTrue hnil =>
    rw [hnil] at hall
    refine .inl ⟨?_, hresponses, rfl⟩
    simpa [mark] using hall
  case isFalse hne => exact ⟨hne, hall, hresponses⟩

theorem answer_current {s : Session σ} {r : Response} {w : σ} (hs : s.Current)
    (hlen : requestSize ≤ s.requests.length) :
    Session.Current { s with
      world := w
      requests := s.requests.drop requestSize
      responses := s.responses ++ mark s.log.length r.encode
      log := s.log ++ [(s.requests.take requestSize, r)] } := by
  unfold Session.Current at hs ⊢
  cases htransaction : s.transaction with
  | idle => trivial
  | sending q rest =>
    rw [htransaction] at hs
    obtain ⟨hrest, hrequests, -⟩ := hs
    have hpos := List.length_pos_of_ne_nil hrest
    have htotal := congrArg List.length hrequests
    rw [List.length_append, length_mark, length_mark, Request.length_encode] at htotal
    omega
  | receiving q buffer =>
    rw [htransaction] at hs
    rcases hs with ⟨hrequests, hresponses, rfl⟩ | ⟨i, r', hrequests, hi, hbuffer⟩
    · have hsize : s.requests.length = requestSize := by
        rw [hrequests, length_mark, Request.length_encode]
      refine .inr ⟨s.log.length, r, List.drop_eq_nil_of_le hsize.le, ?_, ?_⟩
      · rw [List.getElem?_concat_length, List.take_of_length_le hsize.le, hrequests]
      · rw [hresponses, List.nil_append, List.nil_append]
    · rw [hrequests] at hlen
      exact absurd hlen (by decide)

theorem step_matched {execute : Request → σ → Answer × σ} {s t : Session σ} {e : Move σ}
    (hs : Matched s ∧ s.Current) (hclean : s.clean e = true) (h : s.step execute e = some t) :
    Matched t ∧ t.Current := by
  obtain ⟨hmatched, hcurrent⟩ := hs
  cases e with
  | begin c =>
    simp only [Session.step] at h
    split at h
    case h_2 => cases h
    case h_1 =>
      split at h
      case isFalse =>
        cases h
        exact ⟨hmatched.failed _, trivial⟩
      case isTrue =>
        cases h
        obtain ⟨hrequests, hresponses⟩ := Bool.and_eq_true_iff.mp hclean
        rw [List.isEmpty_iff] at hrequests hresponses
        refine ⟨hmatched, ?_, ?_, hresponses⟩
        · intro hnil
          have hlen := c.request.length_encode
          rw [hnil] at hlen
          exact absurd hlen (by decide)
        · rw [hrequests, List.nil_append]
  | write n =>
    simp only [Session.step] at h
    split at h
    case h_2 => cases h
    case h_1 q rest htransaction =>
      split at h
      case isFalse => cases h
      case isTrue =>
        cases h
        simp only [Session.Current, htransaction] at hcurrent
        exact ⟨hmatched, sent_current hcurrent.2.1 hcurrent.2.2⟩
  | read n =>
    simp only [Session.step] at h
    split at h
    case h_2 => cases h
    case h_1 q buffer htransaction =>
      split at h
      case isFalse => cases h
      case isTrue hn =>
        cases h
        simp only [Session.Current, htransaction] at hcurrent
        rcases hcurrent with ⟨-, hresponses, -⟩ | ⟨i, r, hrequests, hi, hbuffer⟩
        · rw [hresponses, List.length_nil] at hn
          omega
        · refine received_matched hmatched hrequests hi ?_
          rw [List.append_assoc, List.take_append_drop]
          exact hbuffer
  | fail =>
    simp only [Session.step] at h
    split at h
    case h_1 => cases h
    all_goals
      cases h
      exact ⟨hmatched.failed _, trivial⟩
  | answer =>
    simp only [Session.step] at h
    split at h
    case isFalse => cases h
    case isTrue hlen =>
      cases h
      exact ⟨hmatched.of_log rfl rfl, answer_current hcurrent hlen⟩
  | others w =>
    cases h
    exact ⟨hmatched, hcurrent⟩

theorem run_matched (execute : Request → σ → Answer × σ) {w : σ} {moves : List (Move σ)}
    {s : Session σ} (hrun : run (Session.step execute) { world := w } moves = some s)
    (hclean : meets (Session.step execute) Session.clean { world := w } moves = true) :
    Matched s := by
  have hstart : Matched ({ world := w } : Session σ) ∧ ({ world := w } : Session σ).Current := by
    refine ⟨?_, trivial⟩
    intro k q stored hk
    cases hk
  exact (run_invariant_meets (fun s e t => step_matched) hstart hrun hclean).1

def statsCall : Call := { op := 25, handle := 1 }

def counting (_ : Request) (count : ℕ) : Answer × ℕ := (⟨count, 0, 0, []⟩, count + 1)

def transactRun : List (Move ℕ) :=
  [.begin statsCall, .write 100, .write 180, .answer, .read 200, .read 76]

theorem run_matched_twice :
    ∃ s, run (Session.step counting) { world := 0 } (transactRun ++ transactRun) = some s ∧
      s.returned.length = 2 ∧ Matched s := by
  have hend : (run (Session.step counting) { world := 0 } (transactRun ++ transactRun)).map
      (fun s => s.returned.length) = some 2 := by decide +kernel
  obtain ⟨s, hrun, htwo⟩ := Option.map_eq_some_iff.mp hend
  exact ⟨s, hrun, htwo, run_matched counting hrun (by decide +kernel)⟩

def staleRun : List (Move ℕ) :=
  [.begin statsCall, .write requestSize, .fail, .answer, .begin statsCall, .write requestSize,
    .read responseSize]

theorem stale_response_accepted :
    ∃ s, run (Session.step counting) { world := 0 } staleRun = some s ∧ ¬ Matched s := by
  have hend : (run (Session.step counting) { world := 0 } staleRun).map (fun s =>
      ((s.returned.map fun p => p.2.isSome), s.log.map fun p => (p.1.map Prod.fst).head?)) =
      some ([false, true], [some 0]) := by decide +kernel
  obtain ⟨s, hrun, hs⟩ := Option.map_eq_some_iff.mp hend
  obtain ⟨hreturned, hlog⟩ := Prod.mk.inj hs
  refine ⟨s, hrun, fun hmatched => ?_⟩
  -- the call numbered 1 returned 0, but its request is not in the log
  have hone : (s.returned.map fun p => p.2.isSome)[1]? = some true := by rw [hreturned]; rfl
  rw [List.getElem?_map] at hone
  obtain ⟨⟨q, result⟩, hcall, hsome⟩ := Option.map_eq_some_iff.mp hone
  obtain ⟨stored, rfl⟩ := Option.isSome_iff_exists.mp hsome
  obtain ⟨i, r, hi, -⟩ := hmatched 1 q stored hcall
  have hfirst : (s.log.map fun p => (p.1.map Prod.fst).head?)[i]? = some (some 1) := by
    have hbytes : (mark 1 q.encode).map Prod.fst = List.replicate requestSize 1 := by
      rw [← q.length_encode, mark, List.map_map, List.eq_replicate_iff]
      simp
    rw [List.getElem?_map, hi, Option.map_some, hbytes]
    rfl
  rw [hlog] at hfirst
  cases i with
  | zero => cases hfirst
  | succ i => cases hfirst

end Tcpcc.Native

import Tcpcc.Control.Wire
import Tcpcc.Lib.Machine

/-!
# The control thread and its streams

`tcpcc_control_thread` over a byte stream on stdin and one on stdout. Before each record, and
whenever a read finds nothing, the thread sleeps on a completion that the virtual interrupt of
stdin completes; it may have been completed more often than there is something to read. `world`
is all the rest of the hosted kernel, which other threads change at any time. `arrived` and
`handled` are history.
-/

namespace Tcpcc.Control
open Machine Records

variable {σ : Type}

def EPIPE : ℤ := 32

structure Answer where
  status : ℤ
  handle : ℕ
  length : ℕ
  data : List UInt8
  deriving DecidableEq, Repr

def Request.foreign (q : Request) : Bool := q.magic != controlMagic || q.version != controlVersion

/-- The response to a record: the request is executed if the record is one of the protocol. -/
def respond (execute : Request → σ → Answer × σ) (record : List UInt8) (w : σ) : Response × σ :=
  let q := Request.decode record
  if q.foreign then ({ op := q.op, status := -EPROTO, handle := q.handle }, w)
  else
    let (a, w) := execute q w
    ({ op := q.op, status := a.status, handle := a.handle, length := a.length, data := a.data }, w)

def terminal (record : List UInt8) (r : Response) : Bool :=
  (Request.decode record).op == opFinish ||
    ((Request.decode record).op == opShutdown && r.status == 0)

inductive Phase
  | waiting
  | reading (buffer : List UInt8)
  | asleep (buffer : List UInt8)
  | executing (record : List UInt8)
  | writing (last : Bool) (status : ℤ) (rest : List UInt8)
  | ended (result : ℤ) (buffer : List UInt8)
  deriving DecidableEq, Repr

structure Loop (σ : Type) where
  world : σ
  stdin : List UInt8 := []
  closed : Bool := false
  requestReady : Completion := 0
  phase : Phase := .waiting
  stdout : List UInt8 := []
  arrived : List UInt8 := []
  handled : List (List UInt8 × Response) := []

inductive Event (σ : Type)
  | arrive (bytes : List UInt8)
  | hangup
  | irq
  | others (w : σ)
  | awaken
  | again
  | read (n : ℕ)
  | eof
  | execute
  | write (n : ℕ)

def Event.own : Event σ → Bool
  | .arrive _ => false
  | .hangup => false
  | .others _ => false
  | _ => true

/-- `tcpcc_control_read_exact` with so much of the record. -/
def Phase.received (buffer : List UInt8) : Phase :=
  if buffer.length < requestSize then .reading buffer else .executing buffer

/-- `tcpcc_control_write_exact` with so much of the response left, and what follows it. -/
def Phase.sent (last : Bool) (status : ℤ) (rest : List UInt8) : Phase :=
  if rest = [] then if last then .ended status [] else .waiting else .writing last status rest

section
variable (execute : Request → σ → Answer × σ)

def step (s : Loop σ) : Event σ → Option (Loop σ)
  | .arrive bytes =>
    if s.closed then none
    else some { s with stdin := s.stdin ++ bytes, arrived := s.arrived ++ bytes }
  | .hangup => some { s with closed := true }
  | .irq => some { s with requestReady := Completion.complete s.requestReady }
  | .others w => some { s with world := w }
  | .awaken =>
    if s.requestReady = 0 then none
    else
      match s.phase with
      | .waiting =>
        some { s with requestReady := Completion.take s.requestReady, phase := .reading [] }
      | .asleep buffer =>
        some { s with requestReady := Completion.take s.requestReady, phase := .reading buffer }
      | _ => none
  | .again =>
    match s.phase with
    | .reading buffer => some { s with phase := .asleep buffer }
    | _ => none
  | .read n =>
    match s.phase with
    | .reading buffer =>
      if 0 < n ∧ n ≤ requestSize - buffer.length ∧ n ≤ s.stdin.length then
        some { s with stdin := s.stdin.drop n, phase := .received (buffer ++ s.stdin.take n) }
      else none
    | _ => none
  | .eof =>
    match s.phase with
    | .reading buffer =>
      if s.stdin = [] ∧ s.closed then some { s with phase := .ended (-EPIPE) buffer } else none
    | _ => none
  | .execute =>
    match s.phase with
    | .executing record =>
      let (r, w) := respond execute record s.world
      some { s with
        world := w
        phase := .writing (terminal record r) r.status r.encode
        handled := s.handled ++ [(record, r)] }
    | _ => none
  | .write n =>
    match s.phase with
    | .writing last status rest =>
      if 0 < n ∧ n ≤ rest.length then
        some { s with stdout := s.stdout ++ rest.take n, phase := .sent last status (rest.drop n) }
      else none
    | _ => none

end

/-! ## The invariant -/

def Phase.held : Phase → List UInt8
  | .reading buffer => buffer
  | .asleep buffer => buffer
  | .executing record => record
  | .ended _ buffer => buffer
  | _ => []

def Phase.unsent : Phase → List UInt8
  | .writing _ _ rest => rest
  | _ => []

def Continues (handled : List (List UInt8 × Response)) : Prop :=
  ∀ p ∈ handled, terminal p.1 p.2 = false

/-- What the phase says of the requests handled so far. The thread has ended because of the last
of them, or because stdin is `drained`. -/
def Phase.OK (drained : Prop) : Phase → List (List UInt8 × Response) → Prop
  | .waiting, handled => Continues handled
  | .reading buffer, handled => buffer.length < requestSize ∧ Continues handled
  | .asleep buffer, handled => buffer.length < requestSize ∧ Continues handled
  | .executing record, handled => record.length = requestSize ∧ Continues handled
  | .writing last _ rest, handled =>
    rest ≠ [] ∧ ∃ earlier p, handled = earlier ++ [p] ∧ last = terminal p.1 p.2 ∧
      rest.length ≤ p.2.encode.length ∧ Continues earlier
  | .ended _ buffer, handled =>
    buffer.length < requestSize ∧ Continues handled.dropLast ∧ (Continues handled → drained)

def Loop.Drained (s : Loop σ) : Prop := s.closed = true ∧ s.stdin = []

structure Framed (execute : Request → σ → Answer × σ) (s : Loop σ) : Prop where
  sizes : ∀ p ∈ s.handled, p.1.length = requestSize
  answers : ∀ p ∈ s.handled, ∃ w, p.2 = (respond execute p.1 w).1
  consumed : s.arrived = (s.handled.map Prod.fst).flatten ++ s.phase.held ++ s.stdin
  output : s.stdout ++ s.phase.unsent = (s.handled.map fun p => p.2.encode).flatten
  phase : s.phase.OK s.Drained s.handled

theorem Continues.dropLast {handled : List (List UInt8 × Response)} (h : Continues handled) :
    Continues handled.dropLast := fun p hp => h p (List.dropLast_subset _ hp)

theorem Phase.OK.mono {drained drained' : Prop} {phase : Phase}
    {handled : List (List UInt8 × Response)} (h : phase.OK drained handled)
    (hd : drained → drained') : phase.OK drained' handled := by
  cases phase with
  | ended result buffer => exact ⟨h.1, h.2.1, fun hc => hd (h.2.2 hc)⟩
  | _ => exact h

theorem Phase.held_received (buffer : List UInt8) : (Phase.received buffer).held = buffer := by
  unfold Phase.received
  split <;> rfl

theorem Phase.unsent_received (buffer : List UInt8) : (Phase.received buffer).unsent = [] := by
  unfold Phase.received
  split <;> rfl

theorem Phase.received_ok {drained : Prop} {buffer : List UInt8}
    {handled : List (List UInt8 × Response)} (hlen : buffer.length ≤ requestSize)
    (h : Continues handled) : (Phase.received buffer).OK drained handled := by
  unfold Phase.received
  split
  case isTrue hlt => exact ⟨hlt, h⟩
  case isFalse hge => exact ⟨le_antisymm hlen (not_lt.mp hge), h⟩

theorem Phase.held_sent (last : Bool) (status : ℤ) (rest : List UInt8) :
    (Phase.sent last status rest).held = [] := by
  unfold Phase.sent
  split
  · split <;> rfl
  · rfl

theorem Phase.unsent_sent (last : Bool) (status : ℤ) (rest : List UInt8) :
    (Phase.sent last status rest).unsent = rest := by
  unfold Phase.sent
  split
  case isTrue h =>
    rw [h]
    split <;> rfl
  case isFalse => rfl

theorem Phase.sent_ok {drained : Prop} {status : ℤ} {rest : List UInt8}
    {earlier : List (List UInt8 × Response)} {p : List UInt8 × Response}
    (hrest : rest.length ≤ p.2.encode.length) (h : Continues earlier) :
    (Phase.sent (terminal p.1 p.2) status rest).OK drained (earlier ++ [p]) := by
  unfold Phase.sent
  split
  case isTrue =>
    split
    case isTrue hterminal =>
      refine ⟨by decide, ?_, fun hc => ?_⟩
      · rw [List.dropLast_concat]
        exact h
      · rw [hc p (by simp)] at hterminal
        cases hterminal
    case isFalse hterminal =>
      intro p' hp'
      rcases List.mem_append.mp hp' with hp' | hp'
      · exact h p' hp'
      · rw [List.mem_singleton.mp hp']
        simpa using hterminal
  case isFalse hne => exact ⟨hne, earlier, p, rfl, rfl, hrest, h⟩

section
variable {execute : Request → σ → Answer × σ} {s t : Loop σ}

theorem framed_start (execute : Request → σ → Answer × σ) (w : σ) :
    Framed execute { world := w } where
  sizes := by simp
  answers := by simp
  consumed := rfl
  output := rfl
  phase := by
    intro p hp
    cases hp

theorem Framed.received {buffer : List UInt8} {n : ℕ} (hs : Framed execute s)
    (hp : s.phase = .reading buffer) (hn : n ≤ requestSize - buffer.length) :
    Framed execute { s with
      stdin := s.stdin.drop n
      phase := .received (buffer ++ s.stdin.take n) } := by
  obtain ⟨hsizes, hanswers, hconsumed, houtput, hphase⟩ := hs
  rw [hp] at hconsumed houtput hphase
  refine ⟨hsizes, hanswers, ?_, ?_, ?_⟩
  · change s.arrived = _ ++ buffer ++ s.stdin at hconsumed
    simp only [Phase.held_received, hconsumed, List.append_assoc, List.take_append_drop]
  · rw [Phase.unsent_received]
    exact houtput
  · refine Phase.received_ok ?_ hphase.2
    have hlt : buffer.length < requestSize := hphase.1
    rw [List.length_append, List.length_take]
    omega

theorem Framed.answered {record : List UInt8} (hs : Framed execute s)
    (hp : s.phase = .executing record) :
    Framed execute { s with
      world := (respond execute record s.world).2
      phase := .writing (terminal record (respond execute record s.world).1)
        (respond execute record s.world).1.status (respond execute record s.world).1.encode
      handled := s.handled ++ [(record, (respond execute record s.world).1)] } := by
  obtain ⟨hsizes, hanswers, hconsumed, houtput, hphase⟩ := hs
  rw [hp] at hconsumed houtput hphase
  refine ⟨?_, ?_, ?_, ?_, ?_, s.handled, _, rfl, rfl, le_refl _, hphase.2⟩
  · rw [List.forall_mem_append, List.forall_mem_singleton]
    exact ⟨hsizes, hphase.1⟩
  · rw [List.forall_mem_append, List.forall_mem_singleton]
    exact ⟨hanswers, s.world, rfl⟩
  · simpa [Phase.held] using hconsumed
  · change s.stdout ++ [] = _ at houtput
    rw [List.append_nil] at houtput
    simp [Phase.unsent, houtput]
  · intro hnil
    have hlen := Response.length_encode (respond execute record s.world).1
    rw [hnil] at hlen
    exact absurd hlen (by decide)

theorem Framed.written {last : Bool} {status : ℤ} {rest : List UInt8} (hs : Framed execute s)
    (hp : s.phase = .writing last status rest) (n : ℕ) :
    Framed execute { s with
      stdout := s.stdout ++ rest.take n
      phase := .sent last status (rest.drop n) } := by
  obtain ⟨hsizes, hanswers, hconsumed, houtput, hphase⟩ := hs
  rw [hp] at hconsumed houtput hphase
  obtain ⟨-, earlier, p, hhandled, rfl, hrest, hcontinues⟩ := hphase
  refine ⟨hsizes, hanswers, ?_, ?_, ?_⟩
  · rw [Phase.held_sent]
    exact hconsumed
  · rw [Phase.unsent_sent, List.append_assoc, List.take_append_drop]
    exact houtput
  · rw [hhandled]
    refine Phase.sent_ok ?_ hcontinues
    rw [List.length_drop]
    omega

theorem Framed.awoken {buffer : List UInt8} (hs : Framed execute s)
    (hp : s.phase = .waiting ∧ buffer = [] ∨ s.phase = .asleep buffer) (ready : Completion) :
    Framed execute { s with requestReady := ready, phase := .reading buffer } := by
  obtain ⟨hsizes, hanswers, hconsumed, houtput, hphase⟩ := hs
  obtain ⟨hp, rfl⟩ | hp := hp
  · rw [hp] at hconsumed houtput hphase
    exact ⟨hsizes, hanswers, hconsumed, houtput, by decide, hphase⟩
  · rw [hp] at hconsumed houtput hphase
    exact ⟨hsizes, hanswers, hconsumed, houtput, hphase⟩

theorem Framed.step {e : Event σ} (hs : Framed execute s) (h : step execute s e = some t) :
    Framed execute t := by
  cases e with
  | arrive bytes =>
    obtain ⟨hopen, h⟩ := Option.ite_none_left_eq_some.mp h
    cases h
    refine { hs with consumed := ?_, phase := hs.phase.mono fun hd => absurd hd.1 hopen }
    simp only [hs.consumed, List.append_assoc]
  | hangup =>
    cases h
    exact { hs with phase := hs.phase.mono fun hd => ⟨rfl, hd.2⟩ }
  | irq | others =>
    cases h
    exact { hs with }
  | awaken =>
    obtain ⟨-, h⟩ := Option.ite_none_left_eq_some.mp h
    split at h
    case h_1 hp =>
      cases h
      exact hs.awoken (.inl ⟨hp, rfl⟩) _
    case h_2 hp =>
      cases h
      exact hs.awoken (.inr hp) _
    case h_3 => cases h
  | again =>
    simp only [Control.step] at h
    split at h
    case h_1 buffer hp =>
      cases h
      obtain ⟨hsizes, hanswers, hconsumed, houtput, hphase⟩ := hs
      rw [hp] at hconsumed houtput hphase
      exact ⟨hsizes, hanswers, hconsumed, houtput, hphase⟩
    case h_2 => cases h
  | read n =>
    simp only [Control.step] at h
    split at h
    case h_1 buffer hp =>
      obtain ⟨hn, h⟩ := Option.ite_none_right_eq_some.mp h
      cases h
      exact hs.received hp hn.2.1
    case h_2 => cases h
  | eof =>
    simp only [Control.step] at h
    split at h
    case h_1 buffer hp =>
      obtain ⟨hend, h⟩ := Option.ite_none_right_eq_some.mp h
      cases h
      obtain ⟨hsizes, hanswers, hconsumed, houtput, hphase⟩ := hs
      rw [hp] at hconsumed houtput hphase
      exact ⟨hsizes, hanswers, hconsumed, houtput, hphase.1, hphase.2.dropLast,
        fun _ => ⟨hend.2, hend.1⟩⟩
    case h_2 => cases h
  | execute =>
    simp only [Control.step] at h
    split at h
    case h_1 record hp =>
      cases h
      exact hs.answered hp
    case h_2 => cases h
  | write n =>
    simp only [Control.step] at h
    split at h
    case h_1 last status rest hp =>
      obtain ⟨-, h⟩ := Option.ite_none_right_eq_some.mp h
      cases h
      exact hs.written hp n
    case h_2 => cases h

theorem framed_run {w : σ} {events : List (Event σ)}
    (h : run (Control.step execute) { world := w } events = some s) : Framed execute s :=
  run_invariant (fun _ _ _ hs hstep => hs.step hstep) (framed_start execute w) h

/-! ## Consequences -/

theorem length_encodes (handled : List (List UInt8 × Response)) :
    (handled.map fun p => p.2.encode).flatten.length = responseSize * handled.length := by
  rw [length_flatten_records, List.length_map]
  intro r hr
  obtain ⟨p, -, rfl⟩ := List.mem_map.mp hr
  exact p.2.length_encode

theorem Framed.records (hs : Framed execute s) :
    records requestSize s.arrived =
      s.handled.map Prod.fst ++ records requestSize (s.phase.held ++ s.stdin) := by
  rw [hs.consumed, List.append_assoc]
  refine records_flatten (by decide) ?_ _
  intro r hr
  obtain ⟨p, hp, rfl⟩ := List.mem_map.mp hr
  exact hs.sizes p hp

theorem Framed.length_consumed (hs : Framed execute s) :
    s.arrived.length - s.stdin.length =
      requestSize * s.handled.length + s.phase.held.length := by
  have hlen : (s.handled.map Prod.fst).flatten.length = requestSize * s.handled.length := by
    rw [length_flatten_records, List.length_map]
    intro r hr
    obtain ⟨p, hp, rfl⟩ := List.mem_map.mp hr
    exact hs.sizes p hp
  rw [hs.consumed, List.length_append, List.length_append, hlen, Nat.add_sub_cancel]

theorem Framed.continues_dropLast (hs : Framed execute s) : Continues s.handled.dropLast := by
  have hphase := hs.phase
  cases hp : s.phase with
  | waiting =>
    rw [hp] at hphase
    exact Continues.dropLast hphase
  | writing last status rest =>
    rw [hp] at hphase
    obtain ⟨-, earlier, p, hhandled, -, -, hearlier⟩ := hphase
    rw [hhandled, List.dropLast_concat]
    exact hearlier
  | ended result buffer =>
    rw [hp] at hphase
    exact hphase.2.1
  | _ =>
    rw [hp] at hphase
    exact hphase.2.dropLast

theorem Framed.length_stdout (hs : Framed execute s) {n : ℕ}
    (hn : requestSize * n < s.arrived.length - s.stdin.length) :
    responseSize * n ≤ s.stdout.length := by
  have hlen : s.stdout.length + s.phase.unsent.length = responseSize * s.handled.length := by
    rw [← length_encodes, ← hs.output, List.length_append]
  have hread := hs.length_consumed
  have hphase := hs.phase
  cases hp : s.phase with
  | writing last status rest =>
    rw [hp] at hlen hread hphase
    obtain ⟨-, -, p, -, -, hrest, -⟩ := hphase
    rw [Response.length_encode] at hrest
    simp only [Phase.held, Phase.unsent, List.length_nil] at hlen hread
    simp only [requestSize, responseSize] at *
    omega
  | executing record =>
    rw [hp] at hlen hread hphase
    have hrecord : record.length = requestSize := hphase.1
    simp only [Phase.held, Phase.unsent, List.length_nil] at hlen hread
    simp only [requestSize, responseSize] at *
    omega
  | waiting =>
    rw [hp] at hlen hread hphase
    simp only [Phase.held, Phase.unsent, List.length_nil] at hlen hread
    simp only [requestSize, responseSize] at *
    omega
  | _ =>
    rw [hp] at hlen hread hphase
    have hbuffer := hphase.1
    simp only [Phase.held, Phase.unsent, List.length_nil] at hlen hread
    simp only [requestSize, responseSize] at *
    omega

theorem Framed.all_handled (hs : Framed execute s) (hstdin : s.stdin = [])
    (hphase : ∀ record, s.phase ≠ .executing record) :
    s.handled.map Prod.fst = Records.records requestSize s.arrived := by
  have hheld : s.phase.held.length < requestSize := by
    have hok := hs.phase
    cases hp : s.phase with
    | executing record => exact absurd hp (hphase record)
    | waiting => decide
    | writing last status rest => exact Nat.succ_pos 279
    | _ =>
      rw [hp] at hok
      exact hok.1
  rw [hs.records, hstdin, List.append_nil, records_of_lt hheld, List.append_nil]

/-! ## Progress -/

def Leads (execute : Request → σ → Answer × σ) (s t : Loop σ) : Prop :=
  ∃ events, (∀ e ∈ events, Event.own e = true) ∧ run (Control.step execute) s events = some t

theorem Leads.refl (s : Loop σ) : Leads execute s s := ⟨[], by simp, rfl⟩

theorem Leads.trans {u : Loop σ} (h : Leads execute s t) (h' : Leads execute t u) :
    Leads execute s u := by
  obtain ⟨es, hes, hrun⟩ := h
  obtain ⟨fs, hfs, hrun'⟩ := h'
  exact ⟨es ++ fs, List.forall_mem_append.mpr ⟨hes, hfs⟩, run_trans hrun hrun'⟩

theorem leads_of_step {e : Event σ} (he : Event.own e = true)
    (h : Control.step execute s e = some t) : Leads execute s t :=
  ⟨[e], by simpa using he, run_cons.mpr ⟨t, h, rfl⟩⟩

theorem Leads.arrived (h : Leads execute s t) : t.arrived = s.arrived := by
  obtain ⟨es, hown, hrun⟩ := h
  induction es generalizing s with
  | nil =>
    cases hrun
    rfl
  | cons e es ih =>
    obtain ⟨u, hu, hrun⟩ := run_cons.mp hrun
    obtain ⟨he, hes⟩ := List.forall_mem_cons.mp hown
    rw [ih hes hrun]
    cases e with
    | arrive bytes => cases he
    | hangup => cases he
    | others w => cases he
    | irq =>
      cases hu
      rfl
    | _ =>
      simp only [Control.step] at hu
      repeat' split at hu
      all_goals first
        | cases hu; rfl
        | cases hu

theorem complete_ne_zero (c : Completion) : Completion.complete c ≠ 0 := by
  unfold Completion.complete
  split
  case isTrue h =>
    rw [h]
    decide
  case isFalse => exact Nat.succ_ne_zero c

theorem leads_woken (execute : Request → σ → Answer × σ) {buffer : List UInt8}
    (hphase : s.phase = .asleep buffer ∨ s.phase = .waiting ∧ buffer = []) :
    ∃ t, Leads execute s t ∧ t.stdin = s.stdin ∧ t.phase = .reading buffer := by
  have hcredit := complete_ne_zero s.requestReady
  refine ⟨{ s with
    requestReady := Completion.take (Completion.complete s.requestReady)
    phase := .reading buffer }, ?_, rfl, rfl⟩
  refine (leads_of_step (e := .irq) rfl rfl).trans (leads_of_step (e := .awaken) rfl ?_)
  rcases hphase with hphase | ⟨hphase, rfl⟩
  · simp only [Control.step, hphase, hcredit, if_false]
  · simp only [Control.step, hphase, hcredit, if_false]

theorem leads_written (execute : Request → σ → Answer × σ) {last : Bool} {status : ℤ}
    {rest : List UInt8}
    (hphase : s.phase = .writing last status rest) (hrest : rest ≠ []) :
    ∃ t, Leads execute s t ∧ t.stdin = s.stdin ∧
      t.phase = if last then .ended status [] else .waiting := by
  refine ⟨{ s with
    stdout := s.stdout ++ rest.take rest.length
    phase := .sent last status (rest.drop rest.length) },
    leads_of_step (e := .write rest.length) rfl ?_, rfl, ?_⟩
  · have hpos : 0 < rest.length ∧ rest.length ≤ rest.length :=
      ⟨List.length_pos_of_ne_nil hrest, le_refl _⟩
    simp only [Control.step, hphase, hpos, and_self, if_true]
  · simp [Phase.sent]

theorem Framed.leads_read (hs : Framed execute s) :
    ∃ t, Leads execute s t ∧ t.stdin = s.stdin ∧
      ((∃ buffer, t.phase = .reading buffer) ∨
        ∃ result buffer, t.phase = .ended result buffer) := by
  have hwritten : ∀ {u : Loop σ} {last status rest}, Leads execute s u → u.stdin = s.stdin →
      u.phase = .writing last status rest → rest ≠ [] →
      ∃ t, Leads execute s t ∧ t.stdin = s.stdin ∧
        ((∃ buffer, t.phase = .reading buffer) ∨
          ∃ result buffer, t.phase = .ended result buffer) := by
    intro u last status rest hu hustdin hphase hrest
    obtain ⟨v, hv, hvstdin, hvphase⟩ := leads_written execute hphase hrest
    cases last with
    | true => exact ⟨v, hu.trans hv, hvstdin.trans hustdin, .inr ⟨_, _, hvphase⟩⟩
    | false =>
      obtain ⟨t, ht, htstdin, htphase⟩ := leads_woken execute (.inr ⟨hvphase, rfl⟩)
      exact ⟨t, (hu.trans hv).trans ht, htstdin.trans (hvstdin.trans hustdin), .inl ⟨_, htphase⟩⟩
  cases hp : s.phase with
  | waiting =>
    obtain ⟨t, ht, hstdin, hphase⟩ := leads_woken execute (.inr ⟨hp, rfl⟩)
    exact ⟨t, ht, hstdin, .inl ⟨_, hphase⟩⟩
  | reading buffer => exact ⟨s, .refl s, rfl, .inl ⟨buffer, hp⟩⟩
  | asleep buffer =>
    obtain ⟨t, ht, hstdin, hphase⟩ := leads_woken execute (.inl hp)
    exact ⟨t, ht, hstdin, .inl ⟨_, hphase⟩⟩
  | executing record =>
    have hstep : Control.step execute s .execute = some { s with
        world := (respond execute record s.world).2
        phase := .writing (terminal record (respond execute record s.world).1)
          (respond execute record s.world).1.status (respond execute record s.world).1.encode
        handled := s.handled ++ [(record, (respond execute record s.world).1)] } := by
      simp only [Control.step, hp]
    refine hwritten (leads_of_step rfl hstep) rfl rfl ?_
    exact (hs.step hstep).phase.1
  | writing last status rest =>
    have hphase := hs.phase
    rw [hp] at hphase
    exact hwritten (.refl s) rfl hp hphase.1
  | ended result buffer => exact ⟨s, .refl s, rfl, .inr ⟨result, buffer, hp⟩⟩

theorem Framed.of_leads (hs : Framed execute s) (h : Leads execute s t) : Framed execute t := by
  obtain ⟨events, -, hrun⟩ := h
  exact run_invariant (fun _ _ _ hs hstep => hs.step hstep) hs hrun

theorem Framed.leads_quiet (hs : Framed execute s) :
    ∃ t, Leads execute s t ∧ ((∃ buffer, t.phase = .reading buffer ∧ t.stdin = []) ∨
      ∃ result buffer, t.phase = .ended result buffer) := by
  -- every read takes one byte at least
  induction hn : s.stdin.length using Nat.strong_induction_on generalizing s with
  | _ n ih =>
    obtain ⟨u, hu, hstdin, ⟨buffer, hphase⟩ | hended⟩ := hs.leads_read
    · rcases List.eq_nil_or_concat u.stdin with hnil | ⟨front, byte, hcons⟩
      · exact ⟨u, hu, .inl ⟨buffer, hphase, hnil⟩⟩
      · have huframed := hs.of_leads hu
        have hlen : u.stdin.length = front.length + 1 := by
          rw [hcons, List.length_concat]
        have hroom : buffer.length < requestSize := by
          have hok := huframed.phase
          rw [hphase] at hok
          exact hok.1
        have hstep : Control.step execute u (.read 1) = some { u with
            stdin := u.stdin.drop 1
            phase := .received (buffer ++ u.stdin.take 1) } := by
          have hone : 0 < 1 ∧ 1 ≤ requestSize - buffer.length ∧ 1 ≤ u.stdin.length := by omega
          simp only [Control.step, hphase, hone, and_self, if_true]
        have hless : (u.stdin.drop 1).length < n := by
          rw [List.length_drop, ← hn, ← hstdin]
          omega
        obtain ⟨t, ht, hquiet⟩ := ih _ hless (huframed.step hstep) rfl
        exact ⟨t, (hu.trans (leads_of_step rfl hstep)).trans ht, hquiet⟩
    · exact ⟨u, hu, .inr hended⟩

theorem Framed.leads_handled (hs : Framed execute s) :
    ∃ t, Leads execute s t ∧ t.phase.unsent = [] ∧
      (Continues t.handled → t.handled.map Prod.fst = Records.records requestSize s.arrived) := by
  obtain ⟨t, ht, ⟨buffer, hphase, hstdin⟩ | ⟨result, buffer, hphase⟩⟩ := hs.leads_quiet
  · refine ⟨t, ht, by rw [hphase]; rfl, fun _ => ?_⟩
    rw [← ht.arrived]
    refine (hs.of_leads ht).all_handled hstdin ?_
    simp [hphase]
  · refine ⟨t, ht, by rw [hphase]; rfl, fun hc => ?_⟩
    have hok := (hs.of_leads ht).phase
    rw [hphase] at hok
    rw [← ht.arrived]
    refine (hs.of_leads ht).all_handled (hok.2.2 hc).2 ?_
    simp [hphase]

theorem respond_op (record : List UInt8) (w : σ) :
    (respond execute record w).1.op = field record 6 2 := by
  simp only [respond]
  split
  · rfl
  · rfl

theorem field_op_respond (record : List UInt8) (w : σ) :
    field (respond execute record w).1.encode 6 2 = field record 6 2 := by
  rw [Response.field_op_encode, respond_op]
  exact Nat.mod_eq_of_lt (field_lt record 6 2)

end

/-- The requests handled are the consecutive records of the stream up to the first terminal one,
each answered by one response in order, written in whole before more is read. -/
theorem run_framing (execute : Request → σ → Answer × σ) {w : σ} {events : List (Event σ)}
    {s : Loop σ} (hrun : run (step execute) { world := w } events = some s) :
    s.handled.map Prod.fst <+: records requestSize s.arrived ∧
    Continues s.handled.dropLast ∧
    (∀ p ∈ s.handled, p.2.encode.length = responseSize ∧
      field p.2.encode 6 2 = field p.1 6 2 ∧ ∃ w, p.2 = (respond execute p.1 w).1) ∧
    s.stdout ++ s.phase.unsent = (s.handled.map fun p => p.2.encode).flatten ∧
    (∀ n, requestSize * n < s.arrived.length - s.stdin.length →
      responseSize * n ≤ s.stdout.length) ∧
    ∃ more t, (∀ e ∈ more, Event.own e = true) ∧ run (step execute) s more = some t ∧
      t.arrived = s.arrived ∧ t.phase.unsent = [] ∧
      (Continues t.handled → t.handled.map Prod.fst = records requestSize s.arrived) := by
  have hs := framed_run hrun
  refine ⟨?_, hs.continues_dropLast, fun p hp => ?_, hs.output, fun n => hs.length_stdout, ?_⟩
  · rw [hs.records]
    exact List.prefix_append _ _
  · obtain ⟨v, hv⟩ := hs.answers p hp
    refine ⟨p.2.length_encode, ?_, v, hv⟩
    rw [hv]
    exact field_op_respond p.1 v
  · obtain ⟨t, ht, hunsent, hhandled⟩ := hs.leads_handled
    have harrived := ht.arrived
    obtain ⟨more, hown, hmore⟩ := ht
    exact ⟨more, t, hown, hmore, harrived, hunsent, hhandled⟩

def helloRun : List (Event Unit) :=
  [.irq, .awaken, .again, .arrive ((request opHello 0 0 0 []).encode ++ [7]), .irq, .irq, .awaken,
    .read 100, .again, .awaken, .read 180, .execute, .write 200, .write 76, .irq, .awaken, .read 1]

theorem run_framing_hello :
    ∃ s, run (step fun _ w => (⟨0, 0, 0, []⟩, w)) { world := () } helloRun = some s ∧
      s.handled.length = 1 ∧ s.handled.map Prod.fst <+: records requestSize s.arrived := by
  have hend : (run (step fun _ w => (⟨0, 0, 0, []⟩, w)) { world := () } helloRun).map
      (fun s => s.handled.length) = some 1 := by decide +kernel
  obtain ⟨s, hrun, hone⟩ := Option.map_eq_some_iff.mp hend
  exact ⟨s, hrun, hone, (run_framing _ hrun).1⟩

/-! ## Records of another protocol -/

section
variable {execute : Request → σ → Answer × σ} {s t : Loop σ}

theorem run_writes {last : Bool} {status : ℤ} {rest : List UInt8} {sizes : List ℕ}
    (hphase : s.phase = .writing last status rest)
    (hrun : run (step execute) s (sizes.map .write) = some t) (hsent : t.phase.unsent = [])
    (hrest : rest ≠ []) :
    t = { s with
      phase := if last then .ended status [] else .waiting
      stdout := s.stdout ++ rest } := by
  induction sizes generalizing s rest with
  | nil =>
    cases hrun
    rw [hphase] at hsent
    exact absurd hsent hrest
  | cons n sizes ih =>
    obtain ⟨u, hu, hrun⟩ := run_cons.mp hrun
    simp only [step, hphase] at hu
    split at hu
    case isFalse => cases hu
    case isTrue hn =>
      cases hu
      by_cases hdrop : rest.drop n = []
      · have hall : rest.take n = rest := List.take_of_length_le (List.drop_eq_nil_iff.mp hdrop)
        cases sizes with
        | nil =>
          cases hrun
          simp only [hall, Phase.sent, hdrop, if_true]
        | cons m sizes =>
          obtain ⟨v, hv, -⟩ := run_cons.mp hrun
          cases last <;> simp [step, Phase.sent, hdrop] at hv
      · have hnext := ih (by simp only [Phase.sent, hdrop, if_false]) hrun hdrop
        rw [hnext]
        simp only [List.append_assoc, List.take_append_drop]

end

/-- The steps of the thread that handle the record it has read, the response written in pieces of
these sizes. -/
def handling (sizes : List ℕ) : List (Event σ) := .execute :: sizes.map .write

/-- The thread answers the record with an error and waits for the next one, and nothing else has
changed. -/
def Ignores (execute : Request → σ → Answer × σ) (s : Loop σ) (record : List UInt8) : Prop :=
  ∀ sizes t, run (step execute) s (handling sizes) = some t → t.phase.unsent = [] →
    ∃ r : Response, r.status = -EPROTO ∧ t = { s with
      phase := .waiting
      stdout := s.stdout ++ r.encode
      handled := s.handled ++ [(record, r)] }

def refusal (record : List UInt8) : Response :=
  { op := (Request.decode record).op, status := -EPROTO, handle := (Request.decode record).handle }

theorem respond_foreign {execute : Request → σ → Answer × σ} {record : List UInt8} (w : σ)
    (hforeign : (Request.decode record).foreign = true) :
    respond execute record w = (refusal record, w) := by
  simp only [respond, hforeign, if_true]
  rfl

theorem terminal_refusal (record : List UInt8) :
    terminal record (refusal record) = ((Request.decode record).op == opFinish) := by
  have hstatus : ((refusal record).status == 0) = false := rfl
  rw [terminal, hstatus, Bool.and_false, Bool.or_false]

theorem run_handling_foreign {execute : Request → σ → Answer × σ} {s t : Loop σ}
    {record : List UInt8} {sizes : List ℕ} (hphase : s.phase = .executing record)
    (hforeign : (Request.decode record).foreign = true)
    (hrun : run (step execute) s (handling sizes) = some t) (hsent : t.phase.unsent = []) :
    t = { s with
      phase := if (Request.decode record).op == opFinish then .ended (-EPROTO) [] else .waiting
      stdout := s.stdout ++ (refusal record).encode
      handled := s.handled ++ [(record, refusal record)] } := by
  obtain ⟨u, hu, hrun⟩ := run_cons.mp hrun
  simp only [step, hphase, respond_foreign s.world hforeign, terminal_refusal] at hu
  cases hu
  have hne : (refusal record).encode ≠ [] := by
    intro hnil
    have hlen := (refusal record).length_encode
    rw [hnil] at hlen
    exact absurd hlen (by decide)
  exact run_writes rfl hrun hsent hne

theorem foreign_ignored_iff (execute : Request → σ → Answer × σ) (s : Loop σ) {record : List UInt8}
    (hphase : s.phase = .executing record)
    (hforeign : (Request.decode record).foreign = true) :
    Ignores execute s record ↔ (Request.decode record).op ≠ opFinish := by
  constructor
  · intro hignores hop
    have hrun : run (step execute) s (handling [responseSize]) = some { s with
        phase := .ended (-EPROTO) []
        stdout := s.stdout ++ (refusal record).encode
        handled := s.handled ++ [(record, refusal record)] } := by
      have hlen := (refusal record).length_encode
      have htake : (refusal record).encode.take responseSize = (refusal record).encode :=
        List.take_of_length_le hlen.le
      have hdrop : (refusal record).encode.drop responseSize = [] := List.drop_eq_nil_of_le hlen.le
      have hsize : 0 < responseSize ∧ responseSize ≤ responseSize := by decide
      have hstatus : (refusal record).status = -EPROTO := rfl
      simp only [handling, List.map_cons, List.map_nil, run, step, hphase, hop, hlen, htake, hdrop,
        respond_foreign s.world hforeign, terminal_refusal, hsize, hstatus, Phase.sent, and_self,
        if_true, beq_self_eq_true, Option.bind_some]
    obtain ⟨r, -, ht⟩ := hignores _ _ hrun rfl
    have hphases := congrArg Loop.phase ht
    cases hphases
  · intro hop sizes t hrun hsent
    refine ⟨refusal record, rfl, ?_⟩
    rw [run_handling_foreign hphase hforeign hrun hsent, if_neg (by simpa using hop)]

theorem foreign_ignored_hello :
    Ignores (fun _ w => (⟨0, 0, 0, []⟩, w))
      { world := (), phase := .executing { request opHello 0 0 0 [] with version := 2 }.encode }
      { request opHello 0 0 0 [] with version := 2 }.encode :=
  (foreign_ignored_iff _ _ rfl (by decide)).mpr (by decide)

theorem foreign_finish_ends :
    (Request.decode { request opFinish 0 0 0 [] with version := 2 }.encode).foreign = true ∧
    (run (step fun _ w => (⟨0, 0, 0, []⟩, w)) { world := () }
      (.arrive { request opFinish 0 0 0 [] with version := 2 }.encode :: .irq :: .awaken ::
        .read requestSize :: handling [responseSize])).map Loop.phase =
      some (.ended (-EPROTO) []) := by
  decide +kernel

end Tcpcc.Control

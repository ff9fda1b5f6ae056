import Mathlib.Algebra.BigOperators.Group.List.Basic
import Tcpcc.Control.Wire

/-!
# Deadlines of control transactions

`tcpcc_shutdown_runtime` and the transactions it makes, on a clock in milliseconds. The program
itself takes no time: the clock moves while `poll` waits. A response reaches the client in pieces,
each at its own time. A piece that arrives in the very millisecond in which `poll` gives up may or
may not be seen. The pipe of the requests always has room for one.
-/

namespace Tcpcc.Native
open Control

def controlTimeout : ℕ := 30000
def maxGrace : ℕ := 300000
def serviceStatsSize : ℕ := 88

structure Piece where
  time : ℕ
  size : ℕ
  /-- Signals that interrupt `poll` before the piece arrives. -/
  interrupts : List ℕ := []
  /-- The piece is seen if it arrives as `poll` gives up. -/
  seen : Bool := true

structure Delivery where
  response : Response
  pieces : List Piece

abbrev Hosted := Request → ℕ → Delivery

inductive Outcome (α : Type)
  | failed (now : ℕ)
  | ok (value : α) (now : ℕ)
  deriving DecidableEq, Repr

/-- `tcpcc_control_wait` for the next piece. -/
def controlWait (deadline : ℕ) (p : Piece) : ℕ → List ℕ → Outcome Unit
  | now, [] =>
    if deadline ≤ now then .failed now
    else if p.time < deadline ∨ (p.time = deadline ∧ p.seen = true) then .ok () (max now p.time)
    else .failed deadline
  | now, t :: interrupts =>
    if deadline ≤ now then .failed now
    else if now ≤ t ∧ t < p.time ∧ t < deadline then controlWait deadline p t interrupts
    else controlWait deadline p now interrupts

/-- `tcpcc_control_read_exact` of a response. When no piece is left, nothing more arrives. -/
def controlReadExact (deadline : ℕ) : ℕ → ℕ → List Piece → Outcome Unit
  | now, received, [] => if received < responseSize then .failed (max now deadline) else .ok () now
  | now, received, p :: pieces =>
    if received < responseSize then
      match controlWait deadline p now p.interrupts with
      | .failed now => .failed now
      | .ok _ now => controlReadExact deadline now (received + p.size) pieces
    else .ok () now

def controlTransact (hosted : Hosted) (q : Request) (now : ℕ) : Outcome Response :=
  let d := hosted q now
  match controlReadExact (now + controlTimeout) now 0 d.pieces with
  | .failed now => .failed now
  | .ok _ now =>
    if d.response.magic = controlMagic ∧ d.response.version = controlVersion ∧
        d.response.op = q.op ∧ d.response.length ≤ maxPayload then .ok d.response now
    else .failed now

/-- `tcpcc_control_call`: its result, the response and the time. -/
def controlCall (hosted : Hosted) (op handle arg0 : ℕ) (now : ℕ) : ℤ × Option Response × ℕ :=
  match controlTransact hosted (request op handle arg0 0 []) now with
  | .failed now => (-1, none, now)
  | .ok r now => (r.status, some r, now)

def holdsStats (r : Option Response) : Bool := (r.map Response.length) == some serviceStatsSize

def serviceStats (hosted : Hosted) (handle now : ℕ) : ℤ × ℕ :=
  let (result, r, now) := controlCall hosted opServiceStats handle 0 now
  if result ≠ 0 then (result, now) else if holdsStats r then (0, now) else (-1, now)

/-- `tcpcc_shutdown_runtime` with the grace period of the configuration. -/
def shutdownRuntime (hosted : Hosted) (graceMs handle now : ℕ) : ℤ × ℕ :=
  let grace := if graceMs = 0 then 1 else graceMs
  let (result, now) := serviceStats hosted handle now
  if result ≠ 0 then (-1, now)
  else
    let (result, _, now) := controlCall hosted opServiceDrain handle grace now
    if result ≠ -ETIMEDOUT ∧ result ≠ 0 then (-1, now)
    else
      let (result, r, now) := controlCall hosted opServiceStop handle controlTimeout now
      if result ≠ 0 ∨ holdsStats r = false then (-1, now)
      else
        let (result, _, now) := controlCall hosted opShutdown 0 0 now
        if result ≠ 0 then (-1, now) else (0, now)

/-! ## A service that keeps its times -/

structure Delivery.Within (d : Delivery) (sent bound : ℕ) : Prop where
  complete : (d.pieces.map Piece.size).sum = responseSize
  intime : ∀ p ∈ d.pieces, p.time ≤ sent + bound

structure Delivery.Answers (d : Delivery) (q : Request) : Prop where
  magic : d.response.magic = controlMagic
  version : d.response.version = controlVersion
  op : d.response.op = q.op
  length : d.response.length ≤ maxPayload

/-- The service answers a drain within the time the request gives, with success or a timeout, and
every other request promptly, the requests for statistics with their size. -/
structure Punctual (hosted : Hosted) (prompt : ℕ) : Prop where
  answers : ∀ q t, (hosted q t).Answers q
  drained : ∀ q t, q.op = opServiceDrain → (hosted q t).Within t q.arg0 ∧
    ((hosted q t).response.status = 0 ∨ (hosted q t).response.status = -ETIMEDOUT)
  others : ∀ q t, q.op ≠ opServiceDrain → (hosted q t).Within t prompt ∧
    (hosted q t).response.status = 0
  stats : ∀ q t, q.op = opServiceStats ∨ q.op = opServiceStop →
    (hosted q t).response.length = serviceStatsSize

theorem controlWait_ok {deadline now : ℕ} {p : Piece} (hnow : now < deadline)
    (hp : p.time < deadline) (interrupts : List ℕ) :
    ∃ t, controlWait deadline p now interrupts = .ok () t ∧ t < deadline := by
  induction interrupts generalizing now with
  | nil =>
    refine ⟨max now p.time, ?_, max_lt hnow hp⟩
    rw [controlWait, if_neg (not_le.mpr hnow), if_pos (.inl hp)]
  | cons t interrupts ih =>
    rw [controlWait, if_neg (not_le.mpr hnow)]
    split
    case isTrue ht => exact ih ht.2.2
    case isFalse => exact ih hnow

theorem controlReadExact_ok {deadline now received : ℕ} {pieces : List Piece}
    (hnow : now < deadline) (htimes : ∀ p ∈ pieces, p.time < deadline)
    (hsizes : responseSize ≤ received + (pieces.map Piece.size).sum) :
    ∃ t, controlReadExact deadline now received pieces = .ok () t := by
  induction pieces generalizing now received with
  | nil =>
    have henough : ¬ received < responseSize := by simpa using hsizes
    exact ⟨now, by rw [controlReadExact, if_neg henough]⟩
  | cons p pieces ih =>
    obtain ⟨hp, hpieces⟩ := List.forall_mem_cons.mp htimes
    rw [controlReadExact]
    split
    case isTrue =>
      obtain ⟨t, ht, hlt⟩ := controlWait_ok hnow hp p.interrupts
      rw [ht]
      refine ih hlt hpieces ?_
      rw [List.map_cons, List.sum_cons] at hsizes
      omega
    case isFalse => exact ⟨now, rfl⟩

variable {hosted : Hosted}

theorem controlTransact_ok {q : Request} {now bound : ℕ} (hanswers : (hosted q now).Answers q)
    (hwithin : (hosted q now).Within now bound) (hbound : bound < controlTimeout) :
    ∃ t, controlTransact hosted q now = .ok (hosted q now).response t := by
  have hstart : now < now + controlTimeout := Nat.lt_add_of_pos_right (by decide)
  have htimes : ∀ p ∈ (hosted q now).pieces, p.time < now + controlTimeout := by
    intro p hp
    have hp := hwithin.intime p hp
    omega
  have hsizes : responseSize ≤ 0 + ((hosted q now).pieces.map Piece.size).sum := by
    rw [hwithin.complete, Nat.zero_add]
  obtain ⟨t, ht⟩ := controlReadExact_ok hstart htimes hsizes
  refine ⟨t, ?_⟩
  simp only [controlTransact, ht, hanswers.magic, hanswers.version, hanswers.op, hanswers.length,
    and_self, if_true]

theorem controlCall_ok {op handle arg0 now bound : ℕ}
    (hanswers : (hosted (request op handle arg0 0 []) now).Answers (request op handle arg0 0 []))
    (hwithin : (hosted (request op handle arg0 0 []) now).Within now bound)
    (hbound : bound < controlTimeout) :
    ∃ t, controlCall hosted op handle arg0 now =
      ((hosted (request op handle arg0 0 []) now).response.status,
        some (hosted (request op handle arg0 0 []) now).response, t) := by
  obtain ⟨t, ht⟩ := controlTransact_ok hanswers hwithin hbound
  exact ⟨t, by rw [controlCall, ht]⟩

theorem Punctual.prompt_call {prompt : ℕ} (h : Punctual hosted prompt)
    (hprompt : prompt < controlTimeout) (op handle arg0 now : ℕ) (hop : op ≠ opServiceDrain) :
    ∃ r t, controlCall hosted op handle arg0 now = (0, some r, t) ∧
      (op = opServiceStats ∨ op = opServiceStop → r.length = serviceStatsSize) := by
  obtain ⟨hwithin, hstatus⟩ := h.others (request op handle arg0 0 []) now hop
  obtain ⟨t, ht⟩ := controlCall_ok (h.answers _ now) hwithin hprompt
  rw [hstatus] at ht
  exact ⟨_, t, ht, h.stats (request op handle arg0 0 []) now⟩

theorem Punctual.drain_call {prompt : ℕ} (h : Punctual hosted prompt) {grace : ℕ}
    (hgrace : grace < controlTimeout) (handle now : ℕ) :
    ∃ result r t, controlCall hosted opServiceDrain handle grace now = (result, r, t) ∧
      (result = 0 ∨ result = -ETIMEDOUT) := by
  obtain ⟨hwithin, hstatus⟩ := h.drained (request opServiceDrain handle grace 0 []) now rfl
  obtain ⟨t, ht⟩ := controlCall_ok (h.answers _ now) hwithin hgrace
  exact ⟨_, _, t, ht, hstatus⟩

theorem shutdownRuntime_ok {prompt graceMs : ℕ} (h : Punctual hosted prompt)
    (hprompt : prompt < controlTimeout) (hgrace : graceMs < controlTimeout) (handle now : ℕ) :
    (shutdownRuntime hosted graceMs handle now).1 = 0 := by
  obtain ⟨stats, t₁, hstats, hsize₁⟩ :=
    h.prompt_call hprompt opServiceStats handle 0 now (by decide)
  have hlength₁ : holdsStats (some stats) = true := by
    simp [holdsStats, hsize₁ (.inl rfl)]
  have hsent : (if graceMs = 0 then 1 else graceMs) < controlTimeout := by
    split
    · decide
    · exact hgrace
  obtain ⟨result, r, t₂, hdrain, hresult⟩ := h.drain_call hsent handle t₁
  obtain ⟨final, t₃, hstop, hsize₃⟩ :=
    h.prompt_call hprompt opServiceStop handle controlTimeout t₂ (by decide)
  have hlength₃ : holdsStats (some final) = true := by
    simp [holdsStats, hsize₃ (.inr rfl)]
  obtain ⟨last, t₄, hshutdown, -⟩ :=
    h.prompt_call hprompt opShutdown 0 0 t₃ (by decide)
  have hdrained : ¬ (result ≠ -ETIMEDOUT ∧ result ≠ 0) := by tauto
  simp [shutdownRuntime, serviceStats, hstats, hlength₁, hdrain, hdrained, hstop, hlength₃,
    hshutdown]

def patient : Hosted := fun q t =>
  { response := { op := q.op, status := 0, length := serviceStatsSize }
    pieces := [{
      time := if q.op = opServiceDrain then t + q.arg0 else t
      size := responseSize
      seen := false }] }

theorem patient_punctual (prompt : ℕ) : Punctual patient prompt where
  answers q t := ⟨rfl, rfl, rfl, by simp [patient, serviceStatsSize, maxPayload]⟩
  drained q t hop := ⟨⟨rfl, by simp [patient, hop]⟩, .inl rfl⟩
  others q t hop := ⟨⟨rfl, by simp [patient, hop]⟩, rfl⟩
  stats q t _ := rfl

theorem patient_drain_fails {grace : ℕ} (hgrace : controlTimeout ≤ grace) (handle now : ℕ) :
    controlCall patient opServiceDrain handle grace now = (-1, none, now + controlTimeout) := by
  have hlate : ¬ now + grace < now + controlTimeout := by omega
  have hpos : ¬ now + controlTimeout ≤ now := by
    have : 0 < controlTimeout := by decide
    omega
  have hwait : controlWait (now + controlTimeout)
      { time := now + grace, size := responseSize, seen := false } now [] =
        .failed (now + controlTimeout) := by
    simp [controlWait, hpos, hlate]
  have hread : controlReadExact (now + controlTimeout) now 0
      (patient (request opServiceDrain handle grace 0 []) now).pieces =
        .failed (now + controlTimeout) := by
    change controlReadExact (now + controlTimeout) now 0
      [{ time := now + grace, size := responseSize, seen := false }] = _
    rw [controlReadExact, if_pos (by decide), hwait]
  rw [controlCall, controlTransact, hread]

theorem shutdownRuntime_drain_fails {graceMs handle now t₁ t₂ : ℕ} {stats : Response}
    {r : Option Response}
    (hstats : controlCall hosted opServiceStats handle 0 now = (0, some stats, t₁))
    (hsize : stats.length = serviceStatsSize)
    (hdrain : controlCall hosted opServiceDrain handle (if graceMs = 0 then 1 else graceMs) t₁ =
      (-1, r, t₂)) :
    (shutdownRuntime hosted graceMs handle now).1 = -1 := by
  have herror : (-1 : ℤ) ≠ -ETIMEDOUT ∧ (-1 : ℤ) ≠ 0 := by decide
  simp [shutdownRuntime, serviceStats, hstats, holdsStats, hsize, hdrain, herror]

theorem patient_shutdown_fails {graceMs : ℕ} (hgrace : controlTimeout ≤ graceMs)
    (handle now : ℕ) : (shutdownRuntime patient graceMs handle now).1 = -1 := by
  obtain ⟨stats, t₁, hstats, hsize⟩ :=
    (patient_punctual 0).prompt_call (by decide) opServiceStats handle 0 now (by decide)
  have hsent : (if graceMs = 0 then 1 else graceMs) = graceMs := by
    have : 0 < controlTimeout := by decide
    exact if_neg (by omega)
  have hdrain := patient_drain_fails hgrace handle t₁
  rw [← hsent] at hdrain
  exact shutdownRuntime_drain_fails hstats (hsize (.inl rfl)) hdrain

/-- A grace period is honoured exactly if it is shorter than the time a transaction has. -/
theorem grace_honoured_iff {graceMs prompt : ℕ} (hprompt : prompt < controlTimeout) :
    (∀ hosted, Punctual hosted prompt → ∀ handle now,
      (shutdownRuntime hosted graceMs handle now).1 = 0) ↔ graceMs < controlTimeout := by
  constructor
  · intro hall
    by_contra hlong
    have hok := hall patient (patient_punctual prompt) 0 0
    rw [patient_shutdown_fails (not_lt.mp hlong) 0 0] at hok
    exact absurd hok (by decide)
  · intro hshort hosted hpunctual handle now
    exact shutdownRuntime_ok hpunctual hprompt hshort handle now

theorem grace_honoured_default :
    Punctual patient 1000 ∧ (shutdownRuntime patient 5000 1 0).1 = 0 := by
  have hpunctual := patient_punctual 1000
  exact ⟨hpunctual, (grace_honoured_iff (by decide)).mpr (by decide) patient hpunctual 1 0⟩

theorem grace_minute_cut :
    Punctual patient 0 ∧ 60000 ≤ maxGrace ∧ (shutdownRuntime patient 60000 1 0).1 = -1 :=
  ⟨patient_punctual 0, by decide, patient_shutdown_fails (by decide) 1 0⟩

end Tcpcc.Native

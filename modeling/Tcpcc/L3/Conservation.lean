import Mathlib.Logic.Relation
import Mathlib.Data.List.Perm.Basic
import Tcpcc.L3.Device

/-!
# No packet is lost, reordered or freed twice

Whatever happens to the device, the packets in its hands only move in a few ways. Each of them
keeps the books: what was accepted is held or was freed once, in the order in which it came.
-/

namespace Tcpcc.L3
open Device

variable {s t u : Device}

/-! ## What a step does to the packets -/

namespace Transmit

inductive Moves : Transmit → Transmit → Prop
  | take {s : Transmit} {skb : Skb} {rest : List Skb} (hpending : s.pending = none)
      (hqueue : s.queue = skb :: rest) : Moves s (s.take skb rest)
  | refused {s : Transmit} {skb : Skb} (hpending : s.pending = some skb) :
      Moves s (s.attempt skb (-EAGAIN))
  | written {s : Transmit} {skb : Skb} (ret : ℤ) (hpending : s.pending = some skb) :
      Moves s ((s.attempt skb ret).settle skb ret)
  | cancelled {s : Transmit} {skb : Skb} (ret : ℤ) (hpending : s.pending = some skb)
      (hret : ret < 0) : Moves s (s.settle skb ret)
  | reap {s : Transmit} {skb : Skb} {rest : List Skb} (hqueue : s.queue = skb :: rest) :
      Moves s (s.reap skb rest)

end Transmit

open Transmit (Moves)
open Relation (ReflTransGen)

theorem finishTx_transmit {ret : ℤ} (s : Device) : (s.finishTx ret).toTransmit =
    match s.pending with
    | none => s.toTransmit
    | some skb => s.toTransmit.settle skb ret := by
  unfold finishTx
  cases hpending : s.pending with
  | none => rfl
  | some skb =>
    dsimp only
    split <;> rfl

theorem finishTx_moves {ret : ℤ} (hret : ret < 0) (s : Device) :
    ReflTransGen Moves s.toTransmit (s.finishTx ret).toTransmit := by
  rw [finishTx_transmit]
  cases hpending : s.pending with
  | none => exact .refl
  | some skb => exact .single (.cancelled ret hpending hret)

theorem wake_transmit (s : Device) : s.wake.toTransmit = s.toTransmit := by
  unfold wake
  split <;> rfl

inductive Handed (skb : Skb) (s : Device) : TxResult → Device → Prop
  | dropped (error : Bool) :
      Handed skb s .ok { s with toTransmit := s.toTransmit.discard skb error }
  | refused (hfull : txQueueLimit ≤ s.queue.length) : Handed skb s .busy { s with stopped := true }
  | queued (hroom : s.queue.length < txQueueLimit) (hqueue : s.queue ≠ []) :
      Handed skb s .ok { s with
        toTransmit := s.toTransmit.enqueue skb
        stopped := s.stopped || decide (s.queue.length + 1 ≥ txQueueLimit) }
  | first (hqueue : s.queue = []) :
      Handed skb s .ok (wake { s with
        toTransmit := s.toTransmit.enqueue skb
        stopped := s.stopped || decide (s.queue.length + 1 ≥ txQueueLimit)
        runtime := { s.runtime with txQueueWakeups := s.runtime.txQueueWakeups + 1 } })

theorem xmit_cases (skb : Skb) (linear : Bool) (s : Device) :
    Handed skb s (s.xmit skb linear).1 (s.xmit skb linear).2 := by
  unfold xmit
  split
  case isTrue => exact .dropped false
  split
  case isTrue => exact .dropped true
  split
  case isTrue hfull => exact .refused hfull
  case isFalse hroom =>
    dsimp only
    split
    case isTrue hqueue => exact .first (List.isEmpty_iff.mp hqueue)
    case isFalse hqueue =>
      exact .queued (Nat.lt_of_not_le hroom) fun hnil => hqueue (List.isEmpty_iff.mpr hnil)

theorem receive_transmit (i : PumpInput) (n : ℕ) :
    (s.receive i n).toTransmit = s.toTransmit := by
  unfold receive
  cases i.read <;> rfl

theorem unblock_moves {i : PumpInput} (hmod : i.mod ≤ 0) :
    ReflTransGen Moves s.toTransmit (s.unblock i).toTransmit := by
  unfold unblock
  split_ifs with hblocked hwritable hfail
  · exact .refl
  · exact finishTx_moves (lt_of_le_of_ne hmod hfail)
      { s with txWritable := false, txBlocked := false }
  · exact .refl
  · exact .refl

theorem armWritable_moves {mod : ℤ} (hmod : mod ≤ 0) (s : Device) :
    ReflTransGen Moves s.toTransmit (s.armWritable mod).toTransmit := by
  unfold armWritable
  dsimp only
  split
  case isTrue hfail =>
    exact finishTx_moves (lt_of_le_of_ne hmod hfail) { s with txWritable := false }
  case isFalse => exact .refl

theorem write_moves {i : PumpInput} {n : ℕ} {skb : Skb} (hmod : i.mod ≤ 0)
    (hpending : s.pending = some skb) :
    ReflTransGen Moves s.toTransmit (s.write i n skb).toTransmit := by
  unfold write
  dsimp only
  split
  case isTrue hagain =>
    rw [hagain]
    exact (ReflTransGen.single (.refused hpending)).trans (armWritable_moves hmod _)
  case isFalse =>
    rw [finishTx_transmit]
    simp only [Transmit.attempt, hpending]
    exact .single (.written i.ret hpending)

/-! ## What the pump does -/

inductive PumpMove (i : PumpInput) (s : Device) : Device → Prop
  | starts (hpump : s.pump = .created) :
      PumpMove i s { s with pump := if s.shouldStop then .exited else .awake }
  | sleeps (hpump : s.pump = .awake) (hidle : s.hasWork = false) :
      PumpMove i s { s with pump := .asleep }
  | exits (hpump : s.pump = .awake) (hstop : (s.shouldStop || s.shuttingDown) = true) :
      PumpMove i s { finishTx (-ECANCELED) s with pump := .exited }
  | begins (hpump : s.pump = .awake) (hwork : s.hasWork = true)
      (hgo : (s.shouldStop || s.shuttingDown) = false) : PumpMove i s s.beginRound
  | reads {n : ℕ} (hpump : s.pump = .receiving n) (hbudget : n < ioBudget) :
      PumpMove i s (s.receive i n)
  | readYields {n : ℕ} (hpump : s.pump = .receiving n) (hbudget : ioBudget ≤ n) :
      PumpMove i s { s with
        runtime := { s.runtime with rxBudgetYields := s.runtime.rxBudgetYields + 1 }
        rxReady := true
        pump := .received true }
  | turns {worked : Bool} (hpump : s.pump = .received worked) (hready : s.txReady = true) :
      PumpMove i s (s.unblock i)
  | skips {worked : Bool} (hpump : s.pump = .received worked) (hready : s.txReady = false) :
      PumpMove i s { s with
        runtime := { s.runtime with
          emptyRounds := s.runtime.emptyRounds + if worked then 0 else 1 }
        pump := .awake }
  | resumes {n : ℕ} {skb : Skb} (hpump : s.pump = .sending n) (hbudget : n < ioBudget)
      (hpending : s.pending = some skb) : PumpMove i s { s with pump := .writing n }
  | drained {n : ℕ} (hpump : s.pump = .sending n) (hbudget : n < ioBudget)
      (hpending : s.pending = none) (hqueue : s.queue = []) :
      PumpMove i s { s with pump := .awake }
  | takes {n : ℕ} {skb : Skb} {rest : List Skb} (hpump : s.pump = .sending n)
      (hbudget : n < ioBudget) (hpending : s.pending = none) (hqueue : s.queue = skb :: rest) :
      PumpMove i s { s with toTransmit := s.toTransmit.take skb rest, pump := .writing n }
  | writeYields {n : ℕ} (hpump : s.pump = .sending n) (hbudget : ioBudget ≤ n) :
      PumpMove i s { s with
        runtime := { s.runtime with
          txBudgetYields := s.runtime.txBudgetYields + if s.held.isEmpty then 0 else 1 }
        pump := .awake }
  | writes {n : ℕ} {skb : Skb} (hpump : s.pump = .writing n) (hpending : s.pending = some skb) :
      PumpMove i s (s.write i n skb)

theorem pumpStep_cases {i : PumpInput} (h : s.pumpStep i = some t) : PumpMove i s t := by
  unfold pumpStep at h
  split at h
  case h_1 => cases h
  case h_2 hpump =>
    cases h
    exact .starts hpump
  case h_3 hpump =>
    split_ifs at h with hidle hstop
    · cases h
      exact .sleeps hpump hidle
    · cases h
      exact .exits hpump hstop
    · cases h
      exact .begins hpump (Bool.not_eq_false _ ▸ hidle) (Bool.not_eq_true _ ▸ hstop)
  case h_4 => cases h
  case h_5 n hpump =>
    split at h
    case isTrue hbudget =>
      cases h
      exact .reads hpump hbudget
    case isFalse hbudget =>
      cases h
      exact .readYields hpump (Nat.le_of_not_lt hbudget)
  case h_6 worked hpump =>
    split at h
    case isTrue hready =>
      cases h
      exact .turns hpump hready
    case isFalse hready =>
      cases h
      exact .skips hpump (Bool.not_eq_true _ ▸ hready)
  case h_7 n hpump =>
    split at h
    case isTrue hbudget =>
      split at h
      case h_1 hpending =>
        cases h
        exact .resumes hpump hbudget hpending
      case h_2 hpending hqueue =>
        cases h
        exact .drained hpump hbudget hpending hqueue
      case h_3 hpending hqueue =>
        cases h
        exact .takes hpump hbudget hpending hqueue
    case isFalse hbudget =>
      cases h
      exact .writeYields hpump (Nat.le_of_not_lt hbudget)
  case h_8 n hpump =>
    obtain ⟨skb, hpending, rfl⟩ := Option.map_eq_some_iff.mp h
    exact .writes hpump hpending
  case h_9 => cases h

theorem PumpMove.moves {i : PumpInput} (hmod : i.mod ≤ 0) (h : PumpMove i s t) :
    ReflTransGen Moves s.toTransmit t.toTransmit := by
  cases h with
  | starts | sleeps => exact .refl
  | exits => exact finishTx_moves (by decide) s
  | begins => exact .refl
  | reads => rw [receive_transmit]
  | readYields => exact .refl
  | turns => exact unblock_moves hmod
  | skips | resumes | drained => exact .refl
  | takes _ _ hpending hqueue => exact .single (.take hpending hqueue)
  | writeYields => exact .refl
  | writes _ hpending => exact write_moves hmod hpending

theorem quiesce_transmit (s : Device) : s.quiesce.toTransmit = s.toTransmit := by
  unfold quiesce
  dsimp only
  split
  · exact wake_transmit _
  · rfl

inductive TeardownMove (s : Device) : Device → Prop
  | disables (hteardown : s.teardown = .none) (hirq : s.irqRegistered = true) :
      TeardownMove s { s with
        shuttingDown := true, eventRegistered := false, teardown := .disableIrq }
  | bare (hteardown : s.teardown = .none) (hirq : s.irqRegistered = false) :
      TeardownMove s (quiesce { s with shuttingDown := true, eventRegistered := false })
  | frees (hteardown : s.teardown = .disableIrq) : TeardownMove s { s with teardown := .freeIrq }
  | stops (hteardown : s.teardown = .freeIrq) :
      TeardownMove s (quiesce { s with irqRegistered := false })
  | joins (hteardown : s.teardown = .kthreadStop) (hexited : s.pump = .exited) :
      TeardownMove s { s with ioTask := false, teardown := .reaping }
  | reaps {skb : Skb} {rest : List Skb} (hteardown : s.teardown = .reaping)
      (hqueue : s.queue = skb :: rest) :
      TeardownMove s { s with toTransmit := s.toTransmit.reap skb rest }
  | finishes (hteardown : s.teardown = .reaping) (hqueue : s.queue = []) :
      TeardownMove s { s with teardown := .done }

theorem teardownStep_cases (h : s.teardownStep = some t) : TeardownMove s t := by
  unfold teardownStep at h
  split at h
  case h_1 hteardown =>
    dsimp only at h
    split at h
    case isTrue hirq =>
      cases h
      exact .disables hteardown hirq
    case isFalse hirq =>
      cases h
      exact .bare hteardown (Bool.not_eq_true _ ▸ hirq)
  case h_2 hteardown =>
    cases h
    exact .frees hteardown
  case h_3 hteardown =>
    cases h
    exact .stops hteardown
  case h_4 hteardown =>
    obtain ⟨hexited, h⟩ := Option.ite_none_right_eq_some.mp h
    cases h
    exact .joins hteardown hexited
  case h_5 hteardown =>
    split at h
    case h_1 hqueue =>
      cases h
      exact .finishes hteardown hqueue
    case h_2 hqueue =>
      cases h
      exact .reaps hteardown hqueue
  case h_6 => cases h

theorem TeardownMove.moves (h : TeardownMove s t) :
    ReflTransGen Moves s.toTransmit t.toTransmit := by
  cases h with
  | disables => exact .refl
  | bare => rw [quiesce_transmit]
  | frees => exact .refl
  | stops => rw [quiesce_transmit]
  | joins => exact .refl
  | reaps _ hqueue => exact .single (.reap hqueue)
  | finishes => exact .refl

theorem irqHandler_transmit (events : HostEvents) :
    (s.irqHandler events).toTransmit = s.toTransmit :=
  wake_transmit _

inductive DeviceMove (s : Device) : Event → Device → Prop
  | hands {skb : Skb} {linear : Bool} (hnew : skb ∉ s.accepted)
      (hup : ¬ (s.stopped = true ∧ s.shuttingDown = true)) :
      DeviceMove s (.xmit skb linear) (s.xmit skb linear).2
  | interrupts {events : HostEvents} : DeviceMove s (.irq events) (s.irqHandler events)
  | pumps {i : PumpInput} {t : Device} (hmod : i.mod ≤ 0) (h : PumpMove i s t) :
      DeviceMove s (.pump i) t
  | opens (hup : s.teardown = .none) :
      DeviceMove s .openDevice { s with opened := true, stopped := false }
  | closes (hup : s.teardown = .none) :
      DeviceMove s .stopDevice { s with opened := false, stopped := true }
  | tearsDown {t : Device} (h : TeardownMove s t) : DeviceMove s .teardown t

theorem step_cases {e : Event} (h : s.step e = some t) : DeviceMove s e t := by
  cases e with
  | xmit =>
    obtain ⟨hguard, h⟩ := Option.ite_none_left_eq_some.mp h
    cases h
    exact .hands (not_or.mp hguard).1 (not_or.mp hguard).2
  | irq =>
    obtain ⟨-, h⟩ := Option.ite_none_right_eq_some.mp h
    cases h
    exact .interrupts
  | pump =>
    obtain ⟨hmod, h⟩ := Option.ite_none_right_eq_some.mp h
    exact .pumps hmod (pumpStep_cases h)
  | openDevice =>
    obtain ⟨hup, h⟩ := Option.ite_none_right_eq_some.mp h
    cases h
    exact .opens hup
  | stopDevice =>
    obtain ⟨hup, h⟩ := Option.ite_none_right_eq_some.mp h
    cases h
    exact .closes hup
  | teardown => exact .tearsDown (teardownStep_cases h)

theorem step_moves {e : Event} (h : s.step e = some t)
    (hother : ∀ skb linear, e ≠ .xmit skb linear) :
    ReflTransGen Moves s.toTransmit t.toTransmit := by
  cases step_cases h with
  | hands => exact absurd rfl (hother _ _)
  | interrupts => rw [irqHandler_transmit]
  | pumps hmod hmove => exact hmove.moves hmod
  | opens | closes => exact .refl
  | tearsDown hmove => exact hmove.moves

/-! ## The books -/

namespace Transmit

structure Books (s : Transmit) : Prop where
  count : s.accepted.length = s.tx.txPackets + s.tx.txDropped + s.held.length
  once : s.accepted.Perm (s.freed ++ s.held)
  nodup : s.accepted.Nodup
  sent : s.tx.txPackets = s.wire.length
  order : (s.wire ++ s.held).Sublist s.enqueued
  entered : s.enqueued.Sublist s.accepted
  room : s.queue.length ≤ txQueueLimit
  refusals : ∀ skb, (skb, true) ∈ s.attempts → s.pending = some skb ∨ skb ∈ s.freed

variable {s t : Transmit} {skb : Skb} {rest : List Skb}

theorem held_enqueue : (s.enqueue skb).held = s.held ++ [skb] :=
  (List.append_assoc _ _ _).symm

theorem held_take (hpending : s.pending = none) (hqueue : s.queue = skb :: rest) :
    (s.take skb rest).held = s.held := by
  simp only [held, take, hpending, hqueue, Option.toList_some, Option.toList_none,
    List.nil_append, List.singleton_append]

theorem held_pending (hpending : s.pending = some skb) : s.held = skb :: s.queue := by
  simp only [held, hpending, Option.toList_some, List.singleton_append]

theorem nodup_append_new (h : s.accepted.Nodup) (hnew : skb ∉ s.accepted) :
    (s.accepted ++ [skb]).Nodup := by
  rw [List.nodup_append]
  refine ⟨h, List.pairwise_singleton _ skb, ?_⟩
  rintro a ha b hb rfl
  exact hnew (List.mem_singleton.mp hb ▸ ha)

theorem Books.discard (h : s.Books) (error : Bool) (hnew : skb ∉ s.accepted) :
    (s.discard skb error).Books where
  count := by
    have hcount := h.count
    simp only [Transmit.discard, TxStats.dropped, held, List.length_append,
      List.length_singleton] at hcount ⊢
    omega
  once := by
    have hmoved : (s.freed ++ s.held ++ [skb]).Perm (s.freed ++ [skb] ++ s.held) := by
      rw [List.append_assoc, List.append_assoc]
      exact List.perm_append_comm.append_left s.freed
    exact (h.once.append_right [skb]).trans hmoved
  nodup := nodup_append_new h.nodup hnew
  sent := h.sent
  order := h.order
  entered := h.entered.trans (List.sublist_append_left _ _)
  room := h.room
  refusals q hq := (h.refusals q hq).imp id (List.mem_append_left _)

theorem Books.enqueue (h : s.Books) (hnew : skb ∉ s.accepted)
    (hroom : s.queue.length < txQueueLimit) : (s.enqueue skb).Books where
  count := by
    have hcount := h.count
    rw [held_enqueue]
    simp only [Transmit.enqueue, List.length_append, List.length_singleton] at hcount ⊢
    omega
  once := by
    rw [held_enqueue, ← List.append_assoc]
    exact h.once.append_right [skb]
  nodup := nodup_append_new h.nodup hnew
  sent := h.sent
  order := by
    rw [held_enqueue, ← List.append_assoc]
    exact h.order.append_right [skb]
  entered := h.entered.append_right [skb]
  room := by
    simp only [Transmit.enqueue, List.length_append, List.length_singleton]
    exact hroom
  refusals := h.refusals

theorem Books.take (h : s.Books) (hpending : s.pending = none) (hqueue : s.queue = skb :: rest) :
    (s.take skb rest).Books where
  count := by
    rw [held_take hpending hqueue]
    exact h.count
  once := by
    rw [held_take hpending hqueue]
    exact h.once
  nodup := h.nodup
  sent := h.sent
  order := by
    rw [held_take hpending hqueue]
    exact h.order
  entered := h.entered
  room := by
    have hroom := h.room
    rw [hqueue, List.length_cons] at hroom
    exact Nat.le_of_succ_le hroom
  refusals q hq := by
    obtain hq | hq := h.refusals q hq
    · rw [hpending] at hq
      cases hq
    · exact .inr hq

theorem wire_refused (skb : Skb) : (s.attempt skb (-EAGAIN)).wire = s.wire := by
  have hlen : ¬ (-EAGAIN = (skb.len : ℤ)) := by
    simp only [EAGAIN]
    omega
  simp only [attempt, if_neg hlen]

theorem Books.refused (h : s.Books) (hpending : s.pending = some skb) :
    (s.attempt skb (-EAGAIN)).Books where
  count := h.count
  once := h.once
  nodup := h.nodup
  sent := (wire_refused skb).symm ▸ h.sent
  order := by
    rw [wire_refused]
    exact h.order
  entered := h.entered
  room := h.room
  refusals q hq := by
    obtain hq | hq := List.mem_append.mp hq
    · exact h.refusals q hq
    · cases List.mem_singleton.mp hq
      exact .inl hpending

theorem freed_settle (hpending : s.pending = some skb) :
    (s.freed ++ s.held).Perm (s.freed ++ [skb] ++ s.queue) := by
  rw [held_pending hpending, List.append_assoc, List.singleton_append]

theorem count_settle (h : s.Books) (hpending : s.pending = some skb) (ret : ℤ) :
    s.accepted.length =
      (s.settle skb ret).tx.txPackets + (s.settle skb ret).tx.txDropped + s.queue.length := by
  have hcount := h.count
  rw [held_pending hpending, List.length_cons] at hcount
  simp only [settle]
  split_ifs
  · simp only [TxStats.sent]
    omega
  · simp only [TxStats.dropped]
    omega

theorem refusals_settle (h : s.Books) (hpending : s.pending = some skb) {q : Skb}
    (hq : (q, true) ∈ s.attempts) : q ∈ s.freed ++ [skb] := by
  obtain hq | hq := h.refusals q hq
  · rw [hpending] at hq
    cases hq
    exact List.mem_append_right _ (List.mem_singleton_self skb)
  · exact List.mem_append_left _ hq

theorem Books.written (h : s.Books) (ret : ℤ) (hpending : s.pending = some skb) :
    ((s.attempt skb ret).settle skb ret).Books where
  count := count_settle h hpending ret
  once := h.once.trans (freed_settle hpending)
  nodup := h.nodup
  sent := by
    have hsent := h.sent
    simp only [Transmit.attempt, settle]
    split_ifs
    · rw [List.length_append, ← hsent]
      rfl
    · exact hsent
  order := by
    have horder := h.order
    rw [held_pending hpending] at horder
    simp only [Transmit.attempt, settle, held, Option.toList_none, List.nil_append]
    split_ifs
    · rwa [List.append_assoc, List.singleton_append]
    · exact ((List.sublist_cons_self skb s.queue).append_left s.wire).trans horder
  entered := h.entered
  room := h.room
  refusals q hq := by
    refine .inr ?_
    obtain hq | hq := List.mem_append.mp hq
    · exact refusals_settle h hpending hq
    · obtain ⟨rfl, -⟩ := Prod.mk.inj (List.mem_singleton.mp hq)
      exact List.mem_append_right _ (List.mem_singleton_self q)

theorem Books.cancelled (h : s.Books) {ret : ℤ} (hpending : s.pending = some skb)
    (hret : ret < 0) : (s.settle skb ret).Books where
  count := count_settle h hpending ret
  once := h.once.trans (freed_settle hpending)
  nodup := h.nodup
  sent := by
    have hlen : ¬ (ret = (skb.len : ℤ)) := by omega
    simp only [settle, if_neg hlen]
    exact h.sent
  order := by
    have horder := h.order
    rw [held_pending hpending] at horder
    exact ((List.sublist_cons_self skb s.queue).append_left s.wire).trans horder
  entered := h.entered
  room := h.room
  refusals q hq := .inr (refusals_settle h hpending hq)

theorem Books.reap (h : s.Books) (hqueue : s.queue = skb :: rest) : (s.reap skb rest).Books where
  count := by
    have hcount := h.count
    simp only [held, Transmit.reap, TxStats.dropped, hqueue, List.length_append,
      List.length_cons] at hcount ⊢
    omega
  once := by
    have honce := h.once
    simp only [held, hqueue] at honce
    refine honce.trans ?_
    simp only [held, Transmit.reap, List.append_assoc, List.singleton_append]
    exact List.perm_middle.append_left s.freed
  nodup := h.nodup
  sent := h.sent
  order := by
    have horder := h.order
    simp only [held, hqueue] at horder
    exact (((List.sublist_cons_self skb rest).append_left _).append_left _).trans horder
  entered := h.entered
  room := by
    have hroom := h.room
    rw [hqueue, List.length_cons] at hroom
    exact Nat.le_of_succ_le hroom
  refusals q hq := (h.refusals q hq).imp id (List.mem_append_left _)

theorem Books.moves (h : s.Books) (hmoves : ReflTransGen Moves s t) : t.Books := by
  induction hmoves with
  | refl => exact h
  | tail _ hmove ih =>
    cases hmove with
    | take hpending hqueue => exact ih.take hpending hqueue
    | refused hpending => exact ih.refused hpending
    | written ret hpending => exact ih.written ret hpending
    | cancelled ret hpending hret => exact ih.cancelled hpending hret
    | reap hqueue => exact ih.reap hqueue

theorem moves_accepted (hmoves : ReflTransGen Moves s t) :
    t.accepted = s.accepted ∧ t.enqueued = s.enqueued := by
  induction hmoves with
  | refl => exact ⟨rfl, rfl⟩
  | tail _ hmove ih => cases hmove <;> exact ih

theorem books_fresh : Books {} where
  count := rfl
  once := .refl _
  nodup := List.nodup_nil
  sent := rfl
  order := .refl _
  entered := .refl _
  room := Nat.zero_le _
  refusals _ h := absurd h List.not_mem_nil

end Transmit

/-! ## The end of the pump and of the device -/

def PumpAt.gone : PumpAt → Bool
  | .absent | .exited => true
  | _ => false

def PumpAt.outside : PumpAt → Bool
  | .absent | .created | .exited => true
  | _ => false

def TeardownAt.halted : TeardownAt → Bool
  | .kthreadStop | .reaping | .done => true
  | _ => false

def TeardownAt.joined : TeardownAt → Bool
  | .reaping | .done => true
  | _ => false

theorem finishTx_none (hpending : s.pending = none) (ret : ℤ) : s.finishTx ret = s := by
  unfold finishTx
  rw [hpending]

theorem finishTx_some {skb : Skb} (hpending : s.pending = some skb) (ret : ℤ) :
    ∃ stopped, s.finishTx ret =
        { s with toTransmit := s.toTransmit.settle skb ret, stopped := stopped } ∧
      (s.shuttingDown = true → stopped = s.stopped) ∧
      (stopped = true → s.stopped = true ∧
        (s.shuttingDown = false → txLowWatermark ≤ s.queue.length)) := by
  unfold finishTx
  rw [hpending]
  dsimp only
  split
  case isTrue hwake =>
    refine ⟨false, rfl, ?_, fun h => Bool.noConfusion h⟩
    intro hdown
    rw [hwake.1] at hdown
    cases hdown
  case isFalse hkeep =>
    refine ⟨s.stopped, rfl, fun _ => rfl, fun hstopped => ⟨hstopped, ?_⟩⟩
    intro hup
    exact Nat.le_of_not_lt fun hlow => hkeep ⟨hup, hstopped, hlow⟩

structure PumpFrame (s t : Device) : Prop where
  ioTask : t.ioTask = s.ioTask
  shuttingDown : t.shuttingDown = s.shuttingDown
  shouldStop : t.shouldStop = s.shouldStop
  teardown : t.teardown = s.teardown
  stopped : s.shuttingDown = true → t.stopped = s.stopped
  outside : t.pump.outside = true → t.pending = none

theorem PumpFrame.finish (s : Device) (ret : ℤ) (at' : PumpAt) :
    PumpFrame s { s.finishTx ret with pump := at' } := by
  cases hpending : s.pending with
  | none =>
    rw [finishTx_none hpending]
    exact ⟨rfl, rfl, rfl, rfl, fun _ => rfl, fun _ => hpending⟩
  | some skb =>
    obtain ⟨stopped, heq, hkeep, -⟩ := finishTx_some hpending ret
    rw [heq]
    exact ⟨rfl, rfl, rfl, rfl, hkeep, fun _ => rfl⟩

theorem PumpFrame.of_same (h : t = { s with
      toTransmit := t.toTransmit
      rx := t.rx
      runtime := t.runtime
      rxBuffer := t.rxBuffer
      passed := t.passed
      rxReady := t.rxReady
      txWritable := t.txWritable
      txBlocked := t.txBlocked
      writeInterest := t.writeInterest
      roundReads := t.roundReads
      roundWrites := t.roundWrites
      pump := t.pump }) (hin : t.pump.outside = false) : PumpFrame s t := by
  rw [h]
  exact ⟨rfl, rfl, rfl, rfl, fun _ => rfl, fun hout => Bool.noConfusion (hin.symm.trans hout)⟩

theorem PumpFrame.receive (i : PumpInput) (n : ℕ) : PumpFrame s (s.receive i n) := by
  unfold Device.receive
  cases i.read with
  | again | failed => exact .of_same rfl rfl
  | packet bytes => exact .of_same rfl rfl

theorem PumpFrame.unblock (i : PumpInput) : PumpFrame s (s.unblock i) := by
  unfold Device.unblock
  split_ifs
  · exact .of_same rfl rfl
  · obtain ⟨h₁, h₂, h₃, h₄, h₅, h₆⟩ :=
      PumpFrame.finish { s with txWritable := false, txBlocked := false } i.mod .awake
    exact ⟨h₁, h₂, h₃, h₄, h₅, h₆⟩
  · exact .of_same rfl rfl
  · exact .of_same rfl rfl

theorem PumpFrame.write (i : PumpInput) (n : ℕ) (skb : Skb) : PumpFrame s (s.write i n skb) := by
  unfold Device.write armWritable
  dsimp only
  split_ifs
  · obtain ⟨h₁, h₂, h₃, h₄, h₅, h₆⟩ := PumpFrame.finish { s with
      toTransmit := s.toTransmit.attempt skb i.ret
      roundWrites := s.roundWrites + 1
      runtime := { s.runtime with txEagain := s.runtime.txEagain + 1 }
      txWritable := false } i.mod .awake
    exact ⟨h₁, h₂, h₃, h₄, h₅, h₆⟩
  · exact .of_same rfl rfl
  · obtain ⟨h₁, h₂, h₃, h₄, h₅, h₆⟩ := PumpFrame.finish { s with
      toTransmit := s.toTransmit.attempt skb i.ret
      roundWrites := s.roundWrites + 1 } i.ret (.sending (n + 1))
    exact ⟨h₁, h₂, h₃, h₄, h₅, h₆⟩

theorem outside_beginRound (s : Device) : s.beginRound.pump.outside = false := by
  unfold beginRound
  dsimp only
  split <;> rfl

structure Orderly (s : Device) : Prop where
  outside : s.pump.outside = true → s.pending = none
  task : s.ioTask = false → s.pump.gone = true
  down : s.teardown ≠ .none → s.shuttingDown = true
  halted : s.teardown.halted = true → s.stopped = true
  joined : s.teardown.joined = true → s.pump.gone = true
  emptied : s.teardown = .done → s.queue = []

theorem PumpMove.not_gone {i : PumpInput} (h : PumpMove i s t) : s.pump.gone = false := by
  cases h <;> simp only [*, PumpAt.gone]

theorem PumpMove.frame {i : PumpInput} (h : PumpMove i s t)
    (hout : s.pump.outside = true → s.pending = none) : PumpFrame s t := by
  cases h with
  | starts hpump =>
    have hpending : s.pending = none := hout (by rw [hpump, PumpAt.outside])
    exact ⟨rfl, rfl, rfl, rfl, fun _ => rfl, fun _ => hpending⟩
  | sleeps => exact .of_same rfl rfl
  | exits => exact .finish s _ _
  | begins => exact .of_same rfl (outside_beginRound s)
  | reads => exact .receive i _
  | readYields => exact .of_same rfl rfl
  | turns => exact .unblock i
  | skips | resumes | drained | takes | writeYields => exact .of_same rfl rfl
  | writes => exact .write i _ _

theorem Orderly.pump {i : PumpInput} (h : Orderly s) (hmove : PumpMove i s t) : Orderly t := by
  have hframe := hmove.frame h.outside
  have hrunning := hmove.not_gone
  have hnot : ∀ {p : Prop}, s.pump.gone = true → p := fun hgone =>
    Bool.noConfusion (hrunning.symm.trans hgone)
  constructor
  case outside => exact hframe.outside
  case task =>
    rw [hframe.ioTask]
    exact fun htask => hnot (h.task htask)
  case down =>
    rw [hframe.teardown, hframe.shuttingDown]
    exact h.down
  case halted =>
    rw [hframe.teardown]
    intro hhalted
    have hdown : s.shuttingDown = true := h.down fun hnone => by
      rw [hnone] at hhalted
      cases hhalted
    rw [hframe.stopped hdown]
    exact h.halted hhalted
  case joined =>
    rw [hframe.teardown]
    exact fun hjoined => hnot (h.joined hjoined)
  case emptied =>
    rw [hframe.teardown]
    exact fun hdone => hnot (h.joined (by rw [hdone, TeardownAt.joined]))

theorem Orderly.wake (h : Orderly s) : Orderly s.wake := by
  unfold Device.wake
  split
  case isFalse => exact h
  case isTrue hasleep =>
    have hnot : ∀ {p : Prop}, s.pump.gone = true → p := fun hgone => by
      rw [hasleep] at hgone
      cases hgone
    exact ⟨fun hout => Bool.noConfusion hout, fun htask => hnot (h.task htask), h.down, h.halted,
      fun hjoined => hnot (h.joined hjoined), h.emptied⟩

theorem TeardownAt.not_joined {at' : TeardownAt} (h : at'.halted = false) :
    at'.joined = false ∧ at' ≠ .done := by
  cases at' with
  | none | disableIrq | freeIrq => exact ⟨rfl, TeardownAt.noConfusion⟩
  | kthreadStop | reaping | done => cases h

theorem Orderly.of_not_halted (h : Orderly s) (hopen : s.teardown.halted = false)
    (ht : t = { s with
      toTransmit := t.toTransmit
      runtime := t.runtime
      opened := t.opened
      stopped := t.stopped }) (hpending : t.pending = s.pending) : Orderly t := by
  obtain ⟨hjoined, hdone⟩ := TeardownAt.not_joined hopen
  rw [ht]
  exact ⟨fun hout => hpending.trans (h.outside hout), h.task, h.down,
    fun hhalted => Bool.noConfusion (hopen.symm.trans hhalted),
    fun hj => Bool.noConfusion (hjoined.symm.trans hj), fun hd => absurd hd hdone⟩

theorem Orderly.xmit (h : Orderly s) (skb : Skb) (linear : Bool)
    (hguard : ¬ (s.stopped = true ∧ s.shuttingDown = true)) :
    Orderly (s.xmit skb linear).2 := by
  have hopen : s.teardown.halted = false := by
    refine Bool.eq_false_iff.mpr fun hhalted => hguard ⟨h.halted hhalted, h.down fun hnone => ?_⟩
    rw [hnone] at hhalted
    cases hhalted
  have hhanded := xmit_cases skb linear s
  generalize (s.xmit skb linear).1 = answer, (s.xmit skb linear).2 = t at hhanded
  cases hhanded with
  | dropped | refused | queued => exact h.of_not_halted hopen rfl rfl
  | first =>
    refine Orderly.wake ?_
    exact h.of_not_halted hopen rfl rfl

theorem Orderly.irqHandler (h : Orderly s) (events : HostEvents) :
    Orderly (s.irqHandler events) := by
  unfold Device.irqHandler
  refine Orderly.wake ?_
  exact ⟨h.outside, h.task, h.down, h.halted, h.joined, h.emptied⟩

theorem Orderly.shutDown (h : Orderly s) :
    Orderly { s with shuttingDown := true, eventRegistered := false } :=
  ⟨h.outside, h.task, fun _ => rfl, h.halted, h.joined, h.emptied⟩

theorem Orderly.quiesce (h : Orderly s) (hdown : s.shuttingDown = true) : Orderly s.quiesce := by
  have hstop : Orderly { s with stopped := true } :=
    ⟨h.outside, h.task, h.down, fun _ => rfl, h.joined, h.emptied⟩
  unfold Device.quiesce
  dsimp only
  split_ifs with htask
  · have hwake := hstop.wake
    refine ⟨hwake.outside, hwake.task, fun _ => ?_, fun _ => ?_, fun hj => Bool.noConfusion hj,
      TeardownAt.noConfusion⟩
    · unfold Device.wake
      split <;> exact hdown
    · unfold Device.wake
      split <;> rfl
  · exact ⟨h.outside, h.task, fun _ => hdown, fun _ => rfl,
      fun _ => h.task (Bool.eq_false_iff.mpr htask), TeardownAt.noConfusion⟩

theorem Orderly.teardown (h : Orderly s) (hmove : TeardownMove s t) : Orderly t := by
  cases hmove with
  | disables =>
    have hdown := h.shutDown
    exact ⟨hdown.outside, hdown.task, fun _ => rfl, fun hh => Bool.noConfusion hh,
      fun hj => Bool.noConfusion hj, TeardownAt.noConfusion⟩
  | bare => exact h.shutDown.quiesce rfl
  | frees hteardown =>
    have hdown := h.down (by rw [hteardown]; exact TeardownAt.noConfusion)
    exact ⟨h.outside, h.task, fun _ => hdown, fun hh => Bool.noConfusion hh,
      fun hj => Bool.noConfusion hj, TeardownAt.noConfusion⟩
  | stops hteardown =>
    have hdown := h.down (by rw [hteardown]; exact TeardownAt.noConfusion)
    refine Orderly.quiesce ?_ hdown
    exact ⟨h.outside, h.task, h.down, h.halted, h.joined, h.emptied⟩
  | joins hteardown hexited =>
    have hdown := h.down (by rw [hteardown]; exact TeardownAt.noConfusion)
    have hhalted := h.halted (by rw [hteardown, TeardownAt.halted])
    have hgone : s.pump.gone = true := by rw [hexited, PumpAt.gone]
    exact ⟨h.outside, fun _ => hgone, fun _ => hdown, fun _ => hhalted, fun _ => hgone,
      TeardownAt.noConfusion⟩
  | reaps hteardown hqueue =>
    refine ⟨h.outside, h.task, h.down, h.halted, h.joined, ?_⟩
    intro hdone
    exact TeardownAt.noConfusion (hteardown.symm.trans hdone)
  | finishes hteardown hqueue =>
    have hdown := h.down (by rw [hteardown]; exact TeardownAt.noConfusion)
    have hhalted := h.halted (by rw [hteardown, TeardownAt.halted])
    have hgone := h.joined (by rw [hteardown, TeardownAt.joined])
    exact ⟨h.outside, h.task, fun _ => hdown, fun _ => hhalted, fun _ => hgone, fun _ => hqueue⟩

theorem Orderly.step {e : Event} (h : Orderly s) (hstep : s.step e = some t) : Orderly t := by
  cases step_cases hstep with
  | hands _ hup => exact h.xmit _ _ hup
  | interrupts => exact h.irqHandler _
  | pumps _ hmove => exact h.pump hmove
  | opens hup | closes hup => exact h.of_not_halted (by rw [hup]; rfl) rfl rfl
  | tearsDown hmove => exact h.teardown hmove

theorem orderly_fresh (mtu : ℕ) (irq event task : Bool) :
    Orderly (fresh mtu irq event task) where
  outside _ := rfl
  task h := by
    simp only [fresh] at h ⊢
    rw [h]
    rfl
  down h := absurd rfl h
  halted h := Bool.noConfusion h
  joined h := Bool.noConfusion h
  emptied h := TeardownAt.noConfusion h

theorem Orderly.not_pending (h : Orderly s) (hjoined : s.teardown.joined = true) :
    s.pending = none := by
  have hgone := h.joined hjoined
  refine h.outside ?_
  cases hpump : s.pump with
  | absent | exited | created => rfl
  | awake | asleep | receiving | received | sending | writing =>
    rw [hpump] at hgone
    cases hgone

/-! ## Whole runs -/

theorem Handed.accepted {skb : Skb} {answer : TxResult} (h : Handed skb s answer t) :
    t.accepted = s.accepted ++ if answer = .ok then [skb] else [] := by
  cases h with
  | dropped => rfl
  | refused => exact (List.append_nil _).symm
  | queued => rfl
  | first => rw [wake_transmit]; rfl

theorem Handed.books {skb : Skb} {answer : TxResult} (h : Handed skb s answer t)
    (hs : s.Books) (hnew : skb ∉ s.accepted) : t.Books := by
  cases h with
  | dropped error => exact hs.discard error hnew
  | refused => exact hs
  | queued hroom => exact hs.enqueue hnew hroom
  | first hqueue =>
    rw [wake_transmit]
    refine hs.enqueue hnew ?_
    rw [hqueue]
    decide

def okOf (s : Device) : Event → List Skb
  | .xmit skb linear => if (s.xmit skb linear).1 = .ok then [skb] else []
  | _ => []

/-- The packets of a run that `tcpcc_l3_xmit` answered with `NETDEV_TX_OK`, in their order. -/
def answeredOk (s : Device) : List Event → List Skb
  | [] => []
  | e :: es =>
    okOf s e ++ match s.step e with
      | some t => answeredOk t es
      | none => []

theorem step_books {e : Event} (hs : s.Books) (h : s.step e = some t) : t.Books := by
  by_cases hxmit : ∃ skb linear, e = .xmit skb linear
  · obtain ⟨skb, linear, rfl⟩ := hxmit
    cases step_cases h with
    | hands hnew => exact (xmit_cases skb linear s).books hs hnew
  · exact hs.moves (step_moves h fun skb linear he => hxmit ⟨skb, linear, he⟩)

theorem run_accepted {es : List Event} (h : Machine.run step s es = some t) :
    t.accepted = s.accepted ++ answeredOk s es := by
  induction es generalizing s with
  | nil =>
    cases h
    exact (List.append_nil _).symm
  | cons e es ih =>
    obtain ⟨u, hu, hrest⟩ := Machine.run_cons.mp h
    rw [ih hrest, answeredOk, hu, ← List.append_assoc]
    congr 1
    cases e with
    | xmit skb linear =>
      obtain ⟨-, hxmit⟩ := Option.ite_none_left_eq_some.mp hu
      cases hxmit
      exact (xmit_cases skb linear s).accepted
    | irq | pump | openDevice | stopDevice | teardown =>
      rw [(Transmit.moves_accepted (step_moves hu fun _ _ => Event.noConfusion)).1]
      exact (List.append_nil _).symm

/-- In its last phase the teardown frees what is still queued, a packet a step, and ends. -/
theorem reaping_done (hat : s.teardown = .reaping) :
    ∃ t, Machine.run step s (List.replicate (s.queue.length + 1) .teardown) = some t ∧
      t.teardown = .done ∧ t.queue = [] ∧ t.pending = s.pending ∧
      t.freed = s.freed ++ s.queue ∧ t.tx.txDropped = s.tx.txDropped + s.queue.length := by
  generalize hqueue : s.queue = queue
  induction queue generalizing s with
  | nil =>
    refine ⟨{ s with teardown := .done }, ?_, rfl, hqueue, rfl, (List.append_nil _).symm, rfl⟩
    refine Machine.run_cons.mpr ⟨_, ?_, rfl⟩
    simp only [step, teardownStep, hat, hqueue]
  | cons skb rest ih =>
    obtain ⟨t, hrun, hdone, hempty, hpending, hfreed, hdropped⟩ :=
      ih (s := { s with toTransmit := s.toTransmit.reap skb rest }) hat rfl
    refine ⟨t, Machine.run_cons.mpr ⟨_, ?_, hrun⟩, hdone, hempty, hpending, ?_, ?_⟩
    · simp only [step, teardownStep, hat, hqueue]
    · rw [hfreed, Transmit.reap, List.append_assoc, List.singleton_append]
    · calc t.tx.txDropped = s.tx.txDropped + 1 + rest.length := hdropped
        _ = s.tx.txDropped + (skb :: rest).length := by rw [List.length_cons]; omega

theorem transmit_conserved {mtu : ℕ} {irq event task : Bool} {es : List Event}
    (h : Machine.run step (fresh mtu irq event task) es = some s) :
    let taken := answeredOk (fresh mtu irq event task) es
    taken.length = s.tx.txPackets + s.tx.txDropped + s.queue.length + s.pending.toList.length ∧
    taken.Nodup ∧ taken.Perm (s.freed ++ s.pending.toList ++ s.queue) ∧
    s.wire.Sublist taken ∧ s.tx.txPackets = s.wire.length ∧
    (∀ n skb, s.pump = .writing n → s.pending = some skb →
      ∀ p, (p, true) ∈ s.attempts → p = skb ∨ p ∈ s.freed) ∧
    s.queue.length ≤ txQueueLimit ∧
    (∀ skb linear, skb ∉ taken → (s.xmit skb linear).1 = .busy →
      (s.xmit skb linear).2.toTransmit = s.toTransmit ∧
      skb ∉ s.queue ∧ skb ∉ s.pending ∧ skb ∉ s.freed) ∧
    (s.teardown = .reaping → ∃ t,
      Machine.run step s (List.replicate (s.queue.length + 1) .teardown) = some t ∧
      t.teardown = .done ∧ t.queue = [] ∧ t.pending = none ∧ t.freed = s.freed ++ s.queue ∧
      t.tx.txDropped = s.tx.txDropped + s.queue.length ∧ taken.Perm t.freed) ∧
    (s.teardown = .done → s.queue = [] ∧ s.pending = none ∧ taken.Perm s.freed) := by
  have htaken : s.accepted = answeredOk (fresh mtu irq event task) es := run_accepted h
  have hbooks : s.Books :=
    Machine.run_invariant (I := fun s => s.toTransmit.Books) (fun _ _ _ => step_books)
      Transmit.books_fresh h
  have horder : Orderly s :=
    Machine.run_invariant (fun _ _ _ => Orderly.step) (orderly_fresh mtu irq event task) h
  intro taken
  have hcount := hbooks.count
  have honce := hbooks.once
  have hwire := ((List.sublist_append_left _ _).trans hbooks.order).trans hbooks.entered
  have hnodup := hbooks.nodup
  rw [htaken] at hcount honce hwire hnodup
  refine ⟨?_, hnodup, ?_, hwire, hbooks.sent, ?_, hbooks.room, ?_, ?_, ?_⟩
  · rw [hcount, Transmit.held, List.length_append]
    omega
  · rw [List.append_assoc]
    exact honce
  · intro n skb _ hpending p hp
    obtain hp | hp := hbooks.refusals p hp
    · exact .inl (Option.some.inj (hp.symm.trans hpending))
    · exact .inr hp
  · intro skb linear hnew hbusy
    have hheld : skb ∉ s.freed ++ s.held := fun hin => hnew (honce.mem_iff.mpr hin)
    have hhanded := xmit_cases skb linear s
    rw [hbusy] at hhanded
    generalize (s.xmit skb linear).2 = t at hhanded
    cases hhanded
    rw [List.mem_append, Transmit.held, List.mem_append, Option.mem_toList, not_or, not_or] at hheld
    exact ⟨rfl, hheld.2.2, hheld.2.1, hheld.1⟩
  · intro hreaping
    obtain ⟨t, hrun, hdone, hempty, hkept, hfreed, hdropped⟩ := reaping_done hreaping
    have hpending := horder.not_pending (by rw [hreaping, TeardownAt.joined])
    refine ⟨t, hrun, hdone, hempty, hkept.trans hpending, hfreed, hdropped, ?_⟩
    rw [Transmit.held, hpending, Option.toList_none, List.nil_append] at honce
    rwa [hfreed]
  · intro hdone
    have hqueue := horder.emptied hdone
    have hpending := horder.not_pending (by rw [hdone, TeardownAt.joined])
    refine ⟨hqueue, hpending, ?_⟩
    rw [Transmit.held, hqueue, hpending] at honce
    rwa [Option.toList_none, List.append_nil, List.append_nil] at honce

/-- The host takes the first packet and refuses the second, which the pump drops when it returns;
the third is too long, and the fourth is still queued when the pump is gone. -/
def sampleRun : List Event :=
  [.openDevice, .pump {}, .xmit ⟨1, 40⟩ true, .xmit ⟨2, 60⟩ true, .xmit ⟨3, 2000⟩ true,
    .xmit ⟨4, 80⟩ true, .pump {}, .pump {}, .pump {}, .pump { ret := -EAGAIN },
    .irq { writable := true }, .pump {}, .pump {}, .pump {}, .pump { ret := 40 }, .teardown,
    .teardown, .teardown, .pump {}, .pump { ret := -EAGAIN }, .pump {}, .teardown]

theorem transmit_conserved_sample :
    ∃ s t, Machine.run step (fresh 1500 true true true) sampleRun = some s ∧
      s.queue = [⟨4, 80⟩] ∧ Machine.run step s [.teardown, .teardown] = some t ∧
      t.teardown = .done ∧ t.queue = [] ∧ s.wire = [⟨1, 40⟩] ∧ t.tx.txDropped = 3 ∧
      t.freed = [⟨3, 2000⟩, ⟨1, 40⟩, ⟨2, 60⟩, ⟨4, 80⟩] ∧
      (answeredOk (fresh 1500 true true true) sampleRun).Perm t.freed := by
  obtain ⟨s, hs, hreaping, hqueue, hwire, hdropped, hfreed⟩ : ∃ s,
      Machine.run step (fresh 1500 true true true) sampleRun = some s ∧
      s.teardown = .reaping ∧ s.queue = [⟨4, 80⟩] ∧ s.wire = [⟨1, 40⟩] ∧ s.tx.txDropped = 2 ∧
      s.freed = [⟨3, 2000⟩, ⟨1, 40⟩, ⟨2, 60⟩] := by
    refine ⟨_, rfl, ?_⟩
    decide
  obtain ⟨-, -, -, -, -, -, -, -, hends, -⟩ := transmit_conserved hs
  obtain ⟨t, ht, hdone, hempty, -, hall, hcount, htaken⟩ := hends hreaping
  rw [hqueue] at ht hall hcount
  rw [hdropped] at hcount
  rw [hfreed] at hall
  exact ⟨s, t, hs, hqueue, ht, hdone, hempty, hwire, hcount, hall, htaken⟩

end Tcpcc.L3

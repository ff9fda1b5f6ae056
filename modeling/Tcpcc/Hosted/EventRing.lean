import Mathlib.Algebra.Order.Ring.Int
import Mathlib.Data.List.Nodup
import Tcpcc.Bridge.State
import Tcpcc.Lib.Machine
import Tcpcc.Lib.RingBuffer

/-!
# The ring of runtime events

`irq.c` from `tcpcc_dispatch_host_irq` to `tcpcc_host_runtime_event_poll`, and
`tcpcc_host_idle_wait`. The idle thread takes an event of the host and runs an interrupt for it,
which puts the event into a ring and completes `tcpcc_runtime_event_ready` once. A consumer takes a
credit of the completion first and an event of the ring afterwards; other threads and interrupts
come in between.
-/

namespace Tcpcc.Hosted
open Bridge (HostEvent eventRuntimeBit)

def nrIrqs : ℕ := 8
def hostRuntimeIrq : ℕ := 4
def hostRuntimeQueueLimit : ℕ := 64
def hostEventTimer : ℕ := 1
def hostEventIrqBase : ℕ := 0x100
def readableBit : ℕ := 0

inductive Panic
  | waitWithIrqs
  | dispatchWithoutIrqs (irq : ℕ)
  | invalidMask (irq events : ℕ)
  | maskOverwritten (irq : ℕ)
  | irqWithoutEvent
  | queueOverflow
  | eventOverwritten
  | eventNotConsumed
  | timerNotReadable (events : ℕ)
  | unknownToken (token events : ℕ)
  deriving DecidableEq, Repr

abbrev ConsumerId := ℕ

inductive Waiting
  | forever
  | timed
  deriving DecidableEq, Repr

/-- The variables of `irq.c`, the consumers in their calls, and what has happened so far. -/
structure EventState where
  irqsEnabled : Bool
  irqEventMasks : ℕ → ℕ
  pending : HostEvent
  pendingValid : Bool
  queue : RingBuffer HostEvent hostRuntimeQueueLimit
  ready : Completion
  notify : Option (ℕ × ℕ)
  /-- consumers in `wait_for_completion`, and those that have a credit and no event yet -/
  waiters : List (ConsumerId × Waiting)
  holders : List ConsumerId
  /-- histories, the latest entry last -/
  arrived : List HostEvent
  received : List (ConsumerId × HostEvent)
  returned : List (ConsumerId × ℤ)
  notified : List (ℕ × ℕ)
  panicked : Option Panic

namespace EventState

/-! ## Interrupts -/

/-- `tcpcc_dispatch_host_irq` with the handler that is registered for the interrupt. -/
def dispatchHostIrq (irq events : ℕ) (handler : EventState → Except Panic EventState)
    (s : EventState) : Except Panic EventState :=
  if s.irqsEnabled = false then .error (.dispatchWithoutIrqs irq)
  else if nrIrqs ≤ irq ∨ events = 0 then .error (.invalidMask irq events)
  else if s.irqEventMasks irq ≠ 0 then .error (.maskOverwritten irq)
  else do
    let s ← handler
      { s with irqsEnabled := false, irqEventMasks := Function.update s.irqEventMasks irq events }
    return { s with irqsEnabled := true, irqEventMasks := Function.update s.irqEventMasks irq 0 }

def runtimeIrqHandler (s : EventState) : Except Panic EventState :=
  if s.pendingValid = false then .error .irqWithoutEvent
  else if hostRuntimeQueueLimit ≤ s.queue.count then .error .queueOverflow
  else .ok
    { s with
      queue := s.queue.push s.pending
      pendingValid := false
      ready := s.ready.complete
      notified := s.notified ++ s.notify.toList }

def dispatchHostRuntimeEvent (event : HostEvent) (s : EventState) : Except Panic EventState :=
  if s.pendingValid then .error .eventOverwritten
  else do
    let s ← dispatchHostIrq hostRuntimeIrq event.events runtimeIrqHandler
      { s with pending := event, pendingValid := true }
    if s.pendingValid then .error .eventNotConsumed else return s

/-- `tcpcc_host_idle_wait`, to which the host gives an event. The timer and the handlers of the
other interrupts do not come here. -/
def hostIdleWait (event : HostEvent) (s : EventState) : Except Panic EventState :=
  if s.irqsEnabled then .error .waitWithIrqs
  else
    let s := { s with irqsEnabled := true }
    if event.token = hostEventTimer then
      if event.events.testBit readableBit then .ok s else .error (.timerNotReadable event.events)
    else if event.token.testBit eventRuntimeBit then dispatchHostRuntimeEvent event s
    else if hostEventIrqBase ≤ event.token ∧ event.token < hostEventIrqBase + nrIrqs then
      dispatchHostIrq (event.token - hostEventIrqBase) event.events
        (if event.token - hostEventIrqBase = hostRuntimeIrq then runtimeIrqHandler else .ok) s
    else .error (.unknownToken event.token event.events)

/-! ## Consumers -/

/-- `tcpcc_runtime_event_dequeue` and `tcpcc_host_runtime_event_poll` behind the completion. -/
def dequeue (c : ConsumerId) (s : EventState) : EventState :=
  if s.queue.count = 0 then { s with returned := s.returned ++ [(c, - EIO)] }
  else
    { s with
      queue := s.queue.pop
      received := s.received ++ [(c, s.queue.front)]
      returned := s.returned ++ [(c, 0)] }

def takeCredit (c : ConsumerId) (s : EventState) : EventState :=
  { s with ready := s.ready.take, holders := c :: s.holders }

def free (c : ConsumerId) (s : EventState) : Prop :=
  c ∉ s.waiters.map Prod.fst ∧ c ∉ s.holders

instance (c : ConsumerId) (s : EventState) : Decidable (s.free c) :=
  inferInstanceAs (Decidable (_ ∧ _))

end EventState

inductive RingEvent
  /-- the idle thread masks interrupts and waits; the host gives it an event -/
  | idle (event : HostEvent)
  | wait (c : ConsumerId) (waiting : Waiting)
  /-- `wait_for_completion` finds a credit -/
  | wake (c : ConsumerId)
  /-- the time of a wait is over and there is no credit -/
  | timeout (c : ConsumerId)
  | poll (c : ConsumerId)
  | dequeue (c : ConsumerId)
  | setNotifier (notify data : ℕ)
  | clearNotifier (notify data : ℕ)
  deriving DecidableEq, Repr

namespace EventState

def arrivals (event : HostEvent) : List HostEvent :=
  if event.token ≠ hostEventTimer ∧ event.token.testBit eventRuntimeBit then [event] else []

def step (s : EventState) : RingEvent → Option EventState
  | .idle event =>
    if s.panicked.isSome then none
    else
      match hostIdleWait event { s with irqsEnabled := false } with
      | .error panic => some { s with panicked := some panic }
      | .ok t => some { t with arrived := t.arrived ++ arrivals event }
  | .wait c waiting =>
    if s.panicked = none ∧ s.free c then some { s with waiters := (c, waiting) :: s.waiters }
    else none
  | .wake c =>
    if s.panicked = none ∧ c ∈ s.waiters.map Prod.fst ∧ s.ready ≠ 0 then
      some (takeCredit c { s with waiters := s.waiters.filter fun w => w.1 ≠ c })
    else none
  | .timeout c =>
    if s.panicked = none ∧ (c, .timed) ∈ s.waiters ∧ s.ready = 0 then
      some
        { s with
          waiters := s.waiters.filter fun w => w.1 ≠ c
          returned := s.returned ++ [(c, -ETIMEDOUT)] }
    else none
  | .poll c =>
    if s.panicked = none ∧ s.free c then
      if s.ready = 0 then some { s with returned := s.returned ++ [(c, -EAGAIN)] }
      else some (takeCredit c s)
    else none
  | .dequeue c =>
    if s.panicked = none ∧ c ∈ s.holders then
      some (dequeue c { s with holders := s.holders.erase c })
    else none
  | .setNotifier notify data =>
    if s.panicked.isSome then none
    else some (if s.notify.isSome then s else { s with notify := some (notify, data) })
  | .clearNotifier notify data =>
    if s.panicked.isSome then none
    else some (if s.notify = some (notify, data) then { s with notify := none } else s)

def boot : EventState where
  irqsEnabled := true
  irqEventMasks := fun _ => 0
  pending := ⟨0, 0⟩
  pendingValid := false
  queue := ⟨fun _ => ⟨0, 0⟩, 0, 0, 0⟩
  ready := 0
  notify := none
  waiters := []
  holders := []
  arrived := []
  received := []
  returned := []
  notified := []
  panicked := none

def outstanding (s : EventState) : ℕ := s.arrived.length - s.received.length

def paced (s : EventState) : RingEvent → Bool
  | .idle event => arrivals event = [] ∨ s.outstanding < hostRuntimeQueueLimit
  | _ => true

/-! ## The invariant -/

end EventState

def Panic.hostFault : Panic → Bool
  | .invalidMask _ _ => true
  | .irqWithoutEvent => true
  | .timerNotReadable _ => true
  | .unknownToken _ _ => true
  | _ => false

namespace EventState
variable {s t : EventState} {c : ConsumerId} {event : HostEvent}

structure Inv (s : EventState) : Prop where
  queue : s.queue.WellFormed
  credits : s.queue.count = s.ready + s.holders.length
  order : s.arrived = s.received.map Prod.snd ++ s.queue.contents
  holders : s.holders.Nodup
  apart : ∀ c ∈ s.waiters.map Prod.fst, c ∉ s.holders
  pending : s.pendingValid = false
  masks : ∀ irq, s.irqEventMasks irq = 0
  returned : ∀ r ∈ s.returned, r.2 ≠ - EIO
  panicked : ∀ p, s.panicked = some p → p.hostFault = true

theorem Inv.outstanding (h : Inv s) : s.outstanding = s.queue.count := by
  rw [EventState.outstanding, h.order, List.length_append, List.length_map, s.queue.length_contents,
    Nat.add_sub_cancel_left]

theorem masks_cleared {masks : ℕ → ℕ} (h : ∀ i, masks i = 0) (irq events i : ℕ) :
    Function.update (Function.update masks irq events) irq 0 i = 0 := by
  by_cases hi : i = irq
  · rw [hi, Function.update_self]
  · rw [Function.update_of_ne hi, Function.update_of_ne hi]
    exact h i

theorem dispatchHostRuntimeEvent_eq (h : Inv s) (hirqs : s.irqsEnabled = true)
    (hroom : s.queue.count < hostRuntimeQueueLimit) :
    s.dispatchHostRuntimeEvent event =
      if event.events = 0 then .error (.invalidMask hostRuntimeIrq 0)
      else .ok
        { s with
          irqsEnabled := true
          pending := event
          pendingValid := false
          irqEventMasks := Function.update (Function.update s.irqEventMasks hostRuntimeIrq
            event.events) hostRuntimeIrq 0
          queue := s.queue.push event
          ready := s.ready.complete
          notified := s.notified ++ s.notify.toList } := by
  have hirq : ¬ nrIrqs ≤ hostRuntimeIrq := by decide
  have hspace : ¬ hostRuntimeQueueLimit ≤ s.queue.count := Nat.not_le.mpr hroom
  by_cases hevents : event.events = 0
  · simp [dispatchHostRuntimeEvent, h.pending, dispatchHostIrq, hirqs, hevents, bind, Except.bind]
  · simp [dispatchHostRuntimeEvent, h.pending, dispatchHostIrq, hirqs, hevents, bind, Except.bind,
      h.masks, hirq, runtimeIrqHandler, hspace, pure, Except.pure]

theorem dispatchHostIrq_other (h : Inv s) (hirqs : s.irqsEnabled = true) (irq events : ℕ) :
    (∃ p, p.hostFault = true ∧ s.dispatchHostIrq irq events
        (if irq = hostRuntimeIrq then runtimeIrqHandler else .ok) = .error p) ∨
      ∃ masks, (∀ i, masks i = 0) ∧ s.dispatchHostIrq irq events
        (if irq = hostRuntimeIrq then runtimeIrqHandler else .ok) =
          .ok { s with irqsEnabled := true, irqEventMasks := masks } := by
  unfold dispatchHostIrq
  rw [if_neg (by simp [hirqs])]
  by_cases hinvalid : nrIrqs ≤ irq ∨ events = 0
  · rw [if_pos hinvalid]
    exact .inl ⟨_, rfl, rfl⟩
  · rw [if_neg hinvalid, if_neg (not_not.mpr (h.masks irq))]
    by_cases hruntime : irq = hostRuntimeIrq
    · rw [if_pos hruntime]
      refine .inl ⟨.irqWithoutEvent, rfl, ?_⟩
      simp [runtimeIrqHandler, h.pending, bind, Except.bind]
    · rw [if_neg hruntime]
      exact .inr ⟨Function.update (Function.update s.irqEventMasks irq events) irq 0,
        masks_cleared h.masks irq events, rfl⟩

/-! ## Steps -/

theorem Inv.ready_ne (h : Inv s) : s.ready ≠ Completion.UINT_MAX := by
  have hle : s.ready ≤ hostRuntimeQueueLimit :=
    (Nat.le_add_right _ _).trans (h.credits.symm.le.trans h.queue.count_le)
  rintro heq
  rw [heq] at hle
  exact absurd hle (by decide)

theorem Inv.panic (h : Inv s) {p : Panic} (hp : p.hostFault = true) :
    Inv { s with panicked := some p } :=
  { h with
    panicked := by
      intro q hq
      cases hq
      exact hp }

theorem Inv.enqueue (h : Inv s) (hroom : s.queue.count < hostRuntimeQueueLimit) {masks : ℕ → ℕ}
    (hmasks : ∀ i, masks i = 0) {irqs : Bool} {notified : List (ℕ × ℕ)} :
    Inv { s with
      irqsEnabled := irqs
      pending := event
      pendingValid := false
      irqEventMasks := masks
      queue := s.queue.push event
      ready := s.ready.complete
      notified := notified
      arrived := s.arrived ++ [event] } where
  queue := h.queue.push hroom event
  credits := by
    have hcredits := h.credits
    have hcomplete : s.ready.complete = s.ready + 1 := if_neg h.ready_ne
    show s.queue.count + 1 = s.ready.complete + s.holders.length
    rw [hcomplete]
    omega
  order := by
    show s.arrived ++ [event] = s.received.map Prod.snd ++ (s.queue.push event).contents
    rw [h.queue.contents_push hroom, h.order, List.append_assoc]
  holders := h.holders
  apart := h.apart
  pending := rfl
  masks := hmasks
  returned := h.returned
  panicked := h.panicked

theorem Inv.idle (h : Inv s) (hpaced : paced s (.idle event) = true)
    (hstep : step s (.idle event) = some t) : Inv t := by
  have hmasked : Inv { s with irqsEnabled := true } := { h with }
  simp only [step] at hstep
  split at hstep
  · cases hstep
  · unfold hostIdleWait at hstep
    rw [if_neg (by simp)] at hstep
    simp only at hstep
    by_cases htimer : event.token = hostEventTimer
    · have harrivals : arrivals event = [] := by simp [arrivals, htimer]
      rw [if_pos htimer] at hstep
      by_cases hreadable : event.events.testBit readableBit = true
      · rw [if_pos hreadable, harrivals] at hstep
        cases hstep
        simpa using hmasked
      · rw [if_neg hreadable] at hstep
        cases hstep
        exact h.panic rfl
    · rw [if_neg htimer] at hstep
      by_cases hruntime : event.token.testBit eventRuntimeBit = true
      · have harrivals : arrivals event = [event] := by simp [arrivals, htimer, hruntime]
        have hroom : s.queue.count < hostRuntimeQueueLimit := by
          simpa [paced, harrivals, h.outstanding] using hpaced
        rw [if_pos hruntime, dispatchHostRuntimeEvent_eq hmasked rfl hroom, harrivals] at hstep
        by_cases hevents : event.events = 0
        · rw [if_pos hevents] at hstep
          cases hstep
          exact h.panic rfl
        · rw [if_neg hevents] at hstep
          cases hstep
          exact h.enqueue hroom (masks_cleared h.masks _ _)
      · have harrivals : arrivals event = [] := by simp [arrivals, hruntime]
        rw [if_neg hruntime] at hstep
        by_cases hirq : hostEventIrqBase ≤ event.token ∧ event.token < hostEventIrqBase + nrIrqs
        · rw [if_pos hirq] at hstep
          rcases dispatchHostIrq_other hmasked rfl (event.token - hostEventIrqBase)
            event.events with
            ⟨p, hp, hdispatch⟩ | ⟨masks, hmasks, hdispatch⟩
          · rw [hdispatch] at hstep
            cases hstep
            exact h.panic hp
          · rw [hdispatch, harrivals] at hstep
            cases hstep
            exact { h with
              masks := hmasks
              order := by simpa using h.order }
        · rw [if_neg hirq] at hstep
          cases hstep
          exact h.panic rfl

theorem Inv.takeCredit (h : Inv s) (hready : s.ready ≠ 0) (hc : c ∉ s.holders)
    (hwaiters : c ∉ s.waiters.map Prod.fst) : Inv (takeCredit c s) where
  queue := h.queue
  credits := by
    have hcredits := h.credits
    have htake : s.ready.take = s.ready - 1 := if_neg h.ready_ne
    obtain ⟨n, hn⟩ := Nat.exists_eq_succ_of_ne_zero hready
    show s.queue.count = s.ready.take + (s.holders.length + 1)
    rw [htake, hcredits, hn, Nat.succ_sub_one, Nat.succ_add, Nat.add_succ]
  order := h.order
  holders := List.nodup_cons.mpr ⟨hc, h.holders⟩
  apart := by
    intro d hd hmem
    rcases List.mem_cons.mp hmem with rfl | hmem
    · exact hwaiters hd
    · exact h.apart d hd hmem
  pending := h.pending
  masks := h.masks
  returned := h.returned
  panicked := h.panicked

theorem Inv.dequeue (h : Inv s) (hc : c ∈ s.holders) :
    Inv (dequeue c { s with holders := s.holders.erase c }) := by
  have hpos : 0 < s.holders.length := List.length_pos_of_mem hc
  have hcredits := h.credits
  have hne : s.queue.count ≠ 0 := by omega
  simp only [EventState.dequeue, if_neg hne]
  exact {
    queue := h.queue.pop hne
    credits := by
      show s.queue.count - 1 = s.ready + (s.holders.erase c).length
      rw [List.length_erase_of_mem hc]
      omega
    order := by
      show s.arrived = (s.received ++ [(c, s.queue.front)]).map Prod.snd ++ s.queue.pop.contents
      rw [h.order, RingBuffer.contents_eq_cons h.queue.head_lt hne]
      simp
    holders := h.holders.erase c
    apart := fun d hd hmem => h.apart d hd (List.mem_of_mem_erase hmem)
    pending := h.pending
    masks := h.masks
    returned := by
      intro r hr
      rcases List.mem_append.mp hr with hr | hr
      · exact h.returned r hr
      · rw [List.mem_singleton.mp hr]
        show (0 : ℤ) ≠ - EIO
        decide
    panicked := h.panicked }

theorem Inv.answer (h : Inv s) {ret : ℤ} (hret : ret ≠ - EIO)
    {waiters : List (ConsumerId × Waiting)}
    (hwaiters : ∀ w ∈ waiters, w ∈ s.waiters) :
    Inv { s with waiters := waiters, returned := s.returned ++ [(c, ret)] } :=
  { h with
    apart := by
      intro d hd
      obtain ⟨w, hw, rfl⟩ := List.mem_map.mp hd
      exact h.apart _ (List.mem_map_of_mem (hwaiters w hw))
    returned := by
      intro r hr
      rcases List.mem_append.mp hr with hr | hr
      · exact h.returned r hr
      · rw [List.mem_singleton.mp hr]
        exact hret }

theorem Inv.step {e : RingEvent} (h : Inv s) (hpaced : paced s e = true)
    (hstep : step s e = some t) : Inv t := by
  cases e with
  | idle event => exact h.idle hpaced hstep
  | wait c waiting =>
    simp only [EventState.step, Option.ite_none_right_eq_some, Option.some.injEq] at hstep
    obtain ⟨⟨-, hfree⟩, rfl⟩ := hstep
    exact { h with
      apart := by
        intro d hd
        rcases List.mem_cons.mp hd with rfl | hd
        · exact hfree.2
        · exact h.apart d hd }
  | wake c =>
    simp only [EventState.step, Option.ite_none_right_eq_some, Option.some.injEq] at hstep
    obtain ⟨⟨-, hwaits, hready⟩, rfl⟩ := hstep
    have hleft : Inv { s with waiters := s.waiters.filter fun w => w.1 ≠ c } :=
      { h with
        apart := by
          intro d hd
          obtain ⟨w, hw, rfl⟩ := List.mem_map.mp hd
          exact h.apart _ (List.mem_map_of_mem (List.mem_of_mem_filter hw)) }
    refine hleft.takeCredit hready (h.apart c hwaits) ?_
    intro hmem
    obtain ⟨w, hw, rfl⟩ := List.mem_map.mp hmem
    simpa using (List.mem_filter.mp hw).2
  | timeout c =>
    simp only [EventState.step, Option.ite_none_right_eq_some, Option.some.injEq] at hstep
    obtain ⟨-, rfl⟩ := hstep
    exact h.answer (by decide) fun w hw => List.mem_of_mem_filter hw
  | poll c =>
    simp only [EventState.step, Option.ite_none_right_eq_some] at hstep
    obtain ⟨⟨-, hfree⟩, hstep⟩ := hstep
    by_cases hready : s.ready = 0
    · rw [if_pos hready] at hstep
      cases hstep
      exact h.answer (by decide) fun w hw => hw
    · rw [if_neg hready] at hstep
      cases hstep
      exact h.takeCredit hready hfree.2 hfree.1
  | dequeue c =>
    simp only [EventState.step, Option.ite_none_right_eq_some, Option.some.injEq] at hstep
    obtain ⟨⟨-, hc⟩, rfl⟩ := hstep
    exact h.dequeue hc
  | setNotifier notify data =>
    simp only [EventState.step, Option.ite_none_left_eq_some, Option.some.injEq] at hstep
    obtain ⟨-, rfl⟩ := hstep
    split
    · exact h
    · exact { h with }
  | clearNotifier notify data =>
    simp only [EventState.step, Option.ite_none_left_eq_some, Option.some.injEq] at hstep
    obtain ⟨-, rfl⟩ := hstep
    split
    · exact { h with }
    · exact h

theorem inv_boot : Inv boot where
  queue := ⟨by decide, by decide, rfl⟩
  credits := rfl
  order := rfl
  holders := List.nodup_nil
  apart := List.forall_mem_nil _
  pending := rfl
  masks := fun _ => rfl
  returned := List.forall_mem_nil _
  panicked := by
    intro p hp
    cases hp

/-- As long as no more than 64 events are outstanding, the events are received in the order in which
they arrived, each by one consumer, and the ring, the completion and the consumers agree about how
many there are. -/
theorem run_lossless {es : List RingEvent} (h : Machine.run step boot es = some s)
    (hpaced : Machine.meets step paced boot es = true) :
    s.arrived = s.received.map Prod.snd ++ s.queue.contents ∧
      s.queue.count = s.ready + s.holders.length ∧ s.holders.Nodup ∧
      (s.queue.head < 64 ∧ s.queue.tail < 64 ∧ s.queue.count ≤ 64 ∧
        s.queue.tail = (s.queue.head + s.queue.count) % 64) ∧
      (∀ r ∈ s.returned, r.2 ≠ - EIO) ∧ ∀ p, s.panicked = some p → p.hostFault = true := by
  have hi : Inv s :=
    Machine.run_invariant_meets (fun _ _ _ hi hpaced h => hi.step hpaced h) inv_boot
    h hpaced
  exact ⟨hi.order, hi.credits, hi.holders,
    ⟨hi.queue.head_lt, hi.queue.tail_lt, hi.queue.count_le, hi.queue.tail_eq⟩, hi.returned,
    hi.panicked⟩

def sampleEvents : List RingEvent :=
  [.wait 1 .forever, .idle ⟨2 ^ 63 + 7, 1⟩, .idle ⟨2 ^ 63 + 8, 3⟩, .wake 1, .poll 2, .poll 3,
    .dequeue 2, .idle ⟨2 ^ 63 + 9, 4⟩, .dequeue 1]

theorem lossless_two_consumers :
    ∃ s, Machine.run step boot sampleEvents = some s ∧
      (s.received = [(2, ⟨2 ^ 63 + 7, 1⟩), (1, ⟨2 ^ 63 + 8, 3⟩)] ∧
        s.queue.contents = [⟨2 ^ 63 + 9, 4⟩] ∧
        s.returned = [(3, -EAGAIN), (2, 0), (1, 0)]) ∧
      s.arrived = s.received.map Prod.snd ++ s.queue.contents ∧
      s.queue.count = s.ready + s.holders.length ∧ s.holders.Nodup ∧
      (s.queue.head < 64 ∧ s.queue.tail < 64 ∧ s.queue.count ≤ 64 ∧
        s.queue.tail = (s.queue.head + s.queue.count) % 64) ∧
      (∀ r ∈ s.returned, r.2 ≠ - EIO) ∧ ∀ p, s.panicked = some p → p.hostFault = true := by
  have hrun : (Machine.run step boot sampleEvents).map
      (fun s => (s.received, s.queue.contents, s.returned)) =
        some ([(2, ⟨2 ^ 63 + 7, 1⟩), (1, ⟨2 ^ 63 + 8, 3⟩)], [⟨2 ^ 63 + 9, 4⟩],
          [(3, -EAGAIN), (2, 0), (1, 0)]) := by decide +kernel
  obtain ⟨s, hs, hshown⟩ := Option.map_eq_some_iff.mp hrun
  simp only [Prod.mk.injEq] at hshown
  exact ⟨s, hs, hshown, run_lossless hs (by decide +kernel)⟩

end EventState

end Tcpcc.Hosted

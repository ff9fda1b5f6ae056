import Tcpcc.Bridge.Guarantees

/-!
# Names of sessions

A handle and an event token are made of a slot and its generation. Both can be taken
apart again, so a name leads to the live session that has it and to no other; the
generation of a slot repeats after 2047 allocations and not before. What arrives under a
token touches the session of that token alone.
-/

namespace Tcpcc.Bridge
open Resumption State

variable {s s' : State} {c : Config} {x y : SessionId}

/-! ## Taking names apart -/

section Token
variable {slot generation : ℕ}

theorem runtimeToken_mod (h : slot < 2 ^ 32) : runtimeToken slot generation % 2 ^ 32 = slot := by
  unfold runtimeToken
  rw [Nat.or_mod_two_pow, Nat.or_mod_two_pow, Nat.mod_eq_of_lt h,
    Nat.shiftLeft_eq (generation &&& eventRuntimeGenerationMask), Nat.mul_mod_left,
    show (1 <<< eventRuntimeBit) % 2 ^ 32 = 0 from rfl, Nat.or_zero, Nat.zero_or]

theorem runtimeToken_testBit : (runtimeToken slot generation).testBit eventRuntimeBit = true := by
  unfold runtimeToken
  rw [Nat.testBit_or, Nat.testBit_or, show (1 <<< eventRuntimeBit).testBit eventRuntimeBit = true
    from rfl, Bool.true_or, Bool.true_or]

theorem runtimeToken_shift (h : slot < 2 ^ 32) (hg : generation ≤ handleGenerationMask) :
    runtimeToken slot generation >>> 32 % 2 ^ 31 = generation := by
  have hmask : generation &&& eventRuntimeGenerationMask = generation := by
    rw [show eventRuntimeGenerationMask = 2 ^ 31 - 1 from rfl, Nat.and_two_pow_sub_one_eq_mod]
    exact Nat.mod_eq_of_lt (Nat.lt_of_le_of_lt hg (by decide))
  unfold runtimeToken
  rw [hmask, Nat.shiftRight_or_distrib, Nat.shiftRight_or_distrib, Nat.shiftLeft_shiftRight,
    Nat.shiftRight_eq_div_pow slot, Nat.div_eq_of_lt h, Nat.or_zero, Nat.or_mod_two_pow,
    show (1 <<< eventRuntimeBit >>> 32) % 2 ^ 31 = 0 from rfl, Nat.zero_or]
  exact Nat.mod_eq_of_lt (Nat.lt_of_le_of_lt hg (by decide))

end Token

theorem runtimeSlot_spec (hi : Inv s) (hx : x < s.nextSession) :
    runtimeSlotBase + s.slotOf x - 1 < 2 ^ 32 ∧ runtimeSlotBase ≤ runtimeSlotBase + s.slotOf x - 1 ∧
      runtimeSlotBase + s.slotOf x - 1 < runtimeSlotBase + sessionLimit ∧
      runtimeSlotBase + s.slotOf x - 1 - runtimeSlotBase + 1 = s.slotOf x := by
  have hbound := hi.tenants.bound
  obtain ⟨hone, hcount⟩ := hi.names.range x hx
  simp only [sessionLimit, runtimeSlotBase] at hbound ⊢
  omega

theorem generation_bounds (hi : Inv s) (hx : x < s.nextSession) :
    0 < s.generation x ∧ s.generation x ≤ handleGenerationMask := by
  have hmem : x ∈ (Finset.range (x + 1)).filter fun y => s.slotOf y = s.slotOf x := by simp
  have hpos : 0 < allocations s.slotOf (x + 1) (s.slotOf x) := Finset.card_pos.mpr ⟨x, hmem⟩
  rw [hi.names.generations x hx]
  generalize allocations s.slotOf (x + 1) (s.slotOf x) = n at hpos
  cases n with
  | zero => exact absurd hpos (Nat.lt_irrefl 0)
  | succ n =>
    exact ⟨Nat.succ_pos _, Nat.succ_le_of_lt (Nat.mod_lt n (by decide))⟩

theorem token_decode (hi : Inv s) (hx : x < s.nextSession) (hy : y < s.nextSession)
    (h : s.token x = s.token y) : s.slotOf x = s.slotOf y ∧ s.generation x = s.generation y := by
  obtain ⟨hltx, -, -, hslotx⟩ := runtimeSlot_spec hi hx
  obtain ⟨hlty, -, -, hsloty⟩ := runtimeSlot_spec hi hy
  rw [hi.names.tokens x hx, hi.names.tokens y hy] at h
  constructor
  · have hmod := congrArg (· % 2 ^ 32) h
    simp only [runtimeToken_mod hltx, runtimeToken_mod hlty] at hmod
    rw [← hslotx, ← hsloty, hmod]
  · have hshift := congrArg (· >>> 32 % 2 ^ 31) h
    simpa only [runtimeToken_shift hltx (generation_bounds hi hx).2,
      runtimeToken_shift hlty (generation_bounds hi hy).2] using hshift

theorem handle_decode (hi : Inv s) (hx : x < s.nextSession) (hy : y < s.nextSession)
    (h : s.handle x = s.handle y) : s.slotOf x = s.slotOf y ∧ s.generation x = s.generation y := by
  have hsplit : ∀ z, z < s.nextSession →
      (s.handle z).toNat &&& handleSlotMask = s.slotOf z ∧
        (s.handle z).toNat >>> handleSlotBits = s.generation z := by
    intro z hz
    obtain ⟨hone, hcount⟩ := hi.names.range z hz
    have hindex : s.slotOf z - 1 + 1 = s.slotOf z := Nat.sub_add_cancel hone
    have hdecode := makeHandle_decode (s.slotOf z - 1) (s.generation z)
      (by rw [hindex]; exact Nat.le_trans hcount hi.tenants.bound)
    rw [hi.names.handles z hz]
    rwa [hindex] at hdecode
  obtain ⟨hslotx, hgenx⟩ := hsplit x hx
  obtain ⟨hsloty, hgeny⟩ := hsplit y hy
  rw [← hslotx, ← hgenx, ← hsloty, ← hgeny, h]
  exact ⟨rfl, rfl⟩

theorem token_unique (hi : Inv s) (hx : s.allocated x = true) (hy : s.allocated y = true)
    (h : s.token x = s.token y) : x = y := by
  obtain ⟨hslot, -⟩ := token_decode hi (hi.active.fresh x hx) (hi.active.fresh y hy) h
  have hown := (hi.slots.owner x hx).2
  rw [hslot, (hi.slots.owner y hy).2] at hown
  exact (Option.some.inj hown).symm

theorem handle_range (hi : Inv s) (hx : s.allocated x = true) :
    0 < s.handle x ∧ s.handle x < 2 ^ 31 := by
  have hlt := hi.active.fresh x hx
  obtain ⟨hone, hcount⟩ := hi.names.range x hlt
  have hbound := hi.tenants.bound
  obtain ⟨-, hgen⟩ := generation_bounds hi hlt
  have hindex : s.slotOf x - 1 + 1 = s.slotOf x := Nat.sub_add_cancel hone
  have hslot := Nat.lt_of_le_of_lt (Nat.le_trans hcount hbound)
    (show sessionLimit < 2 ^ handleSlotBits by decide)
  rw [hi.names.handles x hlt]
  unfold makeHandle
  rw [hindex, ← Nat.shiftLeft_add_eq_or_of_lt hslot, Nat.shiftLeft_eq]
  simp only [handleGenerationMask, handleSlotBits] at hgen hslot ⊢
  omega

theorem findHandle_iff (hi : Inv s) (h : ℤ) :
    findHandle h s = some x ↔ s.allocated x = true ∧ s.handle x = h := by
  refine ⟨findHandle_some, ?_⟩
  rintro ⟨hx, rfl⟩
  exact findHandle_handle hi hx

theorem eventSession_iff (hi : Inv s) (e : HostEvent) :
    eventSession e s = some x ↔
      s.allocated x = true ∧ s.token x = e.token ∧ s.acceptEvents x = true := by
  constructor
  · intro h
    unfold eventSession at h
    simp only at h
    split at h
    case isFalse => cases h
    case isTrue =>
      split at h
      · cases h
      · split at h
        case isFalse => cases h
        case isTrue hcond =>
          cases h
          exact ⟨hcond.2.1, hcond.1, hcond.2.2⟩
  · rintro ⟨hx, htoken, hacc⟩
    have hlt := hi.active.fresh x hx
    obtain ⟨hword, hbase, hlimit, hslot⟩ := runtimeSlot_spec hi hlt
    obtain ⟨⟨-, hcount⟩, hown⟩ := hi.slots.owner x hx
    have hmod : e.token % 2 ^ 32 = runtimeSlotBase + s.slotOf x - 1 := by
      rw [← htoken, hi.names.tokens x hlt]
      exact runtimeToken_mod hword
    have hbit : e.token.testBit eventRuntimeBit = true := by
      rw [← htoken, hi.names.tokens x hlt]
      exact runtimeToken_testBit
    unfold eventSession
    simp only [hmod, hslot]
    rw [if_pos ⟨hbit, hbase, hlimit, hcount⟩, hown]
    simp [htoken, hx, hacc]

/-! ## Reuse of a slot -/

def reallocations (s : State) (x : SessionId) : ℕ :=
  allocations s.slotOf s.nextSession (s.slotOf x) - allocations s.slotOf (x + 1) (s.slotOf x)

theorem allocations_mono (slotOf : ℕ → ℕ) (id : ℕ) {m n : ℕ} (h : m ≤ n) :
    allocations slotOf m id ≤ allocations slotOf n id :=
  Finset.card_le_card (Finset.filter_subset_filter _ (Finset.range_subset_range.mpr h))

theorem generationOf_ne {a b : ℕ} (ha : 0 < a) (hab : a < b) (hb : b - a < handleGenerationMask) :
    generationOf a ≠ generationOf b := by
  cases a with
  | zero => exact absurd ha (Nat.lt_irrefl 0)
  | succ a =>
    cases b with
    | zero => omega
    | succ b =>
      simp only [generationOf, handleGenerationMask] at hb ⊢
      omega

/-- A live session does not have the names of one that is gone, unless the slot has gone
through all its generations. -/
theorem names_differ (hi : Inv s) (hx : x < s.nextSession) (hgone : s.allocated x = false)
    (hfew : reallocations s x < handleGenerationMask) (hy : s.allocated y = true)
    (hslot : s.slotOf y = s.slotOf x) : s.generation y ≠ s.generation x := by
  have hlt := hi.active.fresh y hy
  have hxy : x < y := by
    rcases Nat.lt_trichotomy x y with h | h | h
    · exact h
    · rw [h, hy] at hgone
      cases hgone
    · exact absurd hslot.symm (hi.names.last y x hy h hx)
  have hstep : allocations s.slotOf (y + 1) (s.slotOf x) =
      allocations s.slotOf y (s.slotOf x) + 1 := by
    rw [allocations_succ, if_pos hslot]
  have hpos : 0 < allocations s.slotOf (x + 1) (s.slotOf x) := by
    rw [allocations_succ, if_pos rfl]
    exact Nat.succ_pos _
  have hlow := allocations_mono s.slotOf (s.slotOf x) (Nat.succ_le_of_lt hxy)
  have hhigh := allocations_mono s.slotOf (s.slotOf x) (Nat.succ_le_of_lt hlt)
  rw [hi.names.generations x hx, hi.names.generations y hlt, hslot]
  unfold reallocations at hfew
  simp only [Nat.succ_eq_add_one] at hlow hhigh
  exact (generationOf_ne hpos (by omega) (by omega)).symm

theorem names_resolve_to_nothing (hi : Inv s) (hx : x < s.nextSession)
    (hgone : s.allocated x = false)
    (hfew : reallocations s x < handleGenerationMask) :
    findHandle (s.handle x) s = none ∧ ∀ events, eventSession ⟨s.token x, events⟩ s = none := by
  constructor
  · cases hfind : findHandle (s.handle x) s with
    | none => rfl
    | some y =>
      obtain ⟨hy, hname⟩ := findHandle_some hfind
      obtain ⟨hslot, hgen⟩ := handle_decode hi (hi.active.fresh y hy) hx hname
      exact absurd hgen (names_differ hi hx hgone hfew hy hslot)
  · intro events
    cases hfind : eventSession ⟨s.token x, events⟩ s with
    | none => rfl
    | some y =>
      obtain ⟨hy, hname, -⟩ := (eventSession_iff hi _).mp hfind
      obtain ⟨hslot, hgen⟩ := token_decode hi (hi.active.fresh y hy) hx hname
      exact absurd hgen (names_differ hi hx hgone hfew hy hslot)

/-! ## What one session's business touches -/

/-- The fields of `struct tcpcc_bridge_session`, with what is recorded about the session. -/
structure SessionView where
  slotOf : SlotId
  publicSock : Option SockId
  hostFd : ℤ
  handle : ℤ
  token : ℕ
  generation : ℕ
  allocated : Bool
  acceptEvents : Bool
  registered : Bool
  connecting : Bool
  publicCallbacksInstalled : Bool
  savedHooks : Hooks
  reaps : ℕ
  host : HostUse
  bufferWaitQueued : Bool
  finishedNotified : Bool
  connectEvents : ℕ
  terminalEvents : ℕ
  hostSendEagain : ℕ
  hostPartialWrites : ℕ
  hostRecvEagain : ℕ
  eventRefs : ℕ
  flow : Dir → Flow
  readyQueued : Bool
  running : Bool
  stopping : Bool
  readable : Side → Bool
  writable : Side → Bool
  status : ℤ
  finished : Completion
  connectReady : Completion
  eventIdle : Completion

def sessionView (s : State) (y : SessionId) : SessionView where
  slotOf := s.slotOf y
  publicSock := s.publicSock y
  hostFd := s.hostFd y
  handle := s.handle y
  token := s.token y
  generation := s.generation y
  allocated := s.allocated y
  acceptEvents := s.acceptEvents y
  registered := s.registered y
  connecting := s.connecting y
  publicCallbacksInstalled := s.publicCallbacksInstalled y
  savedHooks := s.savedHooks y
  reaps := s.reaps y
  host := s.host y
  bufferWaitQueued := s.bufferWaitQueued y
  finishedNotified := s.finishedNotified y
  connectEvents := s.connectEvents y
  terminalEvents := s.terminalEvents y
  hostSendEagain := s.hostSendEagain y
  hostPartialWrites := s.hostPartialWrites y
  hostRecvEagain := s.hostRecvEagain y
  eventRefs := s.eventRefs y
  flow := s.flow y
  readyQueued := s.readyQueued y
  running := s.running y
  stopping := s.stopping y
  readable := s.readable y
  writable := s.writable y
  status := s.status y
  finished := s.finished y
  connectReady := s.connectReady y
  eventIdle := s.eventIdle y

/-- What the sessions have in common. -/
def State.shared (s : State) :=
  (s.ready, s.bufferBytes, s.bufferHighWater, s.bufferWaiters, s.sock)

/-- A step that concerns session `x` and the sockets of `mine` alone: every other session is
as before, in the same order on the ready queue, and so are the other sockets and the
account of buffers. -/
structure Touches (x : SessionId) (mine : SockId → Prop) (s s' : State) : Prop where
  sessions : ∀ y, y ≠ x → sessionView s' y = sessionView s y
  order : s'.ready.filter (· ≠ x) = s.ready.filter (· ≠ x)
  bufferBytes : s'.bufferBytes = s.bufferBytes
  bufferHighWater : s'.bufferHighWater = s.bufferHighWater
  bufferWaiters : s'.bufferWaiters = s.bufferWaiters
  socks : ∀ k, ¬ mine k → s'.sock k = s.sock k

namespace Touches
variable {mine : SockId → Prop}

theorem refl (x : SessionId) (s : State) : Touches x mine s s :=
  ⟨fun _ _ => rfl, rfl, rfl, rfl, rfl, fun _ _ => rfl⟩

theorem trans {a b d : State} (h : Touches x mine a b) (h' : Touches x mine b d) :
    Touches x mine a d where
  sessions y hy := (h'.sessions y hy).trans (h.sessions y hy)
  order := h'.order.trans h.order
  bufferBytes := h'.bufferBytes.trans h.bufferBytes
  bufferHighWater := h'.bufferHighWater.trans h.bufferHighWater
  bufferWaiters := h'.bufferWaiters.trans h.bufferWaiters
  socks k hk := (h'.socks k hk).trans (h.socks k hk)

theorem of_sessions (h : ∀ y, y ≠ x → sessionView s' y = sessionView s y)
    (hshared : s'.shared = s.shared) : Touches x mine s s' := by
  simp only [State.shared, Prod.mk.injEq] at hshared
  obtain ⟨hready, hbytes, hhigh, hwaiters, hsock⟩ := hshared
  exact ⟨h, by rw [hready], hbytes, hhigh, hwaiters, fun k _ => congrFun hsock k⟩

theorem queueSession : Touches x mine s (queueSession x s) where
  sessions y hy := by
    have hq : (State.queueSession x s).readyQueued y = s.readyQueued y := by
      simp [queueSession_readyQueued, hy]
    unfold sessionView
    rw [hq]
    rfl
  order := by
    unfold State.queueSession
    simp only
    split <;> simp
  bufferBytes := rfl
  bufferHighWater := rfl
  bufferWaiters := rfl
  socks _ _ := rfl

theorem eventGet : Touches x mine s (eventGet x s) := by
  refine of_sessions (fun y hy => ?_) rfl
  unfold sessionView Bridge.eventGet
  by_cases hrefs : s.eventRefs x = 0 <;> simp [hy, hrefs]

theorem eventPut : Touches x mine s (eventPut x s) := by
  refine of_sessions (fun y hy => ?_) rfl
  unfold sessionView Bridge.eventPut
  by_cases hrefs : s.eventRefs x = 1 <;> simp [hy, hrefs]

theorem connectEvent (events : ℕ) : Touches x mine s (connectEvent x events s) := by
  refine of_sessions (fun y hy => ?_) rfl
  simp [sessionView, Bridge.connectEvent, hy]

theorem readyEvent (events : ℕ) : Touches x mine s (readyEvent x events s) := by
  refine of_sessions (fun y hy => ?_) rfl
  simp [sessionView, Bridge.readyEvent, hy, set₂_ne]

theorem sessionStop (status : ℤ) : Touches x mine s (sessionStop x status s).2 := by
  have hmark : Touches x mine s (markStopped x status s) := by
    refine of_sessions (fun y hy => ?_) rfl
    by_cases hst : status ≠ 0 ∧ s.status x = 0 <;> simp [sessionView, markStopped, hy, hst]
  unfold State.sessionStop
  split
  · split
    · exact hmark
    · exact hmark.trans queueSession
  · exact refl x s

theorem setSock {sk : SockId} (hsk : mine sk) (v : Sock) : Touches x mine s (s.setSock sk v) where
  sessions _ _ := rfl
  order := rfl
  bufferBytes := rfl
  bufferHighWater := rfl
  bufferWaiters := rfl
  socks k hk := Function.update_of_ne (fun he => hk (by rw [he]; exact hsk)) _ _

end Touches

structure Delivers (x : SessionId) (s s' : State) : Prop
    extends Touches x (fun k => s.publicSock x = some k) s s' where
  registry : s'.toRegistry = s.toRegistry

theorem dispatchEvent_delivers {e : HostEvent} (h : eventSession e s = some x) (error : ℤ) :
    Delivers x s (dispatchEvent e error s).2 ∧
      ∀ p, (dispatchEvent e error s).1 = some p → p.1 = x := by
  unfold dispatchEvent
  rw [h]
  simp only
  split
  · exact ⟨⟨(Touches.eventGet.trans (Touches.connectEvent _)).trans Touches.eventPut, rfl⟩, nofun⟩
  · have hready : Touches x (fun k => s.publicSock x = some k) s
        (readyEvent x e.events (eventGet x s)) :=
      Touches.eventGet.trans (Touches.readyEvent _)
    split
    · refine ⟨⟨hready.trans (Touches.sessionStop _), sessionStop_registry _ _ _⟩, fun p hp => ?_⟩
      cases hp
      rfl
    · exact ⟨⟨(hready.trans Touches.queueSession).trans Touches.eventPut, rfl⟩, nofun⟩

theorem abortSocket_exec {first : Bool} {moves : List (State × State)}
    (h : Prog.Exec (abortSocket x first) moves ()) : ∀ m ∈ moves, Delivers x m.1 m.2 := by
  unfold abortSocket at h
  cases first with
  | false =>
    cases h
    simp
  | true =>
    obtain ⟨t, r, -, rfl, -⟩ := Prog.Exec.await h
    intro m hm
    rw [List.mem_singleton] at hm
    subst hm
    cases hsk : t.publicSock x with
    | none => exact ⟨Touches.refl x t, rfl⟩
    | some sk => exact ⟨Touches.setSock hsk _, rfl⟩

/-- One pass of the loop over host events: the event at the head of the queue concerns the
live session of its token, or nobody. -/
theorem drain_exec (hi : Inv s) {e : HostEvent} {q : List HostEvent} {moves : List (State × State)}
    {seg : Segment} (hqueue : s.runtimeQueue = e :: q)
    (h : Prog.Exec (dispatcherThread .drain) ((s, s') :: moves) seg) :
    (∃ x, s.allocated x = true ∧ s.token x = e.token ∧ Delivers x s s' ∧
        ∀ m ∈ moves, Delivers x m.1 m.2) ∨
      ((∀ x, s.allocated x = true → s.acceptEvents x = true → s.token x ≠ e.token) ∧
        s' = { s with runtimeReady := q.length, runtimeQueue := q } ∧ moves = []) := by
  obtain ⟨first, rest, drained, hmoves, hfirst, hrest⟩ := Prog.Exec.bind h
  obtain ⟨t, r, -, rfl, rfl⟩ := Prog.Exec.await hfirst
  simp only [List.cons_append, List.nil_append, List.cons.injEq, Prod.mk.injEq] at hmoves
  obtain ⟨⟨rfl, rfl⟩, rfl⟩ := hmoves
  obtain ⟨e', q', hpoll, hqueue'⟩ : ∃ e' q', runtimeEventPoll s = (.event e', { s with
      runtimeReady := q'.length, runtimeQueue := q' }) ∧ s.runtimeQueue = e' :: q' := by
    rcases runtimeEventPoll_spec hi with hpoll | hpoll
    · have hcredits := hi.queue.credits
      rw [hqueue] at hcredits
      simp [runtimeEventPoll, hcredits, hqueue] at hpoll
    · exact hpoll
  rw [hqueue, List.cons.injEq] at hqueue'
  obtain ⟨rfl, rfl⟩ := hqueue'
  simp only [drainHostEvent, hpoll] at hrest ⊢
  cases hx : eventSession e s with
  | none =>
    refine .inr ⟨fun x ha hacc htoken => ?_, ?_, ?_⟩
    · rw [(eventSession_iff hi e).mpr ⟨ha, htoken, hacc⟩] at hx
      cases hx
    · simp only [dispatchEvent]
      rw [show eventSession e { s with runtimeReady := q.length, runtimeQueue := q } = none from hx]
    · simp only [dispatchEvent] at hrest
      rw [show eventSession e { s with runtimeReady := q.length, runtimeQueue := q } = none from hx]
        at hrest
      cases hrest
      rfl
  | some x =>
    obtain ⟨ha, htoken, -⟩ := (eventSession_iff hi e).mp hx
    obtain ⟨htouch, hafter⟩ := dispatchEvent_delivers
      (s := { s with runtimeReady := q.length, runtimeQueue := q }) hx r.ret
    refine .inl ⟨x, ha, htoken, ?_, ?_⟩
    · have hpop : Touches x (fun k => s.publicSock x = some k) s
          { s with runtimeReady := q.length, runtimeQueue := q } :=
        .of_sessions (fun _ _ => rfl) rfl
      exact ⟨hpop.trans htouch.toTouches, htouch.registry⟩
    · generalize dispatchEvent e r.ret
        { s with runtimeReady := q.length, runtimeQueue := q } = handled
        at hrest hafter
      obtain ⟨after, t⟩ := handled
      cases after with
      | none =>
        cases hrest
        simp
      | some p =>
        obtain ⟨z, first⟩ := p
        have hz : z = x := hafter _ rfl
        subst hz
        obtain ⟨moves₁, moves₂, ⟨⟩, rfl, habort, hput⟩ := Prog.Exec.bind hrest
        obtain ⟨u, r', -, rfl, -⟩ := Prog.Exec.await hput
        intro m hm
        rcases List.mem_append.mp hm with hm | hm
        · exact abortSocket_exec habort m hm
        · rw [List.mem_singleton] at hm
          subst hm
          exact ⟨Touches.queueSession.trans Touches.eventPut, rfl⟩

/-- Live sessions have handles that a positive `s32` can hold and names of their own; a
handle leads to the live session that has it, a host event to the live session of its
token, and neither leads to a session that is gone before the slot was allocated 2047 more
times. -/
theorem reachable_names (h : Reachable c) :
    (∀ x, c.state.allocated x = true → 0 < c.state.handle x ∧ c.state.handle x < 2 ^ 31) ∧
    (∀ x y, c.state.allocated x = true → c.state.allocated y = true → x ≠ y →
      c.state.handle x ≠ c.state.handle y ∧ c.state.token x ≠ c.state.token y) ∧
    (∀ name x, findHandle name c.state = some x ↔
      c.state.allocated x = true ∧ c.state.handle x = name) ∧
    (∀ e q s' moves seg, c.state.runtimeQueue = e :: q →
      Prog.Exec (dispatcherThread .drain) ((c.state, s') :: moves) seg →
      (∃ x, c.state.allocated x = true ∧ c.state.token x = e.token ∧ Delivers x c.state s' ∧
          ∀ m ∈ moves, Delivers x m.1 m.2) ∨
        ((∀ x, c.state.allocated x = true → c.state.acceptEvents x = true →
            c.state.token x ≠ e.token) ∧
          s' = { c.state with runtimeReady := q.length, runtimeQueue := q } ∧ moves = [])) ∧
    (∀ x, x < c.state.nextSession → c.state.allocated x = false → reallocations c.state x < 2047 →
      findHandle (c.state.handle x) c.state = none ∧
        ∀ events, eventSession ⟨c.state.token x, events⟩ c.state = none) := by
  have hi := reachable_inv h
  refine ⟨fun x => handle_range hi, fun x y hx hy hne => ⟨fun he => hne ?_, fun he => hne ?_⟩,
    fun name x => findHandle_iff hi name, fun e q s' moves seg => drain_exec hi,
    fun x => names_resolve_to_nothing hi⟩
  · exact handle_unique hi hx hy he
  · exact token_unique hi hx hy he

theorem names_started_and_joined :
    findHandle 1048577 (configAfter startRun).state = some 0 ∧
      findHandle ((configAfter (transferRun ++ joinRun)).state.handle 0)
        (configAfter (transferRun ++ joinRun)).state = none :=
  ⟨((reachable_names (reachable_configAfter startRun)).2.2.1 1048577 0).mpr (by decide +kernel),
    ((reachable_names (reachable_configAfter (transferRun ++ joinRun))).2.2.2.2 0
      (by decide +kernel)
      (by decide +kernel) (by decide +kernel)).1⟩

end Tcpcc.Bridge

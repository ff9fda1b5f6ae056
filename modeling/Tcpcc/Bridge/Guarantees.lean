import Tcpcc.Bridge.Reachable
import Tcpcc.Lib.Execution

/-!
# What the bridge guarantees

The invariant of the reachable states, read as the properties that users of the bridge
rely on: streams arrive unchanged, no session is forgotten while it could move, the
shared buffer budget is kept, sessions are freed only when nothing reaches them, and a
result of zero means two complete streams.
-/

namespace Tcpcc.Bridge
open Resumption State

variable {c : Config}

/-! ## Runs

A session over socket 7, used below as an instance: it is started, passes two bytes from
the public to the backend side, finishes and is joined. -/

abbrev Transition := Label Reply Unit Op Event

def dispatcherStep (ret : ℤ) (data : List UInt8) : Transition := .left ⟨ret, data⟩

def controlStep (ret : ℤ) : Transition := .right ⟨ret, []⟩

def configAfter (ls : List Transition) : Config := (bridge.run boot ls).getD boot

theorem reachable_configAfter (ls : List Transition) : Reachable (configAfter ls) := by
  unfold configAfter
  cases hrun : bridge.run boot ls with
  | none => exact ⟨[], rfl⟩
  | some c => exact ⟨ls, hrun⟩

theorem run_configAfter {ls ls' : List Transition}
    (h : (bridge.run boot (ls ++ ls')).isSome = true) :
    bridge.run (configAfter ls) ls' = some (configAfter (ls ++ ls')) := by
  obtain ⟨c', hrun⟩ := Option.isSome_iff_exists.mp h
  have hsplit := hrun
  rw [bridge.run_append, Option.bind_eq_some_iff] at hsplit
  obtain ⟨d, hd, hrest⟩ := hsplit
  simp only [configAfter, hd, hrun, Option.getD_some]
  exact hrest

def returned (c : Config) : Option Outcome :=
  match c.right with
  | .ret a => some a
  | .act .. => none

theorem right_of_returned {a : Outcome} (h : returned c = some a) : c.right = .ret a := by
  unfold returned at h
  split at h
  · rw [Option.some.injEq] at h
    subst h
    assumption
  · cases h

/-- `tcpcc_bridge_start`: the backend connection is in progress until the host reports
its descriptor writable. -/
def startRun : List Transition :=
  [.env (.sock 7 { state := .established }), .resumeRight (.start 7)] ++
    [0, 0, 0, 0, 0, 3, 0, 0, -EINPROGRESS].map controlStep ++
    [.env (.hostEvent ⟨runtimeToken 2 1, 2⟩),
      .resumeLeft (), dispatcherStep 0 [], .resumeLeft (), dispatcherStep 0 [],
      .resumeLeft (), dispatcherStep 0 [], .resumeLeft (), dispatcherStep 0 []] ++
    [0, 0, 0, 0, 0].map controlStep

def idleRun : List Transition :=
  startRun ++ [.resumeLeft (), dispatcherStep 0 [],
    dispatcherStep 0 [], dispatcherStep 0 [], dispatcherStep (-EAGAIN) [],
    dispatcherStep 0 [], dispatcherStep 0 [], dispatcherStep (-EAGAIN) [], dispatcherStep 0 [],
    .resumeLeft (), dispatcherStep 0 [], .resumeLeft (), dispatcherStep 0 []]

def partialRun : List Transition :=
  startRun ++ [.resumeLeft (), dispatcherStep 0 [],
    dispatcherStep 0 [], dispatcherStep 0 [], dispatcherStep 2 [1, 2],
    dispatcherStep 0 [], dispatcherStep 1 []]

def transferRun : List Transition :=
  startRun ++ [.resumeLeft (), dispatcherStep 0 [],
    dispatcherStep 0 [], dispatcherStep 0 [], dispatcherStep 2 [1, 2],
    dispatcherStep 0 [], dispatcherStep 2 [], dispatcherStep 0 [], dispatcherStep 0 [],
    dispatcherStep 0 [], dispatcherStep 0 [], dispatcherStep 0 [], dispatcherStep 0 [],
    dispatcherStep 0 [],
    .env (.sock 7 { state := .close, userData := .session 0, hooks := bridgeHooks }),
    dispatcherStep 0 []]

def joinRun : List Transition :=
  .resumeRight (.joinResult 1048577) :: [0, 0, 0, 0, 0, 0].map controlStep

def lateCancelRun : List Transition :=
  transferRun ++ [.resumeRight (.cancelSession 1048577), controlStep 0] ++ joinRun

def joined (c : Config) : Option (SessionId × ℤ × Result × ℤ) :=
  match c.right with
  | .ret (.reaped x ret result cleanup) => some (x, ret, result, cleanup)
  | _ => none

theorem right_of_joined {x : SessionId} {ret : ℤ} {result : Result} {cleanup : ℤ}
    (h : joined c = some (x, ret, result, cleanup)) :
    c.right = .ret (.reaped x ret result cleanup) := by
  unfold joined at h
  split at h
  · simp only [Option.some.injEq, Prod.mk.injEq] at h
    obtain ⟨rfl, rfl, rfl, rfl⟩ := h
    assumption
  · cases h

def transferResult (status : ℤ) : Result where
  token := runtimeToken 2 1
  publicToBackendBytes := 2
  backendToPublicBytes := 0
  bufferLimit := Bridge.bufferLimit
  totalBufferLimit := Bridge.totalBufferLimit
  terminalEvents := 0
  hostSendEagain := 0
  hostPartialWrites := 0
  hostRecvEagain := 0
  sessionLimit := Bridge.sessionLimit
  status := status

theorem joined_transferRun :
    joined (configAfter (transferRun ++ joinRun)) = some (0, 0, transferResult 0, 0) := by
  decide +kernel

/-! ## Streams -/

/-- In each direction the bytes the destination took, followed by the unsent part of the
buffer, are the bytes the source delivered; the write side is shut down at most once, at
the end of a stream that was passed on in full. -/
theorem reachable_stream_fidelity (h : Reachable c) (x : SessionId) (d : Dir) :
    (∃ rest, (c.state.flow x d).received = (c.state.flow x d).accepted ++ rest ∧
      rest.length = (c.state.flow x d).length - (c.state.flow x d).offset ∧
      (∀ data, (c.state.flow x d).buffer = some data →
        rest = (data.take (c.state.flow x d).length).drop (c.state.flow x d).offset) ∧
      (c.state.finishedNotified x = false → rest = (c.state.flow x d).unsent)) ∧
    (c.state.flow x d).shutdowns ≤ 1 ∧
    ((c.state.flow x d).shutdowns = 1 → (c.state.flow x d).eof = true ∧
      (c.state.flow x d).accepted = (c.state.flow x d).received) := by
  have hflows := (reachable_inv h).flows
  have hf := hflows.ok x d
  refine ⟨?_, ?_, ?_⟩
  · obtain ⟨rest, hsplit, hlength, hdata⟩ := hf.split
    refine ⟨rest, hsplit, hlength, fun data hb => (hdata data hb).symm, fun hrun => ?_⟩
    have hsplit' := hf.received_eq (hflows.backed x d hrun)
    rw [hsplit] at hsplit'
    exact List.append_cancel_left hsplit'
  · rcases hf.shut with hs | hs <;> omega
  · intro hone
    rcases hf.shut with hs | hs
    · omega
    · exact ⟨hs.2, ((hf.empty (hf.eof hs.2).1).2).symm⟩

theorem stream_fidelity_partial :
    ((configAfter partialRun).state.flow 0 .publicToBackend).accepted = [1] ∧
      ∃ rest, ((configAfter partialRun).state.flow 0 .publicToBackend).received = [1] ++ rest := by
  have haccepted : ((configAfter partialRun).state.flow 0 .publicToBackend).accepted = [1] := by
    decide +kernel
  obtain ⟨⟨rest, hsplit, -⟩, -⟩ :=
    reachable_stream_fidelity (reachable_configAfter partialRun) 0 .publicToBackend
  rw [haccepted] at hsplit
  exact ⟨haccepted, rest, hsplit⟩

/-! ## Readiness -/

/-- The dispatcher has nothing to do: no session is queued or under its hands, and
nobody has called for it. -/
def DispatcherIdle (s : State) : Prop :=
  s.ready = [] ∧ s.dispatcherPending = false ∧ s.pumping = none

theorem reachable_no_lost_readiness (h : Reachable c) (hidle : DispatcherIdle c.state)
    (x : SessionId)
    (hrun : c.state.running x = true) (hstop : c.state.stopping x = false) (d : Dir)
    (hdone : (c.state.flow x d).done = false) :
    ((c.state.flow x d).offset < (c.state.flow x d).length ∧
      c.state.writable x d.dest = false) ∨
    (¬ (c.state.flow x d).offset < (c.state.flow x d).length ∧
      (c.state.flow x d).bufferWaiting = false ∧ c.state.readable x d.source = false) ∨
    ((c.state.flow x d).bufferWaiting = true ∧ x ∈ c.state.bufferWaiters ∧
      totalBufferLimit < c.state.bufferBytes + bufferLimit) := by
  obtain ⟨hready, -, hpump⟩ := hidle
  have hi := reachable_inv h
  have hunqueued : c.state.readyQueued x = false := hi.ready.listed.not_mem.1 (by simp [hready])
  rcases hi.settled.settled x hrun hstop hunqueued (by simp [hpump]) d with hs | hs | hs | hs
  · rw [hs] at hdone
    cases hdone
  · exact .inl hs
  · exact .inr (.inl hs)
  · have hmem := hi.waiters.listed.mem x |>.2 (hi.waiters.waiting x d hs)
    exact .inr (.inr ⟨hs, hmem, hi.exhausted.exhausted (List.ne_nil_of_mem hmem)⟩)

theorem no_lost_readiness_idle :
    DispatcherIdle (configAfter idleRun).state ∧ (configAfter idleRun).state.running 0 = true ∧
      (configAfter idleRun).state.readable 0 .publicSide = false := by
  have hidle : DispatcherIdle (configAfter idleRun).state :=
    ⟨by decide +kernel, by decide +kernel, by decide +kernel⟩
  have hrun : (configAfter idleRun).state.running 0 = true := by decide +kernel
  have hempty : ((configAfter idleRun).state.flow 0 .publicToBackend).length = 0 := by
    decide +kernel
  have hwaiting : ((configAfter idleRun).state.flow 0 .publicToBackend).bufferWaiting = false := by
    decide +kernel
  refine ⟨hidle, hrun, ?_⟩
  rcases reachable_no_lost_readiness (reachable_configAfter idleRun) hidle 0 hrun
    (by decide +kernel) .publicToBackend (by decide +kernel) with hs | hs | hs
  · omega
  · exact hs.2.2
  · rw [hwaiting] at hs
    cases hs.1

/-! ## Buffers -/

theorem Settled.unsent {f : Flow} {writable readable : Bool} (h : Settled f writable readable)
    (hrest : Rested f readable) (hf : FlowOK f) (hb : f.buffer.isSome = true) :
    f.offset < f.length := by
  have hread := hrest.1 hb
  rcases h with hs | hs | hs | hs
  · rcases hf.shut with hshut | hshut
    · have := hf.done hs
      omega
    · simp [(hf.eof hshut.2).2] at hb
  · exact hs.1
  · rw [hs.2.2] at hread
    cases hread
  · simp [(hf.waiting hs).1] at hb

theorem Inv.held_fresh {s : State} (hi : Inv s) {x : SessionId} (hx : s.nextSession ≤ x) (d : Dir) :
    (s.flow x d).buffer = none := by
  rw [← Option.not_isSome_iff_eq_none]
  intro hb
  have hlive := (hi.phase.isRunning x (hi.holders.buffer x d hb)).1
  exact absurd (hi.active.fresh x hlive) (Nat.not_lt.2 hx)

theorem reachable_buffer_budget (h : Reachable c) :
    c.state.bufferBytes =
      bufferLimit * (∑ x ∈ Finset.range c.state.nextSession, held (c.state.flow x) : ℕ) ∧
    (∀ x d, c.state.nextSession ≤ x → (c.state.flow x d).buffer = none) ∧
    c.state.bufferBytes ≤ totalBufferLimit ∧
    (c.state.bufferWaiters ≠ [] → totalBufferLimit < c.state.bufferBytes + bufferLimit) ∧
    (∀ x, x ∈ c.state.bufferWaiters ↔ c.state.bufferWaitQueued x = true) ∧
    c.state.bufferWaiters.Nodup ∧
    (∀ x, c.state.running x = true → c.state.stopping x = false → c.state.pumping ≠ some x →
      x ∉ c.state.ready → ∀ d, (c.state.flow x d).buffer.isSome = true →
        (c.state.flow x d).offset < (c.state.flow x d).length) ∧
    (∀ x, c.state.finishedNotified x = true →
      (∀ d, (c.state.flow x d).buffer = none) ∧ x ∉ c.state.bufferWaiters) := by
  have hi := reachable_inv h
  refine ⟨hi.budget.sum, fun x d hx => hi.held_fresh hx d, hi.budget.bound,
    hi.exhausted.exhausted, hi.waiters.listed.mem, hi.waiters.listed.nodup, ?_, ?_⟩
  · intro x hrun hstop hpump hready d hb
    have hunqueued := hi.ready.listed.not_mem.1 hready
    exact (hi.settled.settled x hrun hstop hunqueued hpump d).unsent
      (hi.settled.rested x hrun hpump d) (hi.flows.ok x d) hb
  · intro x hfin
    have hnot : ¬ c.state.running x = true := fun hrun => by
      simp [(hi.phase.isRunning x hrun).2.2] at hfin
    refine ⟨fun d => ?_, fun hmem => ?_⟩
    · rw [← Option.not_isSome_iff_eq_none]
      exact fun hb => hnot (hi.holders.buffer x d hb)
    · exact hnot (hi.holders.waiter x ((hi.waiters.listed.mem x).1 hmem))

theorem buffer_budget_partial :
    (configAfter partialRun).state.bufferBytes = bufferLimit ∧
      (configAfter partialRun).state.bufferWaiters = [] := by
  have hbytes : (configAfter partialRun).state.bufferBytes = bufferLimit := by decide +kernel
  refine ⟨hbytes, ?_⟩
  by_contra hwaiting
  have hfull := (reachable_buffer_budget (reachable_configAfter partialRun)).2.2.2.1 hwaiting
  rw [hbytes] at hfull
  exact absurd hfull (by decide)

/-! ## Lifetimes -/

theorem SlotsOK.free_or_owned {slot : ℕ → Slot} {slotCount : ℕ} {freeSlots : List ℕ}
    {slotOf : SessionId → ℕ} {allocated : SessionId → Bool}
    (h : SlotsOK slot slotCount freeSlots none slotOf allocated) {id : ℕ} (hid : 1 ≤ id)
    (hle : id ≤ slotCount) :
    (id ∈ freeSlots ∧ (slot id).session = none ∧ ∀ x, allocated x = true → slotOf x ≠ id) ∨
      (id ∉ freeSlots ∧ ∃ x, (slot id).session = some x ∧
        ∀ y, allocated y = true ∧ slotOf y = id ↔ y = x) := by
  rcases h.cover id hid hle with hfree | howned | hhand
  · have hnone := (h.free id hfree).2.1
    refine .inl ⟨hfree, hnone, fun x hx hslot => ?_⟩
    have hsome := (h.owner x hx).2
    rw [hslot, hnone] at hsome
    cases hsome
  · obtain ⟨x, hx⟩ := Option.ne_none_iff_exists'.1 howned
    refine .inr ⟨fun hfree => howned (h.free id hfree).2.1, x, hx, fun y => ?_⟩
    constructor
    · rintro ⟨hy, rfl⟩
      have hsome := (h.owner y hy).2
      rw [hx] at hsome
      exact (Option.some.inj hsome).symm
    · rintro rfl
      exact h.owned id y hx
  · cases hhand

/-- Nothing in the bridge leads to session `x` any more. -/
structure Unreachable (x : SessionId) (s : State) : Prop where
  active : x ∉ s.active
  ready : x ∉ s.ready
  waiters : x ∉ s.bufferWaiters
  slot : ∀ id, (s.slot id).session ≠ some x
  refs : s.eventRefs x = 0 ∧ s.dispatching ≠ some x
  callback : ∀ sk, (s.sock sk).userData ≠ .session x

theorem Inv.unreachable {s : State} (hi : Inv s) {x : SessionId} (hx : s.allocated x = false) :
    Unreachable x s := by
  have hdead : ¬ s.allocated x = true := by simp [hx]
  have hidle : s.dispatching ≠ some x := fun hd => hdead (hi.refs.live x hd)
  exact
    { active := fun hm => hdead ((hi.active.listed.mem x).1 hm)
      ready := fun hm => hdead (hi.ready.live x ((hi.ready.listed.mem x).1 hm))
      waiters := fun hm => hdead (hi.waiters.live x ((hi.waiters.listed.mem x).1 hm))
      slot := fun id hs => hdead (hi.slots.owned id x hs).1
      refs := ⟨by simp [hi.refs.refs x, hidle], hidle⟩
      callback := fun sk hu => hdead (hi.hooks.live sk x hu).1 }

theorem reachable_session_lifetime (h : Reachable c) :
    (∀ a, c.right = .ret a → ∀ id, 1 ≤ id → id ≤ c.state.slotCount →
      (id ∈ c.state.freeSlots ∧ (c.state.slot id).session = none ∧
        ∀ x, c.state.allocated x = true → c.state.slotOf x ≠ id) ∨
      (id ∉ c.state.freeSlots ∧ ∃ x, (c.state.slot id).session = some x ∧
        ∀ y, c.state.allocated y = true ∧ c.state.slotOf y = id ↔ y = x)) ∧
    (∀ x, x ∈ c.state.active ↔ c.state.allocated x = true) ∧
    c.state.active.Nodup ∧ c.state.active.length = c.state.activeSessions ∧
    (∀ x, x ∈ c.state.ready ↔ c.state.readyQueued x = true) ∧ c.state.ready.Nodup ∧
    (∀ x ∈ c.state.ready, c.state.allocated x = true) ∧
    (∀ x, x ∈ c.state.bufferWaiters ↔ c.state.bufferWaitQueued x = true) ∧
    c.state.bufferWaiters.Nodup ∧ (∀ x ∈ c.state.bufferWaiters, c.state.allocated x = true) ∧
    (∀ sk x, (c.state.sock sk).userData = .session x →
      c.state.allocated x = true ∧ x ∉ c.state.retired) ∧
    (∀ x ∈ c.state.retired, Unreachable x c.state) ∧
    (∀ x ∈ c.state.freed, Unreachable x c.state) := by
  have hi := reachable_inv h
  have hgone : ∀ x ∈ c.state.freed ++ c.state.retired, c.state.allocated x = false :=
    fun x hx => (hi.retired.gone x hx).1
  refine ⟨?_, hi.active.listed.mem, hi.active.listed.nodup, hi.active.count,
    hi.ready.listed.mem, hi.ready.listed.nodup,
    fun x hx => hi.ready.live x ((hi.ready.listed.mem x).1 hx),
    hi.waiters.listed.mem, hi.waiters.listed.nodup,
    fun x hx => hi.waiters.live x ((hi.waiters.listed.mem x).1 hx), ?_, ?_, ?_⟩
  · intro a ha id hid hle
    have hslots := hi.slots
    rw [(reachable_outcome h ha).calm.hand] at hslots
    exact hslots.free_or_owned hid hle
  · intro sk x hu
    have hlive := (hi.hooks.live sk x hu).1
    refine ⟨hlive, fun hx => ?_⟩
    rw [hgone x (List.mem_append_right _ hx)] at hlive
    cases hlive
  · exact fun x hx => hi.unreachable (hgone x (List.mem_append_right _ hx))
  · exact fun x hx => hi.unreachable (hgone x (List.mem_append_left _ hx))

theorem session_lifetime_started :
    (configAfter startRun).state.active = [0] ∧
      (configAfter startRun).state.allocated 0 = true := by
  have hactive : (configAfter startRun).state.active = [0] := by decide +kernel
  refine ⟨hactive, ?_⟩
  have hmem := (reachable_session_lifetime (reachable_configAfter startRun)).2.1 0
  exact hmem.1 (by simp [hactive])

/-! ## Results -/

theorem Reaped.status_le {s : State} (hi : Inv s) {x : SessionId} {result : Result} {cleanup : ℤ}
    (h : Reaped x result cleanup s) :
    result.status ≤ 0 ∧ (s.status x ≠ 0 → result.status = s.status x ∧ result.status < 0) := by
  have hle := hi.status.nonpos x
  have hcleanup := h.cleanup_le
  by_cases hz : s.status x = 0
  · have hstatus : result.status = cleanup := by simp [h.status, hz]
    exact ⟨by omega, fun hne => absurd hz hne⟩
  · have hstatus : result.status = s.status x := by simp [h.status, hz]
    exact ⟨by omega, fun _ => ⟨hstatus, by omega⟩⟩

theorem FlowOK.complete {f : Flow} (h : FlowOK f) (hdone : f.done = true) :
    f.eof = true ∧ f.accepted = f.received ∧ f.shutdowns = 1 := by
  have hone := h.done hdone
  rcases h.shut with hs | hs
  · omega
  · exact ⟨hs.2, ((h.empty (h.eof hs.2).1).2).symm, hone⟩

theorem reachable_successful_result (h : Reachable c) {x : SessionId} {ret : ℤ} {result : Result}
    {cleanup : ℤ} (hret : c.right = .ret (.reaped x ret result cleanup)) :
    (result.status = 0 →
      (∀ d, (c.state.flow x d).eof = true ∧
        (c.state.flow x d).accepted = (c.state.flow x d).received ∧
        (c.state.flow x d).shutdowns = 1 ∧ (c.state.flow x d).done = true) ∧
      c.state.finishClosed x = true ∧
      result.publicToBackendBytes = (c.state.flow x .publicToBackend).received.length ∧
      result.backendToPublicBytes = (c.state.flow x .backendToPublic).received.length) ∧
    result.status ≤ 0 ∧
    ((∃ r ∈ c.state.stops, r.session = x) → result.status < 0) ∧
    ((∃ d, (c.state.flow x d).done = false) → result.status < 0) := by
  have hi := reachable_inv h
  obtain ⟨-, hreaped⟩ := reachable_outcome h hret
  obtain ⟨hle, hneg⟩ := hreaped.status_le hi
  refine ⟨fun hzero => ?_, hle, ?_, ?_⟩
  · have hstatus : c.state.status x = 0 := by
      by_contra hne
      have := hneg hne
      omega
    obtain ⟨hclosed, hdone⟩ := hi.finish.clean x hreaped.finished hstatus
    have hcomplete := fun d => (hi.flows.ok x d).complete (hdone d)
    refine ⟨fun d => ?_, hclosed, ?_, ?_⟩
    · obtain ⟨heof, haccepted, hshut⟩ := hcomplete d
      exact ⟨heof, haccepted, hshut, hdone d⟩
    · rw [hreaped.sent, (hi.flows.ok x _).bytes, (hcomplete _).2.1]
    · rw [hreaped.received, (hi.flows.ok x _).bytes, (hcomplete _).2.1]
  · rintro ⟨r, hr, rfl⟩
    have htold := (hi.status.told r hr).2
    exact (hneg (by omega)).2
  · rintro ⟨d, hd⟩
    refine (hneg fun hzero => ?_).2
    rw [(hi.finish.clean x hreaped.finished hzero).2 d] at hd
    cases hd

theorem successful_result_transfer :
    joined (configAfter (transferRun ++ joinRun)) = some (0, 0, transferResult 0, 0) ∧
      ((configAfter (transferRun ++ joinRun)).state.flow 0 .publicToBackend).accepted =
        ((configAfter (transferRun ++ joinRun)).state.flow 0 .publicToBackend).received := by
  refine ⟨joined_transferRun, ?_⟩
  obtain ⟨hclean, -⟩ :=
    reachable_successful_result (reachable_configAfter _) (right_of_joined joined_transferRun)
  exact ((hclean rfl).1 .publicToBackend).2.1

/-- The status a session has when it finishes is the one its join reports, unless it is
asked to stop between the two. -/
theorem reachable_terminal_status (h : Reachable c) {x : SessionId} {ret : ℤ} {result : Result}
    {cleanup : ℤ} (hret : c.right = .ret (.reaped x ret result cleanup))
    (hquiet : c.state.finishStatus x = 0 → ∀ r ∈ c.state.stops, r.session = x → r.late = false) :
    result.status =
      if c.state.finishStatus x ≠ 0 then c.state.finishStatus x else cleanup := by
  obtain ⟨-, hreaped⟩ := reachable_outcome h hret
  rcases (reachable_inv h).status.final x hreaped.finished with hfinal | ⟨hzero, r, hr, hx, hlate⟩
  · rw [← hfinal]
    exact hreaped.status
  · rw [hquiet hzero r hr hx] at hlate
    cases hlate

theorem terminal_status_transfer :
    joined (configAfter (transferRun ++ joinRun)) = some (0, 0, transferResult 0, 0) ∧
      (transferResult 0).status =
        if (configAfter (transferRun ++ joinRun)).state.finishStatus 0 ≠ 0 then
          (configAfter (transferRun ++ joinRun)).state.finishStatus 0
        else 0 := by
  have hstops : (configAfter (transferRun ++ joinRun)).state.stops = [] := by decide +kernel
  refine ⟨joined_transferRun, ?_⟩
  exact reachable_terminal_status (reachable_configAfter _) (right_of_joined joined_transferRun)
    (by simp [hstops])

/-- A session that finished with status 0 is cancelled before it is joined: the join,
whose own cleanup succeeds, reports `-ECANCELED`. -/
theorem late_cancel_changes_status :
    ∃ c : Config, Reachable c ∧ ∃ x ret result cleanup,
      c.right = .ret (.reaped x ret result cleanup) ∧ c.state.finishStatus x = 0 ∧
      cleanup = 0 ∧ result.status = -ECANCELED := by
  have hjoined : joined (configAfter lateCancelRun) =
      some (0, 0, transferResult (-ECANCELED), 0) := by decide +kernel
  exact ⟨configAfter lateCancelRun, reachable_configAfter _, 0, 0, transferResult (-ECANCELED), 0,
    right_of_joined hjoined, by decide +kernel, rfl, rfl⟩

end Tcpcc.Bridge

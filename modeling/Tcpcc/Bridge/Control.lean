import Tcpcc.Bridge.Dispatcher

/-!
# Control-side operations

Starting, joining and cancelling sessions. Each operation holds
`tcpcc_bridge_control_lock` from its first block to its last, so at most one of them
is under way; the dispatcher and the callbacks run between its blocks. Every call
that leaves the bridge is a block of its own, finer than the places where the hosted
kernel can switch threads.
-/

namespace Tcpcc.Bridge
open Resumption State
open Function (update)

structure Result where
  token : ℕ
  publicToBackendBytes : ℕ
  backendToPublicBytes : ℕ
  bufferLimit : ℕ
  totalBufferLimit : ℕ
  terminalEvents : ℕ
  hostSendEagain : ℕ
  hostPartialWrites : ℕ
  hostRecvEagain : ℕ
  sessionLimit : ℕ
  status : ℤ
  deriving DecidableEq, Repr

/-- What a control-side operation returned. A session that was started or reaped is
named, and a reap keeps the status of its own cleanup apart. -/
inductive Outcome
  | value (ret : ℤ)
  | started (x : SessionId) (handle : ℤ)
  | reaped (x : SessionId) (ret : ℤ) (result : Result) (cleanup : ℤ)
  deriving DecidableEq

/-! ## The dispatcher task -/

inductive Spawn
  | status (ret : ℤ)
  | create
  deriving DecidableEq

/-- `tcpcc_bridge_manager_init` and `tcpcc_bridge_start_dispatcher` up to `kthread_run`. -/
def prepareDispatcher (s : State) : Spawn × State :=
  let s := { s with initialized := true }
  if s.dispatcherTask then (.status s.dispatcherStatus, s)
  else
    let s := { s with
      dispatcherStopping := false, dispatcherStatus := 0, dispatcherPending := false }
    if s.runtimeNotify then (.status (-EBUSY), s)
    else (.create, { s with runtimeNotify := true })

def spawnDispatcher (s : State) (r : Reply) : ℤ × State :=
  if r.ret < 0 then (r.ret, { s with runtimeNotify := false })
  else
    (0, dispatcherWake { s with
      dispatcherTask := true, dispatcherRunning := true
      dispatcherThread := .created, dispatcherShouldStop := false })

def startDispatcher : Thread ℤ := do
  match ← Prog.block fun s _ => prepareDispatcher s with
  | .status ret => pure ret
  | .create => Prog.await (fun _ r => r.status) spawnDispatcher

/-! ## Slots and sessions -/

def makeHandle (index generation : ℕ) : ℤ :=
  ((generation <<< handleSlotBits) ||| (index + 1) : ℕ)

def nextGeneration (generation : ℕ) : ℕ :=
  let generation := (generation + 1) &&& handleGenerationMask
  if generation = 0 then 1 else generation

def runtimeToken (slot generation : ℕ) : ℕ :=
  (1 <<< eventRuntimeBit) ||| ((generation &&& eventRuntimeGenerationMask) <<< 32) ||| slot

inductive SlotChoice
  | error (ret : ℤ)
  | slot (id : SlotId)
  | create
  deriving DecidableEq

/-- The check of the dispatcher and `tcpcc_bridge_allocate_slot` up to its `kzalloc`. -/
def reuseSlot (s : State) : SlotChoice × State :=
  if !s.dispatcherRunning then
    (.error (if s.dispatcherStatus = 0 then - EIO else s.dispatcherStatus), s)
  else
    match s.freeSlots with
    | id :: rest => (.slot id, { s with freeSlots := rest, slotInHand := some id })
    | [] => (.create, s)

/-- `idr_alloc` hands out the lowest unused id; slots are never removed. -/
def createSlot (s : State) (r : Reply) : Except ℤ SlotId × State :=
  if r.ret < 0 then (.error r.ret, s)
  else if s.slotCount + 1 < sessionLimit + 1 then
    let id := s.slotCount + 1
    (.ok id, { s with
      slotCount := id, slot := update s.slot id {}, slotInHand := some id })
  else (.error (-ENOSPC), s)

def allocateSlot : Thread (Except ℤ SlotId) := do
  match ← Prog.block fun s _ => reuseSlot s with
  | .error ret => pure (.error ret)
  | .slot id => pure (.ok id)
  | .create => Prog.await (fun _ r => r.status) createSlot

/-- `tcpcc_bridge_allocate_session` from its `kzalloc` on. -/
def allocateSession (sk : SockId) (id : SlotId) (s : State) (r : Reply) :
    Option SessionId × State :=
  if r.ret < 0 then
    (none, { s with freeSlots := id :: s.freeSlots, slotInHand := none })
  else
    let x := s.nextSession
    let generation := nextGeneration (s.slot id).generation
    (some x, { s with
      nextSession := x + 1
      slotInHand := none
      slot := update s.slot id ⟨some x, generation⟩
      active := s.active ++ [x]
      activeSessions := s.activeSessions + 1
      slotOf := update s.slotOf x id
      publicSock := update s.publicSock x (some sk)
      hostFd := update s.hostFd x (-1)
      handle := update s.handle x (makeHandle (id - 1) generation)
      token := update s.token x (runtimeToken (runtimeSlotBase + id - 1) generation)
      generation := update s.generation x generation
      allocated := update s.allocated x true
      readyQueued := update s.readyQueued x false
      bufferWaitQueued := update s.bufferWaitQueued x false
      acceptEvents := update s.acceptEvents x true
      registered := update s.registered x false
      connecting := update s.connecting x true
      running := update s.running x false
      stopping := update s.stopping x false
      finishedNotified := update s.finishedNotified x false
      publicCallbacksInstalled := update s.publicCallbacksInstalled x false
      readable := update s.readable x fun _ => false
      writable := update s.writable x fun _ => false
      status := update s.status x 0
      connectEvents := update s.connectEvents x 0
      terminalEvents := update s.terminalEvents x 0
      hostSendEagain := update s.hostSendEagain x 0
      hostPartialWrites := update s.hostPartialWrites x 0
      hostRecvEagain := update s.hostRecvEagain x 0
      eventRefs := update s.eventRefs x 0
      finished := update s.finished x 0
      connectReady := update s.connectReady x 0
      eventIdle := update s.eventIdle x 0
      savedHooks := update s.savedHooks x {}
      flow := update s.flow x fun _ => {} })

def findHandle (h : ℤ) (s : State) : Option SessionId :=
  if h ≤ 0 then none
  else
    let raw := h.toNat
    let slot := raw &&& handleSlotMask
    let generation := raw >>> handleSlotBits
    if slot = 0 ∨ slot > sessionLimit ∨ generation = 0 ∨ generation > handleGenerationMask ∨
        slot > s.slotCount then none
    else
      match (s.slot slot).session with
      | none => none
      | some x =>
        if s.allocated x ∧ s.handle x = h ∧ s.generation x = generation then some x else none

/-! ## Taking a session down -/

/-- `tcpcc_bridge_disable_events` up to its wait, with the answer of `event_del` and
whether an event is still being delivered. -/
def disableEvents (x : SessionId) (s : State) (r : Reply) : (ℤ × Bool) × State :=
  ((if s.registered x then r.ret else 0, decide (s.eventRefs x ≠ 0)), { s with
    acceptEvents := update s.acceptEvents x false
    registered := update s.registered x false
    host := if s.registered x then
        update s.host x { s.host x with dels := (s.host x).dels + 1 }
      else s.host })

def awaitEvents (x : SessionId) (busy : Bool) : Thread Unit :=
  if busy then
    Prog.await (fun s _ => decide (s.eventIdle x ≠ 0)) fun s _ =>
      ((), { s with eventIdle := update s.eventIdle x (Completion.take (s.eventIdle x)) })
  else pure ()

def closeHost (x : SessionId) (s : State) (r : Reply) : ℤ × State :=
  if s.hostFd x ≥ 0 then (r.ret, { s with
    hostFd := update s.hostFd x (-1)
    host := update s.host x { s.host x with closes := (s.host x).closes + 1 } })
  else (0, s)

/-- The session leaves its slot and the active list and is handed to the dispatcher
for freeing. -/
def retire (x : SessionId) (s : State) : State :=
  { s with
    slot := if (s.slot (s.slotOf x)).session = some x then
        update s.slot (s.slotOf x) { s.slot (s.slotOf x) with session := none }
      else s.slot
    freeSlots := s.slotOf x :: s.freeSlots
    active := s.active.erase x
    activeSessions := s.activeSessions - 1
    publicSock := update s.publicSock x none
    connecting := update s.connecting x false
    running := update s.running x false
    acceptEvents := update s.acceptEvents x false
    allocated := update s.allocated x false
    retired := s.retired ++ [x]
    dispatcherPending := true }

def releaseFailedStart (x : SessionId) (s : State) : State :=
  let s := retire x (unqueueSession x s)
  { s with stopping := update s.stopping x false }

/-! ## Starting a session -/

inductive Connect
  | timeout
  | ready
  deriving DecidableEq

/-- `wait_for_completion_timeout` on `connect_ready`; a nonzero reply lets it expire. -/
def awaitConnect (x : SessionId) : Thread Connect :=
  Prog.await (fun s r => decide (s.connectReady x ≠ 0) || decide (r.ret ≠ 0)) fun s _ =>
    if s.connectReady x ≠ 0 then
      (.ready, { s with
        connectReady := update s.connectReady x (Completion.take (s.connectReady x)) })
    else (.timeout, s)

/-- The end of `tcpcc_bridge_connect`, with the answer of `tcpcc_host_socket_error`. -/
def connectResult (x : SessionId) (s : State) (r : Reply) : ℤ :=
  if s.status x ≠ 0 then s.status x
  else if s.connectEvents x &&& (eventWritable ||| eventError) = 0 then - EIO
  else if r.ret ≠ 0 then r.ret
  else if s.connectEvents x &&& eventWritable = 0 then - EIO
  else 0

def connect (x : SessionId) : Thread ℤ := do
  let ret ← Prog.await (fun _ r => r.status) fun s r =>
    (r.ret, if r.ret = 0 then { s with
      registered := update s.registered x true
      host := update s.host x { s.host x with adds := (s.host x).adds + 1 } } else s)
  if ret ≠ 0 then pure ret
  else
    let ret ← Prog.await (fun _ r => r.status) fun s r => (r.ret, s)
    if ret ≠ 0 ∧ ret ≠ -EINPROGRESS then pure ret
    else
      match ← awaitConnect x with
      | .timeout => pure (-ETIMEDOUT)
      | .ready => Prog.await (fun _ r => r.status) fun s r => (connectResult x s r, s)

def startRunning (x : SessionId) (s : State) : State :=
  queueSession x { s with
    connecting := update s.connecting x false
    readable := update s.readable x fun _ => true
    writable := update s.writable x fun _ => true
    running := update s.running x true }

def failStart (x : SessionId) (ret : ℤ) : Thread Outcome := do
  let (_, busy) ← Prog.await (fun _ r => r.status) fun s r =>
    disableEvents x (restorePublicCallbacks x s) r
  awaitEvents x busy
  let _ ← Prog.await (fun _ r => r.status) (closeHost x)
  Prog.block fun s _ => (.value ret, releaseFailedStart x s)

/-- `tcpcc_bridge_start` from the host socket on. -/
def openSession (sk : SockId) (x : SessionId) : Thread Outcome := do
  let fd ← Prog.block fun s r => (r.ret, { s with
    hostFd := update s.hostFd x r.ret
    host := if r.ret < 0 then s.host
      else update s.host x { s.host x with opens := (s.host x).opens + 1 } })
  if fd < 0 then failStart x fd
  else
    let ret ← Prog.await (fun _ r => r.status) fun s r => (r.ret, s)
    if ret ≠ 0 then failStart x ret
    else
      let ret ← connect x
      if ret ≠ 0 then failStart x ret
      else
        let ret ← Prog.block fun s _ => installPublicCallbacks x sk s
        if ret ≠ 0 then failStart x ret
        else
          let ret ← Prog.await (fun _ r => r.status) fun s r => (r.ret, s)
          if ret ≠ 0 then failStart x ret
          else Prog.block fun s _ => (.started x (s.handle x), startRunning x s)

def start (sk : SockId) : Thread Outcome := do
  let ret ← startDispatcher
  if ret ≠ 0 then pure (.value ret)
  else
    match ← allocateSlot with
    | .error ret => pure (.value ret)
    | .ok id =>
      match ← Prog.await (fun _ r => r.status) (allocateSession sk id) with
      | none => pure (.value (-ENOMEM))
      | some x => openSession sk x

/-! ## Joining a session -/

def reapResult (x : SessionId) (cleanup : ℤ) (s : State) : Result where
  token := s.token x
  publicToBackendBytes := (s.flow x .publicToBackend).bytes
  backendToPublicBytes := (s.flow x .backendToPublic).bytes
  bufferLimit := Bridge.bufferLimit
  totalBufferLimit := Bridge.totalBufferLimit
  terminalEvents := s.terminalEvents x
  hostSendEagain := s.hostSendEagain x
  hostPartialWrites := s.hostPartialWrites x
  hostRecvEagain := s.hostRecvEagain x
  sessionLimit := Bridge.sessionLimit
  status := if s.status x ≠ 0 then s.status x else cleanup

/-- `tcpcc_bridge_reap`; `ret` says what the caller returns, given the status. -/
def reap (x : SessionId) (ret : ℤ → ℤ) : Thread Outcome := do
  let (cleanup, busy) ← Prog.await (fun _ r => r.status) (disableEvents x)
  awaitEvents x busy
  let closed ← Prog.await (fun _ r => r.status) fun s r =>
    closeHost x (unqueueSession x (restorePublicCallbacks x s)) r
  let cleanup := if cleanup = 0 then closed else cleanup
  Prog.block fun s _ =>
    ((), match s.publicSock x with | none => s | some sk => sockShutdown sk s)
  Prog.block fun s _ =>
    let s := match s.publicSock x with | none => s | some sk => sockRelease sk s
    let result := reapResult x cleanup s
    (.reaped x (ret result.status) result cleanup, { retire x s with
      reaping := none
      reaps := update s.reaps x (s.reaps x + 1) })

def takeFinished (x : SessionId) (s : State) : State :=
  { s with
    finished := update s.finished x (Completion.take (s.finished x))
    reaping := some x
    cancelWait := none }

/-- `wait_for_completion_timeout` on `finished`; a nonzero reply lets it expire. -/
def awaitFinished (x : SessionId) : Thread Bool :=
  Prog.await (fun s r => decide (s.finished x ≠ 0) || decide (r.ret ≠ 0)) fun s _ =>
    if s.finished x ≠ 0 then (true, takeFinished x s) else (false, s)

def joinCommon (h : ℤ) (returnSessionStatus : Bool) : Thread Outcome := do
  match ← Prog.block fun s _ => (findHandle h s, s) with
  | none => pure (.value (-ENOENT))
  | some x =>
    if ← awaitFinished x then reap x fun status => if returnSessionStatus then status else 0
    else pure (.value (-ETIMEDOUT))

def join (h : ℤ) : Thread Outcome := joinCommon h true

def joinResult (h : ℤ) : Thread Outcome := joinCommon h false

/-- `find_handle` and `try_wait_for_completion`. -/
def tryFinished (h : ℤ) (s : State) : (ℤ ⊕ SessionId) × State :=
  match findHandle h s with
  | none => (.inl (-ENOENT), s)
  | some x =>
    if s.finished x = 0 then (.inl (-EAGAIN), s)
    else (.inr x, takeFinished x s)

def tryJoinResult (h : ℤ) : Thread Outcome := do
  match ← Prog.block fun s _ => tryFinished h s with
  | .inl ret => pure (.value ret)
  | .inr x => reap x fun _ => 0

/-! ## Cancelling -/

def cancelSession (h : ℤ) : Thread Outcome := do
  match ← Prog.block fun s _ =>
      match findHandle h s with
      | none => (none, s)
      | some x => let stopped := sessionStop x (-ECANCELED) s; (some (x, stopped.1), stopped.2) with
  | none => pure (.value (-ENOENT))
  | some (x, first) =>
    abortSocket x first
    pure (.value 0)

def stopAll : List SessionId → Thread Unit
  | [] => pure ()
  | x :: rest => do
    let first ← Prog.block fun s _ => sessionStop x (-ECANCELED) s
    abortSocket x first
    stopAll rest

def reapAll : List SessionId → Thread Unit
  | [] => pure ()
  | x :: rest => do
    Prog.block fun s _ => ((), { s with cancelWait := some x })
    Prog.await (fun s _ => decide (s.finished x ≠ 0)) fun s _ => ((), takeFinished x s)
    let _ ← reap x fun _ => 0
    reapAll rest

/-- The end of `tcpcc_bridge_cancel`: the dispatcher thread is stopped and awaited. -/
def stopDispatcher : Thread Outcome := do
  if ← Prog.block fun s _ =>
      (s.dispatcherTask, if s.dispatcherTask then dispatcherWake { s with
        dispatcherStopping := true, dispatcherShouldStop := true } else s) then
    Prog.await (fun s _ => decide (s.dispatcherThread = .exited)) fun s _ =>
      (.value 0, { s with
        dispatcherTask := false, dispatcherRunning := false, runtimeNotify := false
        dispatcherThread := .absent })
  else pure (.value 0)

def cancel : Thread Outcome := do
  let sessions ← Prog.block fun s _ => (if s.initialized then some s.active else none, s)
  match sessions with
  | none => pure (.value 0)
  | some active =>
    stopAll active
    reapAll active
    stopDispatcher

/-! ## The completion notifier -/

def setCompletionNotifier (notify : ℕ) : Thread Outcome :=
  Prog.block fun s _ =>
    let s := { s with initialized := true }
    if s.activeSessions ≠ 0 ∨ s.completionNotify.isSome then (.value (-EBUSY), s)
    else (.value 0, { s with completionNotify := some notify })

def clearCompletionNotifier (notify : ℕ) : Thread Outcome :=
  Prog.block fun s _ =>
    (.value 0, if s.completionNotify = some notify ∧ s.activeSessions = 0 then
      { s with completionNotify := none } else s)

def bridgeActive : Thread Outcome :=
  Prog.block fun s _ => (.value (if s.dispatcherTask then 1 else 0), s)

inductive Op
  | start (sk : SockId)
  | join (h : ℤ)
  | joinResult (h : ℤ)
  | tryJoinResult (h : ℤ)
  | cancelSession (h : ℤ)
  | cancel
  | setCompletionNotifier (notify : ℕ)
  | clearCompletionNotifier (notify : ℕ)
  | active
  deriving DecidableEq

def Op.program : Op → Thread Outcome
  | .start sk => Bridge.start sk
  | .join h => Bridge.join h
  | .joinResult h => Bridge.joinResult h
  | .tryJoinResult h => Bridge.tryJoinResult h
  | .cancelSession h => Bridge.cancelSession h
  | .cancel => Bridge.cancel
  | .setCompletionNotifier n => Bridge.setCompletionNotifier n
  | .clearCompletionNotifier n => Bridge.clearCompletionNotifier n
  | .active => bridgeActive

end Tcpcc.Bridge

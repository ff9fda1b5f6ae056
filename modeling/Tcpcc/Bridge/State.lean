import Mathlib.Algebra.Order.Ring.Int
import Mathlib.Data.Int.Notation
import Mathlib.Data.Nat.Notation
import Tcpcc.Kernel

/-!
# State of the bridge manager

The memory of `bridge.c` is kept one map per struct field, indexed by the session
pointer: `s.stopping x` is `session->stopping`. A session pointer is the serial
number of its allocation, so a freed pointer is never handed out again and stays
recognizable. The two directions of a session share their fields through `Flow`.
The fields of `struct tcpcc_bridge_manager` and `struct tcpcc_bridge_session`, the
runtime event queue of `irq.c` and the hosted sockets are grouped by the party that
writes them. The fields of `History` are not in the source: they record what was
asked of sessions and what became of them.
-/

namespace Tcpcc.Bridge
open Function (update)

abbrev SessionId := ℕ
abbrev SlotId := ℕ
abbrev SockId := ℕ

def directionBudget : ℕ := 32
def dispatchBudget : ℕ := 64
def sessionLimit : ℕ := 1048575
def bufferLimit : ℕ := 16 * 1024
def totalBufferLimit : ℕ := 256 * 1024
def runtimeSlotBase : ℕ := 2
def handleSlotBits : ℕ := 20
def handleSlotMask : ℕ := 0x000fffff
def handleGenerationMask : ℕ := 0x000007ff

def eventRuntimeBit : ℕ := 63
def eventRuntimeGenerationMask : ℕ := 0x7fffffff
def eventReadable : ℕ := 1 <<< 0
def eventWritable : ℕ := 1 <<< 1
def eventHangup : ℕ := 1 <<< 2
def eventError : ℕ := 1 <<< 3

def runtimeQueueLimit : ℕ := 64

inductive Side
  | publicSide
  | hostSide
  deriving DecidableEq, Repr

inductive Dir
  | publicToBackend
  | backendToPublic
  deriving DecidableEq, Repr

def Dir.source : Dir → Side
  | .publicToBackend => .publicSide
  | .backendToPublic => .hostSide

def Dir.dest : Dir → Side
  | .publicToBackend => .hostSide
  | .backendToPublic => .publicSide

/-- The fields a session has once per direction. `received`, `accepted`, `eof` and
`shutdowns` are history: the bytes its source delivered, the bytes its destination
took, whether the source reported end of file, and how often the write side of the
destination was shut down. -/
structure Flow where
  offset : ℕ := 0
  length : ℕ := 0
  bytes : ℕ := 0
  done : Bool := false
  bufferWaiting : Bool := false
  buffer : Option (List UInt8) := none
  received : List UInt8 := []
  accepted : List UInt8 := []
  eof : Bool := false
  shutdowns : ℕ := 0
  deriving DecidableEq, Repr

/-- The bytes of `[offset, length)` of the direction buffer. -/
def Flow.unsent (f : Flow) : List UInt8 :=
  match f.buffer with
  | none => []
  | some data => (data.take f.length).drop f.offset

structure Slot where
  session : Option SessionId := none
  generation : ℕ := 0
  deriving DecidableEq, Repr

structure HostEvent where
  token : ℕ
  events : ℕ
  deriving DecidableEq, Repr

/-- A request to stop a session, and whether the session had finished before it. -/
structure StopRequest where
  session : SessionId
  status : ℤ
  late : Bool
  deriving DecidableEq, Repr

/-- The calls a session made on its host descriptor: `tcpcc_host_tcp_socket` with success,
`tcpcc_host_event_add_mask` with success, `tcpcc_host_event_del` and `tcpcc_host_close`. -/
structure HostUse where
  opens : ℕ := 0
  adds : ℕ := 0
  dels : ℕ := 0
  closes : ℕ := 0
  deriving DecidableEq, Repr

/-- What only the control-side operations write, all of them under
`tcpcc_bridge_control_lock`. The last six fields are history: the serial number of the
next session, the slot that left `free_slots` but has no session yet, the session whose
completion credit the operation has taken, the session whose end `tcpcc_bridge_cancel`
waits for, how often a session was reaped, and the use of its host descriptor. -/
structure Registry where
  initialized : Bool := false
  dispatcherStopping : Bool := false
  dispatcherShouldStop : Bool := false
  dispatcherTask : Bool := false
  runtimeNotify : Bool := false
  completionNotify : Option ℕ := none
  activeSessions : ℕ := 0
  slot : SlotId → Slot := fun _ => {}
  slotCount : ℕ := 0
  freeSlots : List SlotId := []
  active : List SessionId := []
  slotOf : SessionId → SlotId := fun _ => 0
  publicSock : SessionId → Option SockId := fun _ => none
  hostFd : SessionId → ℤ := fun _ => 0
  handle : SessionId → ℤ := fun _ => 0
  token : SessionId → ℕ := fun _ => 0
  generation : SessionId → ℕ := fun _ => 0
  allocated : SessionId → Bool := fun _ => false
  acceptEvents : SessionId → Bool := fun _ => false
  registered : SessionId → Bool := fun _ => false
  connecting : SessionId → Bool := fun _ => false
  publicCallbacksInstalled : SessionId → Bool := fun _ => false
  savedHooks : SessionId → Hooks := fun _ => {}
  nextSession : SessionId := 0
  slotInHand : Option SlotId := none
  reaping : Option SessionId := none
  cancelWait : Option SessionId := none
  reaps : SessionId → ℕ := fun _ => 0
  host : SessionId → HostUse := fun _ => {}

/-- What only the dispatcher writes once a session is allocated. The byte counters of
the buffer budget are integers, so that a counter below zero would show. `pumping` and
`dispatching` are history: the session the thread is at. -/
structure Traffic where
  bufferBytes : ℤ := 0
  bufferHighWater : ℤ := 0
  bufferWaiters : List SessionId := []
  bufferWaitQueued : SessionId → Bool := fun _ => false
  finishedNotified : SessionId → Bool := fun _ => false
  connectEvents : SessionId → ℕ := fun _ => 0
  terminalEvents : SessionId → ℕ := fun _ => 0
  hostSendEagain : SessionId → ℕ := fun _ => 0
  hostPartialWrites : SessionId → ℕ := fun _ => 0
  hostRecvEagain : SessionId → ℕ := fun _ => 0
  eventRefs : SessionId → ℕ := fun _ => 0
  flow : SessionId → Dir → Flow := fun _ _ => {}
  pumping : Option SessionId := none
  dispatching : Option SessionId := none

structure Shared where
  dispatcherStatus : ℤ := 0
  dispatcherRunning : Bool := false
  dispatcherPending : Bool := false
  dispatcherThread : Kthread := .absent
  ready : List SessionId := []
  readyQueued : SessionId → Bool := fun _ => false
  retired : List SessionId := []
  running : SessionId → Bool := fun _ => false
  stopping : SessionId → Bool := fun _ => false
  readable : SessionId → Side → Bool := fun _ _ => false
  writable : SessionId → Side → Bool := fun _ _ => false
  status : SessionId → ℤ := fun _ => 0
  finished : SessionId → Completion := fun _ => 0
  connectReady : SessionId → Completion := fun _ => 0
  eventIdle : SessionId → Completion := fun _ => 0
  sock : SockId → Sock := fun _ => {}
  runtimeQueue : List HostEvent := []
  runtimeReady : Completion := 0

/-- `signals` and `notices` count the completions of `finished` and the calls of the
notifier for a session; `armed` says whether there was a notifier when it finished. -/
structure History where
  freed : List SessionId := []
  stops : List StopRequest := []
  finishStatus : SessionId → ℤ := fun _ => 0
  finishClosed : SessionId → Bool := fun _ => false
  completions : ℕ := 0
  signals : SessionId → ℕ := fun _ => 0
  notices : SessionId → ℕ := fun _ => 0
  armed : SessionId → Bool := fun _ => false

structure State extends Registry, Traffic, Shared, History

namespace State

def initial : State := {}

def set₂ {β γ : Type} [DecidableEq β] (m : ℕ → β → γ) (x : ℕ) (b : β) (v : γ) : ℕ → β → γ :=
  update m x (update (m x) b v)

theorem set₂_apply {β γ : Type} [DecidableEq β] (m : ℕ → β → γ) (x : ℕ) (b : β) (v : γ)
    (y : ℕ) (c : β) : set₂ m x b v y c = if y = x ∧ c = b then v else m y c := by
  unfold set₂
  by_cases hy : y = x
  · subst hy
    by_cases hc : c = b
    · subst hc; simp
    · simp [hc]
  · simp [hy]

def setFlow (s : State) (x : SessionId) (d : Dir) (f : Flow) : State :=
  { s with flow := set₂ s.flow x d f }

def setSock (s : State) (sk : SockId) (v : Sock) : State :=
  { s with sock := update s.sock sk v }

/-! ## The ready queue -/

def dispatcherWake (s : State) : State := { s with dispatcherPending := true }

def queueSession (x : SessionId) (s : State) : State :=
  let add := s.allocated x && !s.readyQueued x
  { s with
    ready := if add then s.ready ++ [x] else s.ready
    readyQueued := if add then update s.readyQueued x true else s.readyQueued
    dispatcherPending := true }

def takeReady (s : State) : Option SessionId × State :=
  match s.ready with
  | [] => (none, s)
  | x :: rest =>
    (some x, { s with ready := rest, readyQueued := update s.readyQueued x false })

def unqueueSession (x : SessionId) (s : State) : State :=
  { s with
    ready := if s.readyQueued x then s.ready.erase x else s.ready
    readyQueued := update s.readyQueued x false }

/-! ## Direction buffers -/

inductive Acquire
  | held
  | exhausted
  | allocate
  deriving DecidableEq

/-- `tcpcc_bridge_acquire_buffer` up to its `kmalloc`. -/
def acquireBuffer (x : SessionId) (d : Dir) (s : State) : Acquire :=
  if (s.flow x d).buffer.isSome then .held
  else if s.bufferBytes + bufferLimit > totalBufferLimit then .exhausted
  else .allocate

/-- `tcpcc_bridge_acquire_buffer` after a successful `kmalloc`; the contents of the
fresh buffer are arbitrary. -/
def installBuffer (x : SessionId) (d : Dir) (contents : List UInt8) (s : State) : State :=
  { s with
    flow := set₂ s.flow x d { s.flow x d with buffer := some contents }
    bufferBytes := s.bufferBytes + bufferLimit
    bufferHighWater := max s.bufferHighWater (s.bufferBytes + bufferLimit) }

def waitForBuffer (x : SessionId) (d : Dir) (s : State) : State :=
  { s with
    flow := set₂ s.flow x d { s.flow x d with bufferWaiting := true }
    bufferWaiters := if s.bufferWaitQueued x then s.bufferWaiters else s.bufferWaiters ++ [x]
    bufferWaitQueued := update s.bufferWaitQueued x true }

/-- The session leaves `buffer_waiters` and neither direction waits any longer. -/
def stopWaiting (x : SessionId) (s : State) : State :=
  { s with
    flow := update s.flow x fun d => { s.flow x d with bufferWaiting := false }
    bufferWaiters := if s.bufferWaitQueued x then s.bufferWaiters.erase x else s.bufferWaiters
    bufferWaitQueued := update s.bufferWaitQueued x false }

def wakeBufferWaiter (s : State) (x : SessionId) : State := queueSession x (stopWaiting x s)

def wakeBufferWaiters (s : State) : State := s.bufferWaiters.foldl wakeBufferWaiter s

/-- `kfree` of a direction buffer that is held, before the waiters are woken. -/
def dropBuffer (x : SessionId) (d : Dir) (s : State) : State :=
  { s with
    flow := set₂ s.flow x d { s.flow x d with buffer := none }
    bufferBytes := s.bufferBytes - bufferLimit }

def releaseBuffer (x : SessionId) (d : Dir) (s : State) : State :=
  if (s.flow x d).buffer.isSome then wakeBufferWaiters (dropBuffer x d s) else s

def releaseSessionBuffers (x : SessionId) (s : State) : State :=
  releaseBuffer x .backendToPublic (releaseBuffer x .publicToBackend (stopWaiting x s))

/-! ## Readiness flags -/

def takeReadable (x : SessionId) (side : Side) (s : State) : Bool × State :=
  (s.readable x side, { s with readable := set₂ s.readable x side false })

def takeWritable (x : SessionId) (side : Side) (s : State) : Bool × State :=
  (s.writable x side, { s with writable := set₂ s.writable x side false })

def setReadable (x : SessionId) (side : Side) (s : State) : State :=
  { s with readable := set₂ s.readable x side true }

def setWritable (x : SessionId) (side : Side) (s : State) : State :=
  { s with writable := set₂ s.writable x side true }

def markPublicReady (x : SessionId) (readable writable : Bool) (s : State) : State :=
  if s.allocated x then
    queueSession x { s with
      readable := set₂ s.readable x .publicSide (readable || s.readable x .publicSide)
      writable := set₂ s.writable x .publicSide (writable || s.writable x .publicSide) }
  else s

/-! ## Public socket callbacks -/

inductive Wakeup
  | dataReady
  | writeSpace
  | stateChange
  | errorReport
  deriving DecidableEq, Repr

def Wakeup.hook : Wakeup → Hooks → Callback
  | .dataReady, h => h.dataReady
  | .writeSpace, h => h.writeSpace
  | .stateChange, h => h.stateChange
  | .errorReport, h => h.errorReport

/-- What the four `tcpcc_bridge_public_*` callbacks pass to `mark_public_ready`. -/
def Wakeup.flags : Wakeup → Bool × Bool
  | .dataReady => (true, false)
  | .writeSpace => (false, true)
  | .stateChange => (true, true)
  | .errorReport => (true, true)

def publicCallback (w : Wakeup) (sk : SockId) (s : State) : State :=
  match (s.sock sk).userData with
  | .session x =>
    if w.hook (s.sock sk).hooks = .bridge ∧ s.publicSock x = some sk then
      markPublicReady x w.flags.1 w.flags.2 s
    else s
  | _ => s

def bridgeHooks : Hooks := ⟨.bridge, .bridge, .bridge, .bridge⟩

def installPublicCallbacks (x : SessionId) (sk : SockId) (s : State) : ℤ × State :=
  if (s.sock sk).userData ≠ .null then (-EBUSY, s)
  else
    (0, { s with
      savedHooks := update s.savedHooks x (s.sock sk).hooks
      publicCallbacksInstalled := update s.publicCallbacksInstalled x true
      sock := update s.sock sk
        { s.sock sk with userData := .session x, hooks := bridgeHooks } })

def restorePublicCallbacks (x : SessionId) (s : State) : State :=
  match s.publicSock x with
  | none => s
  | some sk =>
    if s.publicCallbacksInstalled x then
      { s with
        publicCallbacksInstalled := update s.publicCallbacksInstalled x false
        sock := update s.sock sk
          (if (s.sock sk).userData = .session x then
            { s.sock sk with userData := .null, hooks := s.savedHooks x }
          else s.sock sk) }
    else s

/-! ## Calls on sockets -/

def sockShutdown (sk : SockId) (s : State) : State :=
  s.setSock sk { s.sock sk with shutdowns := (s.sock sk).shutdowns + 1 }

def sockRelease (sk : SockId) (s : State) : State :=
  s.setSock sk { s.sock sk with releases := (s.sock sk).releases + 1 }

/-! ## Stopping and finishing a session -/

def markStopped (x : SessionId) (status : ℤ) (s : State) : State :=
  { s with
    status := if status ≠ 0 ∧ s.status x = 0 then update s.status x status else s.status
    stopping := update s.stopping x true
    connectReady := update s.connectReady x (Completion.completeAll (s.connectReady x))
    stops := s.stops ++ [⟨x, status, s.finishedNotified x⟩] }

/-- `tcpcc_bridge_session_stop` up to `kernel_sock_shutdown`: it answers whether that
call follows. The host descriptor is shut down on the way, which the bridge observes
only through later results of its own calls. -/
def sessionStop (x : SessionId) (status : ℤ) (s : State) : Bool × State :=
  if s.allocated x then
    (!s.stopping x,
      if s.connecting x then markStopped x status s else queueSession x (markStopped x status s))
  else (false, s)

def isClosed (s : State) (x : SessionId) : Bool :=
  match s.publicSock x with
  | none => false
  | some sk => (s.sock sk).state = .close

def markFinished (x : SessionId) (s : State) : State :=
  { s with
    running := update s.running x false
    stopping := update s.stopping x true
    finishedNotified := update s.finishedNotified x true
    finishStatus := update s.finishStatus x (s.status x)
    finishClosed := update s.finishClosed x (s.isClosed x) }

def signalFinished (x : SessionId) (s : State) : State :=
  { s with
    finished := update s.finished x (Completion.complete (s.finished x))
    completions := if s.completionNotify.isSome then s.completions + 1 else s.completions
    signals := update s.signals x (s.signals x + 1)
    notices := if s.completionNotify.isSome then update s.notices x (s.notices x + 1)
      else s.notices
    armed := update s.armed x s.completionNotify.isSome }

def sessionFinish (x : SessionId) (s : State) : State :=
  if s.allocated x && !s.finishedNotified x then
    signalFinished x (releaseSessionBuffers x (markFinished x s))
  else s

end State
end Tcpcc.Bridge

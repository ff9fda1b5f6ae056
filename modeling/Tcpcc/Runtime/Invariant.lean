import Mathlib.Algebra.Order.Ring.Int
import Tcpcc.Bridge.Reachable
import Tcpcc.Lib.Ownership
import Tcpcc.Runtime.System

/-!
# The invariant of the runtime

As for the bridge, each group is a predicate of the fields it constrains. What a thread
knows at a place of its program is in the fields that only it writes, so that the groups
speak of places too: an accepted socket is in `publicSock` from `kernel_accept` until it is
released or handed to the bridge. `Core` holds at every call inside a block; `Inv` adds
what a block changes in several calls: the owners of the sockets, who refers to a listener,
and the backends of the listeners.
-/

namespace Tcpcc.Runtime
open Resumption FlaggedList
open Bridge (SockId SessionId)

/-! ## Who owns a socket -/

inductive Owner
  | slot (i : ℕ)
  | session (x : SessionId)
  | listener (e : ListenerId)
  | accept
  deriving DecidableEq, Repr

def startsOn (call : Option Call) (sk : SockId) : Prop :=
  ∃ who live, call = some ⟨who, .start sk, live⟩

/-- A socket moves when the call that moves it returns 0: until then a session that is being
started and a listener that is being added do not own theirs. -/
def State.owns (s : State) : Owner → SockId → Prop
  | .slot i, sk => s.table i = some sk
  | .session x, sk =>
    s.bridge.allocated x = true ∧ s.bridge.publicSock x = some sk ∧ ¬ startsOn s.call sk
  | .listener e, sk =>
    (e ∈ s.listeners ∨ e ∈ s.releasing) ∧ s.starting ≠ some e ∧ s.listenerSock e = sk
  | .accept, sk => s.publicSock = some sk

def State.unreleased (s : State) (sk : SockId) : Prop :=
  sk < s.nextSock ∧ (s.bridge.sock sk).releases = 0

/-! ## The groups -/

structure BridgeOK (bridge : Bridge.State) (dispatcher : Bridge.Thread Bridge.Segment)
    (call : Option Call) : Prop where
  inv : Bridge.Inv bridge
  thread : Safe Bridge.Inv Bridge.dispatcherContract Bridge.SegmentOK dispatcher bridge
  calm : call = none → Bridge.Calm bridge

/-- The operation that holds the lock of the bridge. While a start is under way, no session
that was there before has its socket. -/
structure CallOK (call : Option Call) (bridgeAllocated : SessionId → Bool)
    (bridgeSock : SessionId → Option SockId) (nextSock : SockId) (allocated : Bool)
    (thread : Kthread) (publicSock : Option SockId) (removing : Option ℤ) : Prop where
  start : ∀ who sk live, call = some ⟨who, .start sk, live⟩ → sk < nextSock ∧
    ∀ x, live x = true → bridgeAllocated x = true ∧ bridgeSock x ≠ some sk
  control : ∀ sk live, call = some ⟨.control, .start sk, live⟩ → allocated = false
  worker : ∀ op live, call = some ⟨.worker, op, live⟩ → thread = .running
  accept : ∀ sk live, call = some ⟨.worker, .start sk, live⟩ →
    publicSock = some sk ∧ removing = none

structure SocketsOK (sock : SockId → Sock) (nextSock : SockId)
    (bridgeAllocated : SessionId → Bool) (bridgeSock : SessionId → Option SockId) : Prop where
  once : ∀ sk, (sock sk).releases ≤ 1
  fresh : ∀ sk, nextSock ≤ sk → (sock sk).releases = 0
  housed : ∀ x sk, bridgeAllocated x = true → bridgeSock x = some sk → sk < nextSock

structure QueuesOK (acceptQueue : SockId → List Child) (place : SockId → Place)
    (nextSock : SockId) : Prop where
  stray : ∀ sk, ∀ child ∈ acceptQueue sk, child.userData.isSession = false
  placed : ∀ sk, ∀ child ∈ acceptQueue sk, child.place = place sk
  fresh : ∀ sk, nextSock ≤ sk → acceptQueue sk = []

structure ListenersOK (listeners releasing : List ListenerId) (starting : Option ListenerId)
    (nextListener : ListenerId) (listenerSock : ListenerId → SockId)
    (installed : ListenerId → Bool) (sock : SockId → Sock) (nextSock : SockId) : Prop where
  nodup : (listeners ++ releasing).Nodup
  known : ∀ e ∈ listeners ++ releasing, (e : ℕ) < nextListener ∧ listenerSock e < nextSock
  hooked : ∀ e ∈ listeners ++ releasing, installed e = true →
    (sock (listenerSock e)).userData = .listener e ∧
      (sock (listenerSock e)).hooks.dataReady = .service
  complete : ∀ e ∈ listeners, installed e = true ∨ starting = some e
  owned : ∀ e, installed e = true → e ∈ listeners ++ releasing
  moved : releasing ≠ [] → listeners = []

structure FreedOK (freed listeners releasing : List ListenerId) (nextListener : ListenerId) :
    Prop where
  known : ∀ e ∈ freed, (e : ℕ) < nextListener
  apart : ∀ e ∈ freed, e ∉ listeners ++ releasing

structure ReadyOK (readyList : List ListenerId) (readyQueued : ListenerId → Bool)
    (entry origin : Option ListenerId) (listeners releasing : List ListenerId)
    (installed : ListenerId → Bool) (allocated draining : Bool) : Prop where
  listed : Listed readyList readyQueued
  queued : ∀ e, readyQueued e = true → e ∈ listeners ∧ installed e = true
  popped : ∀ e, entry = some e ∨ origin = some e → e ∈ listeners ∧ installed e = true
  dormant : allocated = false → listeners = [] ∧ readyList = []
  cleared : draining = true → readyList = []
  leaving : releasing ≠ [] → draining = true

/-- No connection is forgotten: a listener with a connection waiting is queued or at hand,
and a worker that has stopped looking has been woken if the queue is not empty. -/
structure PendingOK (running : Bool) (listeners : List ListenerId)
    (starting entry : Option ListenerId) (listenerSock : ListenerId → SockId)
    (acceptQueue : SockId → List Child) (readyList : List ListenerId)
    (readyQueued : ListenerId → Bool) (looking : Bool) (workReady : Completion)
    (maxConnections activeConnections : ℕ) : Prop where
  pending : running = true → ∀ e ∈ listeners, acceptQueue (listenerSock e) ≠ [] →
    readyQueued e = true ∨ entry = some e ∨ starting = some e
  awake : running = true → looking = false → readyList ≠ [] →
    workReady ≠ 0 ∨ maxConnections ≠ 0 ∧ maxConnections ≤ activeConnections

def State.running (s : State) : Bool := s.allocated && !s.draining && !s.stopping

structure CountsOK (w : WorkerSide) (maxConnections : ℕ) : Prop where
  active : w.activeConnections = w.bridges.length
  accepted : w.acceptedConnections = w.completedConnections + w.activeConnections
  rejected : w.rejectedConnections = w.bridgeStartFailures
  terminal : w.terminalFailures ≤ w.completedConnections
  peak : w.activeConnections ≤ w.peakConnections
  limit : maxConnections ≠ 0 → w.peakConnections ≤ maxConnections
  admitted : w.admitted = true → maxConnections ≠ 0 → w.activeConnections < maxConnections
  sent : w.publicToBackendBytes = (w.joined.map Bridge.Result.publicToBackendBytes).sum
  received : w.backendToPublicBytes = (w.joined.map Bridge.Result.backendToPublicBytes).sum

structure LifeOK (allocated draining stopping : Bool) (state : ServiceState) (admitted : Bool)
    (activeConnections lateAdds : ℕ) (drained : Completion) (drainReturned : Bool) : Prop where
  running : allocated = true → (state = .running ↔ draining = false ∧ stopping = false)
  unstopped : allocated = true → state ≠ .stopped
  stops : allocated = true → stopping = true → state = .stopping
  stopDrains : stopping = true → draining = true
  late : lateAdds ≤ 1
  lateDraining : lateAdds ≠ 0 → draining = true
  lateAdmitted : admitted = true → lateAdds = 0
  drainedEmpty : drained ≠ 0 → draining = true ∧ activeConnections = 0 ∧ admitted = false
  drainedAll : drained = 0 ∨ drained = Completion.UINT_MAX
  returned : drainReturned = true → drained ≠ 0

structure WorkerOK (w : WorkerSide) (allocated taskShouldStop : Bool) : Prop where
  serves : w.thread = .running → allocated = true
  idle : w.thread ≠ .running → w.entry = none ∧ w.publicSock = none ∧ w.bridgeHandle = none ∧
    w.admitted = false ∧ w.removing = none ∧ w.bridges = []
  origin : w.publicSock = none → w.origin = none
  stopped : w.stopped ≠ 0 → w.thread ≠ .running
  shouldStop : taskShouldStop = true → w.thread ≠ .running

theorem WorkerOK.not_holding {w : WorkerSide} {allocated taskShouldStop : Bool}
    (h : WorkerOK w allocated taskShouldStop) (hidle : w.thread ≠ .running) (e : ListenerId) :
    ¬ (w.entry = some e ∨ w.origin = some e) := by
  obtain ⟨hentry, hsock, -⟩ := h.idle hidle
  rw [hentry, h.origin hsock]
  rintro (⟨⟨⟩⟩ | ⟨⟨⟩⟩)

def InFlight (call : Option Call) (bridgeHandle : Option ℤ) (handle : SessionId → ℤ)
    (x : SessionId) : Prop :=
  (∃ sk live, call = some ⟨.worker, .start sk, live⟩ ∧ live x = false) ∨
    bridgeHandle = some (handle x)

structure CoverOK (completionNotify : Option ℕ) (allocated : Bool)
    (bridgeAllocated : SessionId → Bool) (handle : SessionId → ℤ) (bridges : List ServiceBridge)
    (inFlight : SessionId → Prop) (removing : Option ℤ) : Prop where
  ours : ∀ n, completionNotify = some n → n = serviceNotifier ∧ allocated = true
  covered : completionNotify ≠ none → ∀ x, bridgeAllocated x = true →
    (∃ b ∈ bridges, b.handle = handle x) ∨ inFlight x
  removed : ∀ h, removing = some h → ∀ x, bridgeAllocated x = true → handle x ≠ h

/-- Every session with handle `h` has been told to stop or will be by the accept in
progress. -/
def Told (bridgeAllocated : SessionId → Bool) (handle : SessionId → ℤ)
    (bridgeStopping : SessionId → Bool) (inFlight : SessionId → Prop) (h : ℤ) : Prop :=
  ∀ x, bridgeAllocated x = true → handle x = h → bridgeStopping x = true ∨ inFlight x

structure CancelOK (allocated stopping : Bool) (told : List ℤ) (cancelRun : Bool)
    (bridges : List ServiceBridge) (isTold : ℤ → Prop) : Prop where
  each : allocated = true → ∀ h ∈ told, isTold h
  run : allocated = true → cancelRun = true → ∀ b ∈ bridges, isTold b.handle
  since : told ≠ [] ∨ cancelRun = true → stopping = true

structure StopOK (c : ControlSide) (started : List SessionId) (bridgeAllocated : SessionId → Bool)
    (nextSession : SessionId) (completionNotify : Option ℕ) (sock : SockId → Sock) : Prop where
  born : ∀ x ∈ started, (x : ℕ) < nextSession
  served : ∀ sk ∈ c.served, (sock sk).releases = 1 ∨
    ∃ e, (e ∈ c.listeners ∨ e ∈ c.releasing) ∧ c.starting ≠ some e ∧ c.listenerSock e = sk
  gone : c.stopReturned = true → ∀ x ∈ started, bridgeAllocated x = false
  closed : c.stopReturned = true → c.allocated = false ∧ completionNotify = none ∧
    ∀ sk ∈ c.served, (sock sk).releases = 1

structure RefsOK (sock : SockId → Sock) (acceptQueue : SockId → List Child)
    (installed : ListenerId → Bool) (listenerSock : ListenerId → SockId)
    (releasing : List ListenerId) : Prop where
  socks : ∀ sk e, (sock sk).userData = .listener e → installed e = true ∧ listenerSock e = sk
  children : ∀ sk, ∀ child ∈ acceptQueue sk, ∀ e, child.userData = .listener e →
    listenerSock e = sk ∧ (installed e = true ∨ e ∈ releasing)

structure RoutesOK (thread : Kthread) (listeners : List ListenerId) (installed : ListenerId → Bool)
    (route : ListenerId → Route) (routes dials : List Route) : Prop where
  listed : thread = .running → ∀ e ∈ listeners, installed e = true → route e ∈ routes
  dialed : ∀ d ∈ dials, d ∈ routes

namespace State

def route (s : State) (e : ListenerId) : Route := routeOf e (s.listenerSock e) s

def inFlight (s : State) : SessionId → Prop := InFlight s.call s.bridgeHandle s.bridge.handle

def isTold (s : State) : ℤ → Prop :=
  Told s.bridge.allocated s.bridge.handle s.bridge.stopping s.inFlight

end State

structure Core (s : State) : Prop where
  slots : ∀ i, maxSockets ≤ i → s.table i = none
  bridge : BridgeOK s.bridge s.dispatcher s.call
  call : CallOK s.call s.bridge.allocated s.bridge.publicSock s.nextSock s.allocated s.thread
    s.publicSock s.removing
  sockets : SocketsOK s.bridge.sock s.nextSock s.bridge.allocated s.bridge.publicSock
  queues : QueuesOK s.acceptQueue s.place s.nextSock
  listeners : ListenersOK s.listeners s.releasing s.starting s.nextListener s.listenerSock
    s.callbackInstalled s.bridge.sock s.nextSock
  count : s.listenerCount = s.listeners.length
  freed : FreedOK s.freed s.listeners s.releasing s.nextListener
  ready : ReadyOK s.readyList s.readyQueued s.entry s.origin s.listeners s.releasing
    s.callbackInstalled s.allocated s.draining
  pending : PendingOK s.running s.listeners s.starting s.entry s.listenerSock s.acceptQueue
    s.readyList s.readyQueued s.looking s.workReady s.maxConnections s.activeConnections
  counts : CountsOK s.toWorkerSide s.maxConnections
  batch : s.passAccepted ≤ s.acceptBatch
  life : LifeOK s.allocated s.draining s.stopping s.state s.admitted s.activeConnections
    s.lateAdds s.drained s.drainReturned
  worker : WorkerOK s.toWorkerSide s.allocated s.taskShouldStop
  cover : CoverOK s.bridge.completionNotify s.allocated s.bridge.allocated s.bridge.handle
    s.bridges s.inFlight s.removing
  cancel : CancelOK s.allocated s.stopping s.told s.cancelRun s.bridges s.isTold
  stop : StopOK s.toControlSide s.started s.bridge.allocated s.bridge.nextSession
    s.bridge.completionNotify s.bridge.sock

structure Inv (s : State) : Prop extends Core s where
  owners : Ownership.Linear s.owns s.unreleased
  refs : s.tainted = false → RefsOK s.bridge.sock s.acceptQueue s.callbackInstalled s.listenerSock
    s.releasing
  routing : RoutesOK s.thread s.listeners s.callbackInstalled s.route s.routes s.dials

theorem Core.no_notifier {s : State} (h : Core s) (hdown : s.allocated = false) :
    s.bridge.completionNotify = none :=
  Option.eq_none_iff_forall_ne_some.mpr fun n hn =>
    Bool.noConfusion ((h.cover.ours n hn).2.symm.trans hdown)

theorem Inv.initial : Inv {} where
  slots _ _ := rfl
  bridge := ⟨Bridge.Inv.initial, ⟨rfl, rfl⟩, fun _ => ⟨rfl, fun _ => rfl, rfl, rfl⟩⟩
  call := by constructor <;> simp
  owners := by
    refine ⟨fun {o o' k} ho _ => ?_, fun k => ?_⟩
    · cases o <;> simp [State.owns] at ho
    · simp only [State.unreleased, Nat.not_lt_zero, false_and, false_iff, not_exists]
      intro o ho
      cases o <;> simp [State.owns] at ho
  sockets := by constructor <;> simp
  queues := by constructor <;> simp
  listeners := by constructor <;> simp
  count := rfl
  freed := by constructor <;> simp
  ready := ⟨nil, by simp, by simp, by simp, by simp, by simp⟩
  pending := by constructor <;> simp
  counts := by constructor <;> simp
  batch := Nat.le_refl 0
  refs _ := by constructor <;> simp
  routing := by constructor <;> simp
  life := by constructor <;> simp
  worker := by constructor <;> simp
  cover := by constructor <;> simp
  cancel := by constructor <;> simp
  stop := by constructor <;> simp

end Tcpcc.Runtime

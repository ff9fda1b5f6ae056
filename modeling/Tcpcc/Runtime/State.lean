import Mathlib.Logic.Function.Iterate
import Tcpcc.Bridge.System

/-!
# State of the hosted runtime

The control table of `control.c` and the service manager of `service.c` on top of the
bridge. As in the bridge, a pointer is the serial number of its allocation and the fields
are grouped by the thread that writes them: the control thread, which runs one request at
a time and at the end the teardown of `arch_post_kernel_init`, and the service worker.
`tcpcc_service_lock` is held across a call that sleeps only while the control thread
cancels the bridges of the service, so `locked` stands for it; `call` is the operation
that holds `tcpcc_bridge_control_lock`, with the sessions that were allocated when it was
taken. The worker is the only thread besides the control thread that calls the bridge.
-/

namespace Tcpcc.Runtime
open Resumption
open Bridge (SockId SessionId)

abbrev ListenerId := ℕ

def maxSockets : ℕ := 16
def serviceTimeoutMaxMs : ℕ := 300000
def serviceHandle : ℤ := 1
def maxAcceptBatch : ℕ := 64
def maxListeners : ℕ := 64
def inaddrLoopback : ℕ := 0x7f000001

/-- `tcpcc_service_wake` with its argument, as the bridge stores it. -/
def serviceNotifier : ℕ := 0

structure ServiceConfig where
  backendIpv4 : ℕ := 0
  backendPort : ℕ := 0
  reserved : ℕ := 0
  maxConnections : ℕ := 0
  acceptBatch : ℕ := 0
  deriving DecidableEq, Repr

inductive ServiceState
  | stopped
  | running
  | draining
  | stopping
  | failed
  deriving DecidableEq, Repr

structure ServiceStats where
  acceptedConnections : ℕ
  completedConnections : ℕ
  rejectedConnections : ℕ
  publicToBackendBytes : ℕ
  backendToPublicBytes : ℕ
  activeConnections : ℕ
  peakConnections : ℕ
  maxConnections : ℕ
  acceptBatch : ℕ
  acceptEagain : ℕ
  bridgeStartFailures : ℕ
  terminalFailures : ℕ
  state : ServiceState
  lastError : ℤ
  deriving DecidableEq, Repr

structure ServiceBridge where
  node : ℕ
  handle : ℤ
  deriving DecidableEq, Repr

inductive IpVersion
  | v4
  | v6
  deriving DecidableEq, Repr

structure Endpoint where
  version : IpVersion
  address : ℕ
  port : ℕ
  deriving DecidableEq, Repr

/-- The local end of a hosted socket: its family, and the address and port it was bound to
by request. -/
structure Place where
  family : IpVersion := .v4
  bound : Option Endpoint := none
  deriving DecidableEq, Repr

/-- A connection on an accept queue. It was cloned from its listener, with the local end, the
user data and the callbacks that the listener had at that time. -/
structure Child where
  userData : UserData := .null
  hooks : Hooks := {}
  place : Place := {}
  deriving DecidableEq, Repr

structure Route where
  endpoint : Option Endpoint
  backendIpv4 : ℕ
  backendPort : ℕ
  deriving DecidableEq, Repr

def Place.route (p : Place) (config : ServiceConfig) : Route where
  endpoint := p.bound
  backendIpv4 := config.backendIpv4
  backendPort := config.backendPort

inductive Caller
  | worker
  | control
  deriving DecidableEq, Repr

structure Call where
  who : Caller
  op : Bridge.Op
  live : SessionId → Bool

/-- What only the control thread writes. `starting`, `releasing` and `told` are locals of
`tcpcc_service_start`, `tcpcc_service_release_listeners` and `tcpcc_service_cancel_bridges`;
the fields below them are history. `freed` lists the listener entries given back with `kfree`,
`routes` the backends of the listeners that were started, and `tainted` says that the start of
a worker failed while a connection waited that had been cloned from the hooked listener. -/
structure ControlSide where
  table : ℕ → Option SockId := fun _ => none
  allocated : Bool := false
  stopping : Bool := false
  task : Bool := false
  taskShouldStop : Bool := false
  locked : Bool := false
  maxConnections : ℕ := 0
  acceptBatch : ℕ := 0
  listeners : List ListenerId := []
  listenerCount : ℕ := 0
  listenerSock : ListenerId → SockId := fun _ => 0
  listenerConfig : ListenerId → ServiceConfig := fun _ => {}
  callbackInstalled : ListenerId → Bool := fun _ => false
  savedDataReady : ListenerId → Callback := fun _ => .stock 0
  starting : Option ListenerId := none
  releasing : List ListenerId := []
  told : List ℤ := []
  nextListener : ListenerId := 0
  freed : List ListenerId := []
  tainted : Bool := false
  routes : List Route := []
  served : List SockId := []
  cancelRun : Bool := false
  drainReturned : Bool := false
  stopReturned : Bool := false

/-- What only the worker writes while it runs. `entry`, `origin`, `publicSock` and `bridgeHandle`
are locals of `tcpcc_service_accept_ready` and `tcpcc_service_accept_one`: the listener that was
popped, until `kernel_accept` has answered; the listener of the accepted socket and that socket,
until the socket is released or a bridge has it; and the handle of a bridge that may have to be
cancelled. So `entry` and `origin` are the variable `entry` of the source, in its two roles.
`looking`, `admitted` and `removing` say
where the worker is, and the fields from `nextBridge` on are history: among them how many
connections each listener gave, and how many `tcpcc_service_accept_ready` took in its last
call. -/
structure WorkerSide where
  thread : Kthread := .absent
  looking : Bool := false
  entry : Option ListenerId := none
  admitted : Bool := false
  origin : Option ListenerId := none
  publicSock : Option SockId := none
  bridgeHandle : Option ℤ := none
  removing : Option ℤ := none
  bridges : List ServiceBridge := []
  drained : Completion := 0
  stopped : Completion := 0
  acceptedConnections : ℕ := 0
  completedConnections : ℕ := 0
  rejectedConnections : ℕ := 0
  publicToBackendBytes : ℕ := 0
  backendToPublicBytes : ℕ := 0
  activeConnections : ℕ := 0
  peakConnections : ℕ := 0
  acceptEagain : ℕ := 0
  bridgeStartFailures : ℕ := 0
  terminalFailures : ℕ := 0
  nextBridge : ℕ := 0
  joined : List Bridge.Result := []
  started : List SessionId := []
  lateAdds : ℕ := 0
  accepts : ListenerId → ℕ := fun _ => 0
  passAccepted : ℕ := 0

/-- What both threads or the outside world write. `nextSock` and `dials` are history: the
serial number of the next hosted socket, and the bridges that the service asked for. -/
structure Common where
  draining : Bool := false
  state : ServiceState := .stopped
  lastError : ℤ := 0
  workReady : Completion := 0
  readyList : List ListenerId := []
  readyQueued : ListenerId → Bool := fun _ => false
  acceptQueue : SockId → List Child := fun _ => []
  place : SockId → Place := fun _ => {}
  nextSock : SockId := 0
  dials : List Route := []
  call : Option Call := none
  bridge : Bridge.State := {}
  dispatcher : Bridge.Thread Bridge.Segment := .ret .absent

structure State extends ControlSide, WorkerSide, Common

abbrev Thread (α : Type) := Prog State Reply α

namespace State

def stats (s : State) : ServiceStats where
  acceptedConnections := s.acceptedConnections
  completedConnections := s.completedConnections
  rejectedConnections := s.rejectedConnections
  publicToBackendBytes := s.publicToBackendBytes
  backendToPublicBytes := s.backendToPublicBytes
  activeConnections := s.activeConnections
  peakConnections := s.peakConnections
  maxConnections := s.maxConnections
  acceptBatch := s.acceptBatch
  acceptEagain := s.acceptEagain
  bridgeStartFailures := s.bridgeStartFailures
  terminalFailures := s.terminalFailures
  state := s.state
  lastError := s.lastError

def putBridge (s : State) (b : Bridge.State) : State := { s with bridge := b }

/-! ## Sockets -/

def setSock (sk : SockId) (v : Sock) (s : State) : State := s.putBridge (s.bridge.setSock sk v)

/-- `kernel_sock_shutdown`; a listener loses the connections that were not accepted. -/
def sockShutdown (sk : SockId) (s : State) : State :=
  { s.putBridge (s.bridge.sockShutdown sk) with
    acceptQueue := Function.update s.acceptQueue sk [] }

def sockRelease (sk : SockId) (s : State) : State := s.putBridge (s.bridge.sockRelease sk)

def newSock (v : Sock) (p : Place) (s : State) : SockId × State :=
  (s.nextSock, { setSock s.nextSock v s with
    nextSock := s.nextSock + 1
    place := Function.update s.place s.nextSock p })

/-- `kernel_accept` answers `-EAGAIN` only on an empty accept queue. -/
def acceptReply (sk : SockId) (s : State) (r : Reply) : Bool :=
  decide (r.ret ≤ 0 ∧ (r.ret = 0 → s.acceptQueue sk ≠ []) ∧
    (r.ret = -EAGAIN → s.acceptQueue sk = []))

def acceptSock (sk : SockId) (s : State) : SockId × State :=
  let child := (s.acceptQueue sk).headD {}
  let s := { s with acceptQueue := Function.update s.acceptQueue sk (s.acceptQueue sk).tail }
  newSock { state := .established, userData := child.userData, hooks := child.hooks } child.place s

/-! ## Waking the worker -/

def serviceWake (s : State) : State :=
  if s.allocated then { s with workReady := Completion.complete s.workReady } else s

/-- The bridge after a block of its dispatcher: each session that finished in the block
called the completion notifier. -/
def notify (s : State) (b : Bridge.State) : State :=
  serviceWake^[b.completions - s.bridge.completions] (s.putBridge b)

/-! ## The ready queue of listeners -/

def queueListener (e : ListenerId) (s : State) : State :=
  let queued :=
    !s.readyQueued e && s.callbackInstalled e && s.allocated && !s.draining && !s.stopping
  { s with
    readyList := if queued then s.readyList ++ [e] else s.readyList
    readyQueued := if queued then Function.update s.readyQueued e true else s.readyQueued
    workReady := if queued then Completion.complete s.workReady else s.workReady }

def removeReadyListener (e : ListenerId) (s : State) : State :=
  { s with
    readyList := if s.readyQueued e then s.readyList.erase e else s.readyList
    readyQueued := Function.update s.readyQueued e false }

def clearReady (s : State) : State :=
  { s with
    readyList := []
    readyQueued := fun e => s.readyQueued e && !s.readyList.contains e }

def popReady (s : State) : Option ListenerId × State :=
  match s.readyList with
  | [] => (none, s)
  | e :: rest =>
    (some e, { s with
      readyList := rest
      readyQueued := Function.update s.readyQueued e false })

/-! ## Listener callbacks -/

/-- `tcpcc_service_listener_data_ready`, up to the saved callback. -/
def listenerDataReady (sk : SockId) (s : State) : State :=
  match (s.bridge.sock sk).userData with
  | .listener e => if s.listenerSock e = sk ∧ s.allocated then queueListener e s else s
  | _ => s

def installListenerCallback (e : ListenerId) (s : State) : ℤ × State :=
  let sk := s.listenerSock e
  let v := s.bridge.sock sk
  if v.userData ≠ .null then (-EBUSY, s)
  else
    (0, setSock sk
      { v with userData := .listener e, hooks := { v.hooks with dataReady := .service } }
      { s with
        savedDataReady := Function.update s.savedDataReady e v.hooks.dataReady
        callbackInstalled := Function.update s.callbackInstalled e true })

def restoreListenerCallback (e : ListenerId) (s : State) : State :=
  if s.callbackInstalled e then
    let sk := s.listenerSock e
    let v := s.bridge.sock sk
    setSock sk
      (if v.userData = .listener e then
        { v with userData := .null, hooks := { v.hooks with dataReady := s.savedDataReady e } }
      else v)
      { s with callbackInstalled := Function.update s.callbackInstalled e false }
  else s

/-- `tcpcc_service_restore_listener_callback` and `tcpcc_service_remove_ready_listener`. -/
def unhookListener (e : ListenerId) (s : State) : State :=
  removeReadyListener e (restoreListenerCallback e s)

def freeListener (e : ListenerId) (s : State) : State := { s with freed := s.freed ++ [e] }

def routeOf (e : ListenerId) (sk : SockId) (s : State) : Route :=
  (s.place sk).route (s.listenerConfig e)

/-- The accepted child may carry the user data and the callback of its listener. -/
def detachAcceptedCallback (sk : SockId) (e : ListenerId) (s : State) : State :=
  let v := s.bridge.sock sk
  setSock sk
    (if v.userData = .listener e then
      { v with
        userData := .null
        hooks := if v.hooks.dataReady = .service then
          { v.hooks with dataReady := s.savedDataReady e } else v.hooks }
    else v) s

end State

/-! ## Calling the bridge -/

/-- An operation of the bridge from `mutex_lock` to `mutex_unlock`. The caller goes on
with `k` in the block that gives the lock back. -/
def callBridge {α : Type} (who : Caller) (op : Bridge.Op)
    (k : Bridge.Outcome → State → Reply → α × State) : Thread α := do
  Prog.await (fun s _ => s.call.isNone) fun s _ =>
    ((), { s with call := some ⟨who, op, s.bridge.allocated⟩ })
  let a ← op.program.lift (fun s => s.bridge) State.putBridge
  Prog.block fun s r => k a { s with call := none } r

end Tcpcc.Runtime

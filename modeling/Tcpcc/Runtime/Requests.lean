import Tcpcc.Runtime.Worker

/-!
# Control requests

The calls of `service.c` that the control thread makes, the requests of `control.c` that
create, place, move and release sockets, and the teardown of `arch_post_kernel_init`, which
runs after the control thread has ended. The remaining requests work on a socket in place or
on no socket at all; they are `other`, and the outside world answers them.
-/

namespace Tcpcc.Runtime
open Resumption State
open Bridge (SockId SessionId Outcome)

/-! ## Timeouts -/

inductive Timeout
  | jiffies (n : ℕ)
  | max
  deriving DecidableEq, Repr

def Timeout.isZero : Timeout → Bool
  | .jiffies n => n == 0
  | .max => false

/-- `msecs_to_jiffies` at 100 jiffies a second. -/
def msecsToJiffies (m : ℕ) : Timeout := .jiffies ((m + 9) / 10)

/-- `wait_for_completion_timeout`; a nonzero reply lets a finite wait expire. -/
def expires (timeout : Timeout) (r : Reply) : Bool := decide (timeout ≠ .max ∧ r.ret ≠ 0)

def awaitDrained (timeout : Timeout) : Thread Bool :=
  Prog.await (fun s r => decide (s.drained ≠ 0) || expires timeout r) fun s _ =>
    (decide (s.drained ≠ 0), { s with drained := Completion.take s.drained })

def awaitStopped (timeout : Timeout) : Thread Bool :=
  Prog.await (fun s r => decide (s.stopped ≠ 0) || expires timeout r) fun s _ =>
    (decide (s.stopped ≠ 0), { s with stopped := Completion.take s.stopped })

/-! ## Starting the service -/

def resetStart (config : ServiceConfig) (s : State) : State :=
  { s with
    toWorkerSide := { thread := s.thread }
    listeners := []
    readyList := []
    workReady := 0
    maxConnections := config.maxConnections
    acceptBatch := config.acceptBatch
    state := .running
    lastError := 0
    task := false
    listenerCount := 0
    draining := false
    stopping := false
    allocated := true
    told := []
    served := []
    cancelRun := false
    drainReturned := false
    stopReturned := false }

def policyMatches (config : ServiceConfig) (s : State) : Bool :=
  s.maxConnections == config.maxConnections && s.acceptBatch == config.acceptBatch

def configInvalid (config : ServiceConfig) : Bool :=
  config.backendIpv4 != inaddrLoopback || config.backendPort == 0 || config.reserved != 0 ||
    decide (config.maxConnections > Bridge.sessionLimit) || config.acceptBatch == 0 ||
    decide (config.acceptBatch > maxAcceptBatch)

def linkListener (sk : SockId) (config : ServiceConfig) (s : State) : ListenerId × State :=
  let e := s.nextListener
  (e, { s with
    nextListener := e + 1
    listenerSock := Function.update s.listenerSock e sk
    listenerConfig := Function.update s.listenerConfig e config
    callbackInstalled := Function.update s.callbackInstalled e false
    readyQueued := Function.update s.readyQueued e false
    listeners := s.listeners ++ [e]
    listenerCount := s.listenerCount + 1
    starting := some e })

/-- Nothing can fail any more: connections to the listener go to its backend. -/
def openRoute (e : ListenerId) (s : State) : State :=
  { s with routes := s.routes ++ [routeOf e (s.listenerSock e) s] }

/-- The start is complete: the listener is queued once, whatever its accept queue holds. -/
def startDone (e : ListenerId) (done : State → State) (s : State) : State :=
  done { queueListener e s with starting := none }

inductive Link
  | answer (ret : ℤ)
  | first (e : ListenerId)
  | busy (e : ListenerId) (ret : ℤ)
  deriving DecidableEq

/-- `tcpcc_service_start` from its `kzalloc` to the next call that may sleep. -/
def beginStart (sk : SockId) (config : ServiceConfig) (done : State → State) (s : State)
    (r : Reply) : Link × State :=
  if r.ret < 0 then (.answer (-ENOMEM), s)
  else if !s.allocated then
    let (e, s) := linkListener sk config (resetStart config s)
    (.first e, s)
  else if s.draining || s.stopping then (.answer (-EBUSY), s)
  else if !policyMatches config s then (.answer (-EINVAL), s)
  else if s.listenerCount ≥ maxListeners then (.answer (-ENOSPC), s)
  else
    let (e, s) := linkListener sk config s
    let (ret, s) := installListenerCallback e s
    if ret ≠ 0 then (.busy e ret, unhookListener e s)
    else (.answer 0, startDone e done (openRoute e s))

/-- `tcpcc_service_unlink_listener` from its `mutex_lock` on. -/
def unlinkListener (e : ListenerId) (s : State) : State :=
  { s with
    starting := none
    listeners := s.listeners.erase e
    listenerCount := if s.listeners.contains e then s.listenerCount - 1 else s.listenerCount }

def abandonStart (e : ListenerId) (notifierInstalled : Bool) (ret : ℤ) : Thread ℤ := do
  Prog.await unlocked fun s _ => ((), unlinkListener e s)
  if notifierInstalled then
    callBridge .control (.clearCompletionNotifier serviceNotifier) fun _ s _ => ((), s)
  Prog.await unlocked fun s _ =>
    (ret, freeListener e (clearReady { s with allocated := false, listenerCount := 0 }))

/-- `tcpcc_service_install_listener_callback`, and the first part of the unwinding if it
fails. -/
def hookListener (e : ListenerId) (s : State) : ℤ × State :=
  let installed := installListenerCallback e s
  (installed.1, if installed.1 ≠ 0 then unhookListener e installed.2 else installed.2)

/-- A connection waits that was cloned from the listener while it was hooked. -/
def clonesWait (e : ListenerId) (s : State) : Bool :=
  (s.acceptQueue (s.listenerSock e)).any fun child => child.userData == .listener e

/-- `kthread_run`, and the first part of the unwinding if it fails. -/
def createWorker (e : ListenerId) (s : State) (r : Reply) : ℤ × State :=
  if r.ret < 0 then
    (r.ret, unhookListener e { s with tainted := s.tainted || clonesWait e s })
  else (0, openRoute e { s with thread := .running, taskShouldStop := false })

def startFirst (e : ListenerId) (done : State → State) : Thread ℤ := do
  match ← callBridge .control (.setCompletionNotifier serviceNotifier) fun a s _ =>
      if a.ret ≠ 0 then (Except.error a.ret, unhookListener e s)
      else let hooked := hookListener e s; (.ok hooked.1, hooked.2) with
  | .error ret => abandonStart e false ret
  | .ok ret =>
    if ret ≠ 0 then abandonStart e true ret
    else
      let ret ← Prog.await (fun _ r => r.status) (createWorker e)
      if ret ≠ 0 then abandonStart e true ret
      else Prog.await unlocked fun s _ => (0, startDone e done { s with task := true })

/-- `tcpcc_service_start`; `done` is what the caller does in the block in which the call
returns 0. -/
def serviceStart (sk : SockId) (config : ServiceConfig) (done : State → State) : Thread ℤ := do
  if ← Prog.block fun s _ =>
      (configInvalid config || decide ((s.bridge.sock sk).state ≠ .listen), s) then pure (-EINVAL)
  else
    match ← Prog.await (fun s r => unlocked s r && r.status) (beginStart sk config done) with
    | .answer ret => pure ret
    | .first e => startFirst e done
    | .busy e ret => Prog.await unlocked fun s _ => (ret, freeListener e (unlinkListener e s))

/-! ## Draining and stopping the service -/

/-- `tcpcc_service_get_stats` under the lock. -/
def snapshotStats (s : State) : ℤ × Option ServiceStats :=
  if s.allocated then (0, some s.stats) else (-ENOENT, none)

def serviceGetStats (handle : ℤ) : Thread (ℤ × Option ServiceStats) :=
  if handle ≠ serviceHandle then pure (-EINVAL, none)
  else Prog.await unlocked fun s _ => (snapshotStats s, s)

def markDraining (s : State) : State :=
  clearReady { s with
    draining := true
    state := if s.state = .running then .draining else s.state }

def serviceDrain (handle : ℤ) (timeout : Timeout) : Thread (ℤ × Option ServiceStats) := do
  if handle ≠ serviceHandle ∨ timeout.isZero = true then pure (-EINVAL, none)
  else if ← Prog.await unlocked fun s _ =>
      (s.allocated, if s.allocated then markDraining s else s) then
    shutdownListeners
    Prog.block fun s _ => ((), { s with workReady := Completion.complete s.workReady })
    if ← awaitDrained timeout then
      Prog.await unlocked fun s _ => (snapshotStats s, { s with drainReturned := s.allocated })
    else pure (-ETIMEDOUT, none)
  else pure (-ENOENT, none)

def markStopping (s : State) : State :=
  clearReady { s with draining := true, stopping := true, state := .stopping }

def cancelEach : List ServiceBridge → Thread Unit
  | [] => pure ()
  | b :: rest => do
    callBridge .control (.cancelSession b.handle) fun _ s _ =>
      ((), { s with told := s.told ++ [b.handle] })
    cancelEach rest

def cancelBridges : Thread Unit := do
  let bridges ← Prog.await unlocked fun s _ => (s.bridges, { s with locked := true, told := [] })
  cancelEach bridges
  Prog.block fun s _ => ((), { s with locked := false, cancelRun := true })

def releaseEach : List ListenerId → Thread Unit
  | [] => pure ()
  | e :: rest => do
    Prog.block fun s _ => ((), unhookListener e s)
    Prog.block fun s _ => ((), sockShutdown (s.listenerSock e) s)
    Prog.block fun s _ =>
      ((), freeListener e (sockRelease (s.listenerSock e) { s with
        releasing := s.releasing.erase e }))
    releaseEach rest

def releaseListeners : Thread Unit := do
  Prog.block fun s _ => ((), clearReady s)
  let release ← Prog.await unlocked fun s _ =>
    (s.listeners, { s with releasing := s.listeners, listeners := [], listenerCount := 0 })
  releaseEach release

def stopWorker (task : Bool) : Thread Unit :=
  if task then do
    Prog.block fun s _ => ((), { s with taskShouldStop := true })
    Prog.await (fun s _ => decide (s.thread = .exited)) fun s _ => ((), s)
  else pure ()

def markStopped (s : State) : State :=
  { s with task := false, state := .stopped, allocated := false, stopReturned := true }

def serviceStop (handle : ℤ) (timeout : Timeout) : Thread (ℤ × Option ServiceStats) := do
  if handle ≠ serviceHandle ∨ timeout.isZero = true then pure (-EINVAL, none)
  else
    match ← Prog.await unlocked fun s _ =>
        if s.allocated then (some s.task, markStopping s) else (none, s) with
    | none => pure (-ENOENT, none)
    | some task => do
      shutdownListeners
      cancelBridges
      Prog.block fun s _ => ((), { s with workReady := Completion.complete s.workReady })
      if ← awaitStopped timeout then
        stopWorker task
        callBridge .control (.clearCompletionNotifier serviceNotifier) fun _ s _ => ((), s)
        releaseListeners
        Prog.await unlocked fun s _ =>
          let s := markStopped s
          ((0, some s.stats), s)
      else pure (-ETIMEDOUT, none)

/-! ## The control table -/

def lookup (handle : ℤ) (s : State) : Option SockId :=
  if handle < 1 ∨ handle > maxSockets then none else s.table (handle.toNat - 1)

def freeSlot (s : State) : Option ℕ := (List.range maxSockets).find? fun i => (s.table i).isNone

/-- `tcpcc_control_install_socket`; a socket for which there is no slot is released. -/
def installSocket (sk : SockId) (s : State) : ℤ × State :=
  match freeSlot s with
  | some i => (i + 1, { s with table := Function.update s.table i (some sk) })
  | none => (-EMFILE, sockRelease sk s)

def clearHandle (handle : ℤ) (s : State) : State :=
  { s with table := Function.update s.table (handle.toNat - 1) none }

def releaseHandle (handle : ℤ) (sk : SockId) : Thread Unit := do
  Prog.block fun s _ => ((), sockShutdown sk s)
  Prog.block fun s _ => ((), sockRelease sk (clearHandle handle s))

def releaseSlots : List ℕ → Thread Unit
  | [] => pure ()
  | i :: rest => do
    match ← Prog.block fun s _ => (s.table i, s) with
    | none => pure ()
    | some sk => releaseHandle (i + 1) sk
    releaseSlots rest

/-! ## Requests -/

inductive RequestOp
  | socket
  | socketIp
  | bind
  | bindIp
  | listen
  | accept
  | acceptNonblock
  | close
  | bridgeStart
  | bridgeJoin
  | bridgeJoinResult
  | bridgeCancel
  | serviceStart
  | serviceDrain
  | serviceStats
  | serviceStop
  | shutdown
  | finish
  | other
  | unknown
  deriving DecidableEq, Repr

def controlMagic : ℕ := 0x32434354
def controlVersion : ℕ := 1
def serviceConfigSize : ℕ := 16
def ipEndpointSize : ℕ := 24
def somaxconn : ℕ := 4096

/-- `struct tcpcc_control_ip_endpoint`, with the 16 bytes of the address and the reserved bytes
behind its version as numbers. -/
structure IpEndpoint where
  version : ℕ := 0
  addressReserved : ℕ := 0
  bytes : ℕ := 0
  port : ℕ := 0
  reserved : ℕ := 0
  deriving DecidableEq, Repr

/-- `struct tcpcc_control_request`, with its data read as a service configuration and as an
endpoint. -/
structure Request where
  op : RequestOp
  magic : ℕ := controlMagic
  version : ℕ := controlVersion
  handle : ℤ := 0
  arg0 : ℕ := 0
  arg1 : ℕ := 0
  length : ℕ := 0
  config : ServiceConfig := {}
  endpoint : IpEndpoint := {}
  deriving DecidableEq, Repr

structure Answer where
  status : ℤ
  handle : ℤ := 0
  stats : Option ServiceStats := none
  result : Option Bridge.Result := none
  deriving DecidableEq

def Answer.ofHandle (q : Request) (handle : ℤ) : Answer :=
  if handle < 0 then { status := handle, handle := q.handle } else { status := 0, handle := handle }

def Answer.ofStatus (q : Request) (status : ℤ) : Answer := { status := status, handle := q.handle }

def socketFamily (q : Request) (family : IpVersion) : Thread Answer :=
  Prog.await (fun _ r => r.status) fun s r =>
    if r.ret ≠ 0 then (.ofStatus q r.ret, s)
    else
      let (sk, s) := newSock {} { family := family } s
      let (handle, s) := installSocket sk s
      (.ofHandle q handle, s)

def controlSocketIp (q : Request) : Thread Answer :=
  if q.handle ≠ 0 ∨ q.arg1 ≠ 0 ∨ q.length ≠ 0 then pure (.ofStatus q (-EINVAL))
  else if q.arg0 = 4 then socketFamily q .v4
  else if q.arg0 = 6 then socketFamily q .v6
  else pure (.ofStatus q (-EAFNOSUPPORT))

/-- `kernel_bind` succeeds only on a socket of the family that is not bound yet, and that has
no connections. -/
def bindReply (sk : SockId) (version : IpVersion) (s : State) (r : Reply) : Bool :=
  decide (r.ret ≤ 0 ∧ (r.ret = 0 → (s.place sk).family = version ∧ (s.place sk).bound = none ∧
    s.acceptQueue sk = []))

def bindSock (q : Request) (sk : SockId) (version : IpVersion) (endpoint : Reply → Endpoint) :
    Thread Answer :=
  Prog.await (bindReply sk version) fun s r =>
    (.ofStatus q r.ret, if r.ret = 0 then
      { s with place := Function.update s.place sk { s.place sk with bound := some (endpoint r) } }
      else s)

def Reply.port (r : Reply) : ℕ := r.data.foldl (fun n b => 256 * n + b.toNat) 0 % 65536

def controlBind (q : Request) : Thread Answer := do
  match ← Prog.block fun s _ => (lookup q.handle s, s) with
  | none => pure (.ofStatus q (-EBADF))
  | some sk =>
    if q.arg1 > 0xffff then pure (.ofStatus q (-EINVAL))
    else bindSock q sk .v4 fun r => ⟨.v4, q.arg0, if q.arg1 = 0 then Reply.port r else q.arg1⟩

def bindIpCheck (q : Request) (s : State) : Except ℤ (SockId × Endpoint) :=
  match lookup q.handle s with
  | none => .error (-EBADF)
  | some sk =>
    if q.arg0 ≠ 0 ∨ q.arg1 ≠ 0 ∨ q.length ≠ ipEndpointSize then .error (-EINVAL)
    else if q.endpoint.port = 0 ∨ q.endpoint.reserved ≠ 0 ∨ q.endpoint.addressReserved ≠ 0 then
      .error (-EINVAL)
    else if q.endpoint.version = 4 then
      if (s.place sk).family ≠ .v4 ∨ q.endpoint.bytes % 2 ^ 96 ≠ 0 then .error (-EINVAL)
      else .ok (sk, ⟨.v4, q.endpoint.bytes / 2 ^ 96, q.endpoint.port⟩)
    else if q.endpoint.version = 6 then
      if (s.place sk).family ≠ .v6 then .error (-EINVAL)
      else .ok (sk, ⟨.v6, q.endpoint.bytes, q.endpoint.port⟩)
    else .error (-EAFNOSUPPORT)

def controlBindIp (q : Request) : Thread Answer := do
  match ← Prog.block fun s _ => (bindIpCheck q s, s) with
  | .error ret => pure (.ofStatus q ret)
  | .ok (sk, endpoint) => bindSock q sk endpoint.version fun _ => endpoint

def controlListen (q : Request) : Thread Answer := do
  match ← Prog.block fun s _ => (lookup q.handle s, s) with
  | none => pure (.ofStatus q (-EBADF))
  | some sk =>
    if q.arg0 = 0 ∨ q.arg0 > somaxconn then pure (.ofStatus q (-EINVAL))
    else
      Prog.await (fun _ r => r.status) fun s r =>
        (.ofStatus q r.ret,
          if r.ret = 0 then setSock sk { s.bridge.sock sk with state := .listen } s else s)

def acceptFlags (q : Request) : Thread Answer := do
  match ← Prog.block fun s _ => (lookup q.handle s, s) with
  | none => pure (.ofStatus q (-EBADF))
  | some listener =>
    Prog.await (acceptReply listener) fun s r =>
      if r.ret ≠ 0 then (.ofStatus q r.ret, s)
      else
        let (sk, s) := acceptSock listener s
        let (handle, s) := installSocket sk s
        (.ofHandle q handle, s)

def controlClose (q : Request) : Thread Answer := do
  match ← Prog.block fun s _ => (lookup q.handle s, s) with
  | none => pure (.ofStatus q (-EBADF))
  | some sk => do
    releaseHandle q.handle sk
    pure (.ofStatus q 0)

def bridgeStartCheck (q : Request) (s : State) : Except ℤ SockId :=
  match lookup q.handle s with
  | none => .error (-EBADF)
  | some sk =>
    if s.allocated then .error (-EBUSY)
    else if q.length ≠ 0 ∨ q.arg0 ≠ inaddrLoopback ∨ q.arg1 = 0 ∨ q.arg1 > 0xffff then
      .error (-EINVAL)
    else if (s.bridge.sock sk).state ≠ .established ∧ (s.bridge.sock sk).state ≠ .closeWait then
      .error (-ENOTCONN)
    else .ok sk

def controlBridgeStart (q : Request) : Thread Answer := do
  match ← Prog.block fun s _ => (bridgeStartCheck q s, s) with
  | .error ret => pure (.ofStatus q ret)
  | .ok sk =>
    callBridge .control (.start sk) fun a s _ =>
      match a with
      | .started _ handle => ({ status := 0, handle := handle }, clearHandle q.handle s)
      | a => (.ofStatus q a.ret, s)

def Answer.ofJoin (q : Request) : Outcome → Answer
  | .reaped _ 0 result _ => { status := 0, handle := q.handle, result := some result }
  | a => .ofStatus q a.ret

def controlJoin (q : Request) (op : Bridge.Op) : Thread Answer :=
  if q.length ≠ 0 ∨ q.arg1 ≠ 0 ∨ q.arg0 = 0 ∨ q.arg0 > 30000 then pure (.ofStatus q (-EINVAL))
  else callBridge .control op fun a s _ => (.ofJoin q a, s)

def controlBridgeJoin (q : Request) : Thread Answer := controlJoin q (.join q.handle)

def controlBridgeJoinResult (q : Request) : Thread Answer := controlJoin q (.joinResult q.handle)

def controlBridgeCancel (q : Request) : Thread Answer :=
  if q.length ≠ 0 ∨ q.arg0 ≠ 0 ∨ q.arg1 ≠ 0 then pure (.ofStatus q (-EINVAL))
  else callBridge .control (.cancelSession q.handle) fun a s _ => (.ofStatus q a.ret, s)

def controlServiceStart (q : Request) : Thread Answer := do
  match ← Prog.block fun s _ => (lookup q.handle s, s) with
  | none => pure (.ofStatus q (-EBADF))
  | some sk =>
    if q.arg0 ≠ 0 ∨ q.arg1 ≠ 0 ∨ q.length ≠ serviceConfigSize then pure (.ofStatus q (-EINVAL))
    else
      let ret ← serviceStart sk q.config fun s =>
        clearHandle q.handle { s with served := s.served ++ [sk] }
      pure (if ret ≠ 0 then .ofStatus q ret else { status := 0, handle := serviceHandle })

def Answer.ofStats (q : Request) (a : ℤ × Option ServiceStats) : Answer :=
  if a.1 ≠ 0 then .ofStatus q a.1 else { status := 0, handle := q.handle, stats := a.2 }

def controlServiceStats (q : Request) : Thread Answer := do
  if q.arg0 ≠ 0 ∨ q.arg1 ≠ 0 ∨ q.length ≠ 0 then pure (.ofStatus q (-EINVAL))
  else
    let a ← serviceGetStats q.handle
    pure (.ofStats q a)

def timeoutInvalid (q : Request) : Bool :=
  q.arg1 != 0 || q.length != 0 || q.arg0 == 0 || decide (q.arg0 > serviceTimeoutMaxMs)

def controlServiceDrain (q : Request) : Thread Answer := do
  if timeoutInvalid q then pure (.ofStatus q (-EINVAL))
  else
    let a ← serviceDrain q.handle (msecsToJiffies q.arg0)
    pure (.ofStats q a)

def controlServiceStop (q : Request) : Thread Answer := do
  if timeoutInvalid q then pure (.ofStatus q (-EINVAL))
  else
    let a ← serviceStop q.handle (msecsToJiffies q.arg0)
    pure (.ofStats q a)

def controlShutdown (q : Request) : Thread Answer := do
  if q.handle ≠ 0 ∨ q.arg0 ≠ 0 ∨ q.arg1 ≠ 0 ∨ q.length ≠ 0 then pure (.ofStatus q (-EINVAL))
  else if ← Prog.block fun s _ => (s.allocated, s) then
    let a ← serviceStop serviceHandle (msecsToJiffies 30000)
    pure (.ofStatus q a.1)
  else pure (.ofStatus q 0)

def controlExecute (q : Request) : Thread Answer :=
  match q.op with
  | .socket => socketFamily q .v4
  | .socketIp => controlSocketIp q
  | .bind => controlBind q
  | .bindIp => controlBindIp q
  | .listen => controlListen q
  | .accept => acceptFlags q
  | .acceptNonblock => acceptFlags q
  | .close => controlClose q
  | .bridgeStart => controlBridgeStart q
  | .bridgeJoin => controlBridgeJoin q
  | .bridgeJoinResult => controlBridgeJoinResult q
  | .bridgeCancel => controlBridgeCancel q
  | .serviceStart => controlServiceStart q
  | .serviceDrain => controlServiceDrain q
  | .serviceStats => controlServiceStats q
  | .serviceStop => controlServiceStop q
  | .shutdown => controlShutdown q
  | .finish => Prog.block fun s r => (.ofStatus q r.ret, s)
  | .other => Prog.block fun s r => (.ofStatus q r.ret, s)
  | .unknown => pure (.ofStatus q (-EOPNOTSUPP))

/-! ## The control thread -/

structure Response where
  request : Request
  answer : Answer
  deriving DecidableEq

/-- Where the control thread is between two requests: waiting for the next one, ended, or
torn down by `arch_post_kernel_init`. -/
inductive ControlPoint
  | ready (last : Option Response)
  | finished (last : Option Response)
  | down
  deriving DecidableEq

def Response.terminal (r : Response) : Bool :=
  r.request.op == .finish || (r.request.op == .shutdown && r.answer.status == 0)

def controlThread (q : Request) : Thread ControlPoint := do
  let a ← if q.magic ≠ controlMagic ∨ q.version ≠ controlVersion then
      pure (Answer.ofStatus q (-EPROTO)) else controlExecute q
  let response : Response := ⟨q, a⟩
  Prog.block fun s r =>
    (if r.ret < 0 ∨ response.terminal = true then .finished (some response)
      else .ready (some response), s)

def serviceCancel : Thread Unit := do
  if ← Prog.block fun s _ => (s.allocated, s) then
    let _ ← serviceStop serviceHandle .max
    pure ()
  else pure ()

/-- The part of `arch_post_kernel_init` that follows the end of the control thread. -/
def teardown : Thread ControlPoint := do
  serviceCancel
  callBridge .control .cancel fun _ s _ => ((), s)
  releaseSlots (List.range maxSockets)
  pure .down

end Tcpcc.Runtime

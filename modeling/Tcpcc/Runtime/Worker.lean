import Tcpcc.Runtime.State

/-!
# The service worker

`tcpcc_service_thread` with its reap and accept passes. A `mutex_lock` of
`tcpcc_service_lock` may sleep, so every section under the lock is a block that waits for
it. The worker alone changes the list of bridges, so its pass over the list is a pass over
the list that it finds. The loop of `tcpcc_service_accept_ready` has no bound of its own
(a round that finds nothing to accept costs no budget) and is cut at its head.
-/

namespace Tcpcc.Bridge

def Outcome.ret : Outcome → ℤ
  | .value ret => ret
  | .started _ _ => 0
  | .reaped _ ret _ _ => ret

end Tcpcc.Bridge

namespace Tcpcc.Runtime
open Resumption State
open Bridge (SockId SessionId Outcome)

def unlocked (s : State) (_ : Reply) : Bool := !s.locked

/-! ## Listeners -/

def shutdownEach : List ListenerId → Thread Unit
  | [] => pure ()
  | e :: rest => do
    Prog.block fun s _ => ((), sockShutdown (s.listenerSock e) s)
    shutdownEach rest

def shutdownListeners : Thread Unit := do
  let snapshot ← Prog.await unlocked fun s _ => (s.listeners.take maxListeners, s)
  shutdownEach snapshot

/-! ## Reaping -/

def countFailure (status : ℤ) (s : State) : State :=
  { s with terminalFailures := s.terminalFailures + 1, lastError := status }

def countResult (result : Bridge.Result) (s : State) : State :=
  let s := { s with
    publicToBackendBytes := s.publicToBackendBytes + result.publicToBackendBytes
    backendToPublicBytes := s.backendToPublicBytes + result.backendToPublicBytes
    joined := s.joined ++ [result] }
  if result.status ≠ 0 then countFailure result.status s else s

/-- The entry leaves the list and the outcome of its join is added to the statistics. -/
def removeBridge (b : ServiceBridge) (a : Outcome) (s : State) : State :=
  let s := { s with
    removing := none
    bridges := s.bridges.erase b
    activeConnections := s.activeConnections - 1
    completedConnections := s.completedConnections + 1 }
  match a with
  | .reaped _ ret result _ => if ret ≠ 0 then countFailure ret s else countResult result s
  | a => countFailure a.ret s

def reapBridge (b : ServiceBridge) : Thread Unit := do
  let a ← callBridge .worker (.tryJoinResult b.handle) fun a s _ =>
    (a, if a.ret = -EAGAIN then s else { s with removing := some b.handle })
  if a.ret = -EAGAIN then pure ()
  else Prog.await unlocked fun s _ => ((), removeBridge b a s)

def serviceReap : List ServiceBridge → Thread Unit
  | [] => pure ()
  | b :: rest => do
    reapBridge b
    serviceReap rest

/-! ## Accepting -/

/-- `tcpcc_service_fail` up to the shutdown of the listeners. -/
def markFailed (status : ℤ) (s : State) : State :=
  clearReady { s with
    draining := true
    state := if s.draining then s.state else .failed
    lastError := status
    looking := false
    entry := none
    admitted := false }

def serviceFail (status : ℤ) : Thread Unit := do
  Prog.await unlocked fun s _ => ((), markFailed status s)
  shutdownListeners

def admissionAvailable (s : State) : Bool :=
  !s.draining && !s.stopping &&
    (s.maxConnections == 0 || decide (s.activeConnections < s.maxConnections))

inductive Accept
  | again
  | error (ret : ℤ)
  | sock (sk : SockId)
  deriving DecidableEq

/-- `kernel_accept` when it succeeds, and what follows up to `kzalloc`: the listener is
queued again and the accepted socket detached from it. -/
def takeConnection (e : ListenerId) (s : State) : State :=
  let (sk, s) := acceptSock (s.listenerSock e) s
  let s := queueListener e s
  detachAcceptedCallback sk e { s with
    entry := none
    origin := some e
    publicSock := some sk
    accepts := Function.update s.accepts e (s.accepts e + 1)
    passAccepted := s.passAccepted + 1 }

def acceptFrom (e : ListenerId) (s : State) (r : Reply) : Accept × State :=
  if r.ret = -EAGAIN then (.again, { s with entry := none, admitted := false })
  else if r.ret ≠ 0 then (.error r.ret, s)
  else (.sock s.nextSock, takeConnection e s)

def rejectConnection (sk : SockId) (status : ℤ) : Thread Unit := do
  Prog.block fun s _ => ((), sockShutdown sk s)
  Prog.block fun s _ => ((), sockRelease sk { s with
    origin := none, publicSock := none, admitted := false })
  Prog.await unlocked fun s _ => ((), { s with
    rejectedConnections := s.rejectedConnections + 1
    bridgeStartFailures := s.bridgeStartFailures + 1
    lastError := status })

/-- The continuation of `tcpcc_bridge_start`: on success the bridge owns the socket. -/
def bridgeStarted (a : Outcome) (s : State) : Except ℤ ℤ × State :=
  match a with
  | .started x handle =>
    (.ok handle, { s with
      origin := none
      publicSock := none
      bridgeHandle := some handle
      started := s.started ++ [x] })
  | a => (.error a.ret, s)

def addBridge (handle : ℤ) (s : State) : State :=
  { s with
    bridges := s.bridges ++ [⟨s.nextBridge, handle⟩]
    nextBridge := s.nextBridge + 1
    acceptedConnections := s.acceptedConnections + 1
    activeConnections := s.activeConnections + 1
    peakConnections := max s.peakConnections (s.activeConnections + 1)
    bridgeHandle := if s.stopping then some handle else none
    admitted := false
    lateAdds := if s.draining then s.lateAdds + 1 else s.lateAdds }

/-- `kzalloc` of the bridge entry; the call that follows names the backend of the listener. -/
def chooseBackend (e : ListenerId) (sk : SockId) (s : State) (r : Reply) : Bool × State :=
  if r.ret < 0 then (true, s) else (false, { s with dials := s.dials ++ [routeOf e sk s] })

/-- `tcpcc_service_accept_one` from its `kzalloc` on. -/
def startBridge (e : ListenerId) (sk : SockId) : Thread Unit := do
  if ← Prog.block (chooseBackend e sk) then rejectConnection sk (-ENOMEM)
  else
    match ← callBridge .worker (.start sk) fun a s _ => bridgeStarted a s with
    | .error ret => rejectConnection sk ret
    | .ok handle =>
      if ← Prog.await unlocked fun s _ => (s.stopping, addBridge handle s) then
        callBridge .worker (.cancelSession handle) fun _ s _ =>
          ((), { s with bridgeHandle := none })
      else pure ()

def acceptOne (e : ListenerId) : Thread ℤ := do
  if ← Prog.await unlocked fun s _ =>
      if admissionAvailable s then (true, s)
      else (false, { s with entry := none, admitted := false }) then
    match ← Prog.await (fun s r => acceptReply (s.listenerSock e) s r) (acceptFrom e) with
    | .again => Prog.await unlocked fun s _ => (0, { s with acceptEagain := s.acceptEagain + 1 })
    | .error ret => do
      serviceFail ret
      pure ret
    | .sock sk => do
      startBridge e sk
      pure 1
  else pure 0

/-- The head of the accept loop: the admission check and `tcpcc_service_pop_ready`. -/
def nextReady (s : State) : Option ListenerId × State :=
  if admissionAvailable s then
    match popReady s with
    | (none, s) => (none, { s with looking := false })
    | (some e, s) => (some e, { s with entry := some e, admitted := true })
  else (none, { s with looking := false })

/-! ## The thread -/

inductive WorkerPoint
  | waiting
  | accepting (budget : ℕ)
  deriving DecidableEq

/-- The end of a pass: `tcpcc_service_should_stop`, `kthread_should_stop`, and the exit. -/
def endPass (s : State) : State :=
  let s := if s.draining && s.activeConnections == 0 then
    { s with drained := Completion.completeAll s.drained } else s
  if (s.stopping && s.activeConnections == 0) || s.taskShouldStop then
    { s with stopped := Completion.completeAll s.stopped, thread := .exited }
  else s

def finishPass : Thread WorkerPoint := Prog.await unlocked fun s _ => (.waiting, endPass s)

def budgetSpent (s : State) : State :=
  { s with
    looking := false
    workReady := if s.readyList.isEmpty then s.workReady else Completion.complete s.workReady }

def acceptReady (budget : ℕ) : Thread WorkerPoint := do
  if budget = 0 then
    Prog.block fun s _ => ((), budgetSpent s)
    finishPass
  else
    match ← Prog.await unlocked fun s _ => nextReady s with
    | none => finishPass
    | some e =>
      let ret ← acceptOne e
      if ret < 0 then finishPass
      else pure (.accepting (if ret = 0 then budget else budget - 1))

def serviceThread : WorkerPoint → Thread WorkerPoint
  | .waiting => do
    let bridges ← Prog.await (fun s _ => decide (s.thread = .running ∧ s.workReady ≠ 0)) fun s _ =>
      (s.bridges, { s with workReady := Completion.take s.workReady, looking := true })
    serviceReap bridges
    if ← Prog.block fun s _ =>
        if !s.draining && !s.stopping then (true, s) else (false, { s with looking := false }) then
      let budget ← Prog.await unlocked fun s _ => (s.acceptBatch, { s with passAccepted := 0 })
      pure (.accepting budget)
    else finishPass
  | .accepting budget => acceptReady budget

end Tcpcc.Runtime

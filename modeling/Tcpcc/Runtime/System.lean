import Tcpcc.Runtime.Requests

/-!
# The runtime as a system

The service worker on the left, the control thread on the right. The environment is all
that runs besides them: the dispatcher of the bridge, block by block, socket callbacks and
interrupts, the arrival of connections on accept queues, and the TCP stack moving sockets
between states. A connection that arrives is on the accept queue when `sk_data_ready` of
the listener is called; a socket that a session is attached to is connected and does not
listen. The control thread is fed requests until it ends; then the teardown runs, once.
-/

namespace Tcpcc.Runtime
open Resumption State
open Bridge (SockId)

inductive Event
  | dispatch (r : Reply)
  | resumeDispatcher
  | callback (w : Bridge.State.Wakeup) (sk : SockId)
  | hostEvent (e : Bridge.HostEvent)
  | arrival (sk : SockId)
  | abandon (sk : SockId)
  | tcpState (sk : SockId) (state : TcpState)
  deriving DecidableEq

/-- A callback of the socket runs: the service's, the bridge's or the stack's own. -/
def socketCallback (w : Bridge.State.Wakeup) (sk : SockId) (s : State) : State :=
  if w = .dataReady ∧ (s.bridge.sock sk).hooks.dataReady = .service then listenerDataReady sk s
  else s.putBridge (Bridge.State.publicCallback w sk s.bridge)

def environment (s : State) : Event → Option State
  | .dispatch r =>
    match s.dispatcher with
    | .ret _ => none
    | .act ready run next =>
      if ready s.bridge r then
        some (notify { s with dispatcher := next s.bridge r } (run s.bridge r))
      else none
  | .resumeDispatcher =>
    match s.dispatcher with
    | .ret segment => some { s with dispatcher := Bridge.dispatcherThread segment }
    | .act .. => none
  | .callback w sk => some (socketCallback w sk s)
  | .hostEvent e => (Bridge.runtimeIrq e s.bridge).map s.putBridge
  | .arrival sk =>
    let v := s.bridge.sock sk
    if sk < s.nextSock ∧ v.state = .listen ∧ v.userData.isSession = false then
      some (socketCallback .dataReady sk { s with
        acceptQueue := Function.update s.acceptQueue sk
          (s.acceptQueue sk ++ [⟨v.userData, v.hooks, s.place sk⟩]) })
    else none
  | .abandon sk => some { s with acceptQueue := Function.update s.acceptQueue sk [] }
  | .tcpState sk state => some (setSock sk { s.bridge.sock sk with state := state } s)

inductive ControlEvent
  | request (q : Request)
  | lost
  | teardown
  deriving DecidableEq

/-- `lost` is a failed read of the next request. -/
def controlNext : ControlPoint → ControlEvent → Option (Thread ControlPoint)
  | .ready _, .request q => some (controlThread q)
  | .ready last, .lost => some (.ret (.finished last))
  | .finished _, .teardown => some teardown
  | _, _ => none

abbrev Config := Resumption.Config State Reply WorkerPoint ControlPoint

def runtime : System State Reply WorkerPoint ControlPoint Unit ControlEvent Event where
  env := environment
  left point _ := some (serviceThread point)
  right := controlNext

def boot : Config where
  state := {}
  left := .ret .waiting
  right := .ret (.ready none)

abbrev Reachable (c : Config) : Prop := runtime.Reachable boot c

end Tcpcc.Runtime

import Tcpcc.Bridge.Control

/-!
# The bridge as a system

The dispatcher thread on the left, the control-side operation that holds
`tcpcc_bridge_control_lock` on the right. A right side that has returned stands for a
free lock, and any operation may be called next. The environment runs the public
socket callbacks, raises the runtime interrupt, and moves sockets between states; it
attaches its own owners to sockets that no session is attached to.
-/

namespace Tcpcc.Bridge
open Resumption State

inductive Event
  | callback (w : Wakeup) (sk : SockId)
  | hostEvent (e : HostEvent)
  | sock (sk : SockId) (v : Sock)
  deriving DecidableEq

/-- `tcpcc_runtime_irq_handler`; a full queue panics. -/
def runtimeIrq (e : HostEvent) (s : State) : Option State :=
  if s.runtimeQueue.length < runtimeQueueLimit then
    some { s with
      runtimeQueue := s.runtimeQueue ++ [e]
      runtimeReady := Completion.complete s.runtimeReady
      dispatcherPending := s.runtimeNotify || s.dispatcherPending }
  else none

def foreign (old new : Sock) : Bool :=
  (new.userData == old.userData && new.hooks == old.hooks) ||
    (!old.userData.isSession && !new.userData.isSession)

def environment (s : State) : Event → Option State
  | .callback w sk => some (publicCallback w sk s)
  | .hostEvent e => runtimeIrq e s
  | .sock sk v => if foreign (s.sock sk) v then some (s.setSock sk v) else none

abbrev Config := Resumption.Config State Reply Segment Outcome

def bridge : System State Reply Segment Outcome Unit Op Event where
  env := environment
  left segment _ := some (dispatcherThread segment)
  right _ op := some op.program

def boot : Config where
  state := State.initial
  left := .ret .absent
  right := .ret (.value 0)

abbrev Reachable (c : Config) : Prop := bridge.Reachable boot c

end Tcpcc.Bridge

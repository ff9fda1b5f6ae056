import Tcpcc.L3.Config
import Tcpcc.Runtime.Wire

/-!
# A hosted kernel in which nothing outside fails

The requests of a startup, one after the other, on a hosted kernel whose calls into the rest of
Linux all succeed and in which no connection arrives meanwhile. What is left are the checks that
the hosted side makes itself. The payload of a response is there for the two requests whose
payload the native side reads.
-/

namespace Tcpcc.Runtime
open Resumption Control Records State
open Bridge (SockId)

/-- The runtime, the network device with the number it has once it is attached, and the congestion
controls that were selected. -/
structure Kernel where
  state : State := {}
  attached : Bool := false
  ifindex : ℕ := 2
  congestion : SockId → List UInt8 := fun _ => []

def caNameMax : ℕ := 16
def releaseLength : ℕ := 64

/-- The bits of `TCPCC_CONTROL_FEATURE_*`, all of which are set. -/
def featureBits : ℕ :=
  1 <<< 0 ||| 1 <<< 1 ||| 1 <<< 2 ||| 1 <<< 3 ||| 1 <<< 4 ||| 1 <<< 5

/-- `struct tcpcc_control_hello`, with no release. -/
def helloData : List UInt8 :=
  encodeLittle 4 controlVersion ++ encodeLittle 4 featureBits ++
    encodeLittle 4 Bridge.sessionLimit ++ encodeLittle 4 Bridge.bufferLimit ++
    encodeLittle 4 Bridge.totalBufferLimit ++ encodeLittle 4 0 ++ List.replicate releaseLength 0

def answerStatus (q : Control.Request) (status : ℤ) : Control.Response :=
  response q (.ofStatus (.ofWire q) status) []

namespace Kernel

def hello (q : Control.Request) : Control.Response :=
  if q.handle ≠ 0 ∨ q.arg0 ≠ 0 ∨ q.arg1 ≠ 0 ∨ q.length ≠ 0 then answerStatus q (-EINVAL)
  else response q (.ofStatus (.ofWire q) 0) helloData

def l3AttachIp (q : Control.Request) (k : Kernel) : Control.Response × Kernel :=
  if q.arg0 ≠ 0 ∨ q.arg1 ≠ 0 ∨ q.length ≠ L3.configSize then (answerStatus q (-EINVAL), k)
  else
    let ret := L3.attachCheck k.attached (signed q.handle) (.ofBytes (payload q.data))
    if ret ≠ 0 then (answerStatus q ret, k)
    else (response q { status := 0, handle := k.ifindex } [], { k with attached := true })

def setCc (q : Control.Request) (k : Kernel) : Control.Response × Kernel :=
  match lookup (signed q.handle) k.state with
  | none => (answerStatus q (-EBADF), k)
  | some sk =>
    if q.length = 0 ∨ caNameMax ≤ q.length then (answerStatus q (-EINVAL), k)
    else
      (answerStatus q 0, { k with
        congestion := Function.update k.congestion sk ((payload q.data).take q.length) })

def getCc (q : Control.Request) (k : Kernel) : Control.Response :=
  match lookup (signed q.handle) k.state with
  | none => answerStatus q (-EBADF)
  | some sk => response q (.ofStatus (.ofWire q) 0) (k.congestion sk)

/-- `tcpcc_control_execute` and the response to it; there is none if the request has to wait. -/
def execute (q : Control.Request) (k : Kernel) : Option (Control.Response × Kernel) :=
  if q.magic ≠ Control.controlMagic ∨ q.version ≠ Control.controlVersion then
    some (answerStatus q (-EPROTO), k)
  else if q.op = opHello then some (hello q, k)
  else if q.op = opL3AttachIp then some (k.l3AttachIp q)
  else if q.op = opSetCc then some (k.setCc q)
  else if q.op = opGetCc then some (k.getCc q, k)
  else
    ((controlExecute (.ofWire q)).drive {} k.state).map fun a =>
      (response q a.1 [], { k with state := a.2 })

end Kernel

end Tcpcc.Runtime

import Mathlib.Logic.Function.Basic
import Tcpcc.Lib.Resumption

/-!
# What the hosted code uses of Linux

Error numbers, completions, the part of a socket that the bridge and the service
touch, kernel threads, and the replies of calls that leave the modelled code. The
hosted kernel is built without SMP and without preemption, so a block of the
development is a piece of code that contains no call that may sleep in its
interior: threads switch between blocks only, and a socket callback or a virtual
interrupt runs as a whole between two blocks.
-/

namespace Tcpcc

def ENOENT : Int := 2
def EIO : Int := 5
def EBADF : Int := 9
def EAGAIN : Int := 11
def ENOMEM : Int := 12
def EBUSY : Int := 16
def EINVAL : Int := 22
def EMFILE : Int := 24
def ENOSPC : Int := 28
def ERANGE : Int := 34
def ENOSYS : Int := 38
def EPROTO : Int := 71
def EMSGSIZE : Int := 90
def EOPNOTSUPP : Int := 95
def EAFNOSUPPORT : Int := 97
def ENOTCONN : Int := 107
def ETIMEDOUT : Int := 110
def EINPROGRESS : Int := 115
def ECANCELED : Int := 125

/-- The answer of the outside world to one call: its integer result and the bytes
it delivered. -/
structure Reply where
  ret : Int := 0
  data : List UInt8 := []
  deriving DecidableEq, Repr

/-- A call that reports success as 0 and failure as a negative error number. -/
def Reply.status (r : Reply) : Bool := r.ret ≤ 0

/-- `struct completion`, as its counter `done`. -/
abbrev Completion := Nat

namespace Completion

def UINT_MAX : Nat := 4294967295

def complete (c : Completion) : Completion := if c = UINT_MAX then c else c + 1
def completeAll (_ : Completion) : Completion := UINT_MAX
def reinit (_ : Completion) : Completion := 0
def take (c : Completion) : Completion := if c = UINT_MAX then c else c - 1

end Completion

inductive TcpState
  | established
  | closeWait
  | listen
  | close
  | other (n : Nat)
  deriving DecidableEq, Repr

/-- A readiness callback of a socket: the stack's own, the bridge's or the service's. -/
inductive Callback
  | stock (n : Nat)
  | bridge
  | service
  deriving DecidableEq, Repr

structure Hooks where
  dataReady : Callback := .stock 0
  writeSpace : Callback := .stock 1
  stateChange : Callback := .stock 2
  errorReport : Callback := .stock 3
  deriving DecidableEq, Repr

inductive UserData
  | null
  | session (x : Nat)
  | listener (l : Nat)
  deriving DecidableEq, Repr

def UserData.isSession : UserData → Bool
  | .session _ => true
  | _ => false

/-- A hosted socket with its `struct sock`; `releases` counts calls of `sock_release`
and `shutdowns` counts calls of `kernel_sock_shutdown(SHUT_RDWR)`. -/
structure Sock where
  state : TcpState := .close
  userData : UserData := .null
  hooks : Hooks := {}
  shutdowns : Nat := 0
  releases : Nat := 0
  deriving DecidableEq, Repr

inductive Kthread
  | absent
  | created
  | running
  | exited
  deriving DecidableEq, Repr

end Tcpcc

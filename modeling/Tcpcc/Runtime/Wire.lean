import Tcpcc.Control.Wire
import Tcpcc.Runtime.Requests

/-!
# Requests as the control thread reads them

`tcpcc_control_execute` looks at the operation and casts the payload to the structure that the
operation expects. Both sides are little-endian; an address is in network order.
-/

namespace Tcpcc.Runtime
open Control Records

/-- `enum tcpcc_control_op`. -/
def RequestOp.ofWire : ℕ → RequestOp
  | 1 => .socket
  | 2 => .bind
  | 3 => .listen
  | 5 => .accept
  | 8 => .close
  | 11 => .finish
  | 16 => .bridgeStart
  | 17 => .bridgeJoin
  | 18 => .bridgeCancel
  | 19 => .acceptNonblock
  | 20 => .shutdown
  | 21 => .bridgeJoinResult
  | 23 => .serviceStart
  | 24 => .serviceDrain
  | 25 => .serviceStats
  | 26 => .serviceStop
  | 27 => .socketIp
  | 28 => .bindIp
  | op => if op = 0 ∨ 30 < op then .unknown else .other

/-- A field of type `__s32`. -/
def signed (n : ℕ) : ℤ := if n < 2 ^ 31 then n else n - 2 ^ 32

def networkOrder (bytes : List UInt8) : ℕ := bytes.foldl (fun n b => 256 * n + b.toNat) 0

def ServiceConfig.ofBytes (data : List UInt8) : ServiceConfig where
  backendIpv4 := field data 0 4
  backendPort := field data 4 2
  reserved := field data 6 2
  maxConnections := field data 8 4
  acceptBatch := field data 12 4

def IpEndpoint.ofBytes (data : List UInt8) : IpEndpoint where
  version := field data 0 1
  addressReserved := field data 1 3
  bytes := networkOrder ((data.drop 4).take 16)
  port := field data 20 2
  reserved := field data 22 2

def Request.ofWire (q : Control.Request) : Request where
  op := .ofWire q.op
  magic := q.magic
  version := q.version
  handle := signed q.handle
  arg0 := q.arg0
  arg1 := q.arg1
  length := q.length
  config := .ofBytes (payload q.data)
  endpoint := .ofBytes (payload q.data)

def response (q : Control.Request) (a : Answer) (data : List UInt8) : Control.Response where
  op := q.op
  status := a.status
  handle := (a.handle % 2 ^ 32).toNat
  length := data.length
  data := data

end Tcpcc.Runtime

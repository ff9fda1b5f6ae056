import Tcpcc.Bridge.State

/-!
# The dispatcher thread

The pump of one direction, the pump of one session, the delivery of host events
and the thread around them. The two direction pumps of the source run the same
loop with the sides exchanged; they differ in the counters they keep and in which
of their calls leave the hosted kernel. Every call on a socket is a block of its
own, on either side. A loop without a bound of its own is cut at its head, and
`Segment` names the places where it is entered again.
-/

namespace Tcpcc.Bridge
open Resumption State
open Function (update)

abbrev Thread (α : Type) := Prog State Reply α

/-! ## Pumping one direction -/

inductive PumpHead
  | leave
  | send
  | allocate
  | recv
  deriving DecidableEq

inductive PumpCall
  | again
  | fail (status : ℤ)
  | eof
  | moved
  deriving DecidableEq

def pumpHead (d : Dir) (x : SessionId) (s : State) : PumpHead × State :=
  let f := s.flow x d
  if f.done then (.leave, s)
  else if f.offset < f.length then
    let taken := takeWritable x d.dest s
    (if taken.1 then .send else .leave, taken.2)
  else if f.bufferWaiting then (.leave, s)
  else
    let taken := takeReadable x d.source s
    if taken.1 then
      match acquireBuffer x d taken.2 with
      | .held => (.recv, taken.2)
      | .exhausted => (.leave, waitForBuffer x d (setReadable x d.source taken.2))
      | .allocate => (.allocate, taken.2)
    else (.leave, taken.2)

def sendReply (d : Dir) (x : SessionId) (s : State) (r : Reply) : Bool :=
  let f := s.flow x d
  decide (r.ret ≤ ((f.length - f.offset : ℕ) : ℤ))

def countSendEagain (d : Dir) (x : SessionId) (s : State) : State :=
  match d with
  | .publicToBackend =>
    { s with hostSendEagain := update s.hostSendEagain x (s.hostSendEagain x + 1) }
  | .backendToPublic => s

def countPartialWrite (d : Dir) (x : SessionId) (partly : Bool) (s : State) : State :=
  match d with
  | .publicToBackend =>
    { s with
      hostPartialWrites := update s.hostPartialWrites x
        (if partly then s.hostPartialWrites x + 1 else s.hostPartialWrites x) }
  | .backendToPublic => s

def countRecvEagain (d : Dir) (x : SessionId) (s : State) : State :=
  match d with
  | .publicToBackend => s
  | .backendToPublic =>
    { s with hostRecvEagain := update s.hostRecvEagain x (s.hostRecvEagain x + 1) }

def Flow.advance (f : Flow) (n : ℕ) : Flow :=
  let drained := f.offset + n = f.length
  { f with
    offset := if drained then 0 else f.offset + n
    length := if drained then 0 else f.length
    bytes := f.bytes + n
    accepted := f.accepted ++ f.unsent.take n }

def pumpSend (d : Dir) (x : SessionId) (s : State) (r : Reply) : PumpCall × State :=
  if r.ret = -EAGAIN then (.again, countSendEagain d x s)
  else if r.ret < 0 then (.fail r.ret, s)
  else if r.ret = 0 then (.fail (- EIO), s)
  else
    let f := s.flow x d
    let s := countPartialWrite d x (decide (r.ret.toNat < f.length - f.offset)) s
    (.moved, (setWritable x d.dest s).setFlow x d (f.advance r.ret.toNat))

def pumpAllocate (d : Dir) (x : SessionId) (s : State) (r : Reply) : Bool × State :=
  if r.ret < 0 then (false, s) else (true, installBuffer x d r.data s)

/-- A receive returns an error or the number of bytes it stored, within its buffer. -/
def recvReply (r : Reply) : Bool :=
  decide (r.ret < 0) || (decide (r.ret = r.data.length) && decide (r.data.length ≤ bufferLimit))

def Flow.fill (f : Flow) (data : List UInt8) : Flow :=
  { f with
    length := data.length
    buffer := f.buffer.map fun old => data ++ old.drop data.length
    received := f.received ++ data }

def pumpRecv (d : Dir) (x : SessionId) (s : State) (r : Reply) : PumpCall × State :=
  if r.ret = -EAGAIN then (.again, releaseBuffer x d (countRecvEagain d x s))
  else if r.ret < 0 then (.fail r.ret, s)
  else if r.ret = 0 then
    let s := releaseBuffer x d s
    (.eof, s.setFlow x d { s.flow x d with eof := true })
  else (.moved, (setReadable x d.source s).setFlow x d ((s.flow x d).fill r.data))

def pumpShutdown (d : Dir) (x : SessionId) (s : State) (r : Reply) : ℤ × State :=
  let f := s.flow x d
  (r.ret, s.setFlow x d
    { f with shutdowns := f.shutdowns + 1, done := if r.ret = 0 then true else f.done })

def pumpLeave (x : SessionId) (left : ℕ) : Thread ℤ :=
  if left = 0 then Prog.block fun s _ => (0, queueSession x s) else pure 0

def pumpReceive (d : Dir) (x : SessionId) (left : ℕ) (again : Thread ℤ) : Thread ℤ := do
  match ← Prog.await (fun _ r => recvReply r) (pumpRecv d x) with
  | .again => pumpLeave x left
  | .fail status => pure status
  | .eof =>
    let status ← Prog.await (fun _ r => r.status) (pumpShutdown d x)
    if status = 0 then pumpLeave x left else pure status
  | .moved => again

/-- The loop of a direction with `left` operations of its budget to spare. -/
def pumpDirection (d : Dir) (x : SessionId) : ℕ → Thread ℤ
  | 0 => pumpLeave x 0
  | left + 1 => do
    match ← Prog.block fun s _ => pumpHead d x s with
    | .leave => pure 0
    | .send =>
      match ← Prog.await (sendReply d x) (pumpSend d x) with
      | .again => pumpLeave x left
      | .fail status => pure status
      | .eof => pure 0
      | .moved => pumpDirection d x left
    | .allocate =>
      if ← Prog.block (pumpAllocate d x) then pumpReceive d x left (pumpDirection d x left)
      else pure (-ENOMEM)
    | .recv => pumpReceive d x left (pumpDirection d x left)

def pumpPublicToBackend (x : SessionId) : Thread ℤ :=
  pumpDirection .publicToBackend x directionBudget

def pumpBackendToPublic (x : SessionId) : Thread ℤ :=
  pumpDirection .backendToPublic x directionBudget

/-! ## Pumping one session -/

/-- The rest of `tcpcc_bridge_session_stop`: the public socket is shut down by the
first request to stop. -/
def abortSocket (x : SessionId) (first : Bool) : Thread Unit :=
  if first then
    Prog.block fun s _ =>
      ((), match s.publicSock x with | none => s | some sk => sockShutdown sk s)
  else pure ()

inductive PumpEntry
  | empty
  | skip
  | pump (x : SessionId)
  deriving DecidableEq

/-- `take_ready` and the entry of `tcpcc_bridge_pump_session`. -/
def pumpEntry (s : State) : PumpEntry × State :=
  match takeReady s with
  | (none, s) => (.empty, s)
  | (some x, s) =>
    if !s.allocated x || (!s.running x && !s.stopping x) then (.skip, s)
    else if s.stopping x then (.skip, sessionFinish x s)
    else (.pump x, { s with pumping := some x })

def pumpExit (x : SessionId) (s : State) : State :=
  let s := if (s.flow x .publicToBackend).done && (s.flow x .backendToPublic).done && s.isClosed x
    then sessionFinish x s else s
  { s with pumping := none }

def pumpDirections (x : SessionId) : Thread ℤ := do
  let status ← pumpPublicToBackend x
  if status = 0 then pumpBackendToPublic x else pure status

def pumpDone (x : SessionId) (status : ℤ) : Thread Unit :=
  if status = 0 then Prog.block fun s _ => ((), pumpExit x s)
  else do
    let first ← Prog.block fun s _ => sessionStop x status s
    abortSocket x first
    Prog.block fun s _ => ((), { sessionFinish x s with pumping := none })

def pumpSession (x : SessionId) : Thread Unit := do
  let status ← pumpDirections x
  pumpDone x status

/-! ## Host events -/

def eventPut (x : SessionId) (s : State) : State :=
  { s with
    eventRefs := update s.eventRefs x (s.eventRefs x - 1)
    eventIdle := if s.eventRefs x = 1 then
        update s.eventIdle x (Completion.complete (s.eventIdle x))
      else s.eventIdle
    dispatching := none }

def eventGet (x : SessionId) (s : State) : State :=
  { s with
    eventRefs := update s.eventRefs x (s.eventRefs x + 1)
    eventIdle := if s.eventRefs x = 0 then
        update s.eventIdle x (Completion.reinit (s.eventIdle x))
      else s.eventIdle
    dispatching := some x }

def eventSession (e : HostEvent) (s : State) : Option SessionId :=
  let runtimeSlot := e.token % 2 ^ 32
  if e.token.testBit eventRuntimeBit ∧ runtimeSlotBase ≤ runtimeSlot ∧
      runtimeSlot < runtimeSlotBase + sessionLimit ∧
      runtimeSlot - runtimeSlotBase + 1 ≤ s.slotCount then
    match (s.slot (runtimeSlot - runtimeSlotBase + 1)).session with
    | none => none
    | some x =>
      if s.token x = e.token ∧ s.allocated x ∧ s.acceptEvents x then some x else none
  else none

def connectEvent (x : SessionId) (events : ℕ) (s : State) : State :=
  { s with
    connectEvents := update s.connectEvents x (s.connectEvents x ||| events)
    terminalEvents := update s.terminalEvents x
      (s.terminalEvents x ||| (events &&& (eventHangup ||| eventError)))
    connectReady := update s.connectReady x (Completion.complete (s.connectReady x)) }

def readyEvent (x : SessionId) (events : ℕ) (s : State) : State :=
  { s with
    readable := set₂ s.readable x .hostSide
      (decide (events &&& (eventReadable ||| eventHangup) ≠ 0) || s.readable x .hostSide)
    writable := set₂ s.writable x .hostSide
      (decide (events &&& (eventWritable ||| eventHangup) ≠ 0) || s.writable x .hostSide)
    terminalEvents := update s.terminalEvents x
      (s.terminalEvents x ||| (events &&& (eventHangup ||| eventError))) }

/-- `tcpcc_bridge_dispatch_event` up to a `kernel_sock_shutdown`, with `error` the answer
of `tcpcc_host_socket_error`. A session is returned when the call goes on after that,
together with whether the shutdown is due. -/
def dispatchEvent (e : HostEvent) (error : ℤ) (s : State) : Option (SessionId × Bool) × State :=
  match eventSession e s with
  | none => (none, s)
  | some x =>
    let s := eventGet x s
    if s.connecting x then (none, eventPut x (connectEvent x e.events s))
    else
      let s := readyEvent x e.events s
      if e.events &&& eventError ≠ 0 then
        let stopped := sessionStop x (if error ≠ 0 then error else - EIO) s
        (some (x, stopped.1), stopped.2)
      else (none, eventPut x (queueSession x s))

inductive Poll
  | empty
  | error (status : ℤ)
  | event (e : HostEvent)
  deriving DecidableEq

def runtimeEventPoll (s : State) : Poll × State :=
  if s.runtimeReady = 0 then (.empty, s)
  else
    let s := { s with runtimeReady := Completion.take s.runtimeReady }
    match s.runtimeQueue with
    | [] => (.error (- EIO), s)
    | e :: rest => (.event e, { s with runtimeQueue := rest })

/-! ## The thread -/

def drainRetired (s : State) : State :=
  { s with retired := [], freed := s.freed ++ s.retired }

inductive Segment
  | absent
  | idle
  | drain
  | ready (dispatched : ℕ)
  | abort (id : SlotId) (status : ℤ)
  deriving DecidableEq

inductive Drained
  | empty
  | failed (status : ℤ)
  | handled (after : Option (SessionId × Bool))
  deriving DecidableEq

def drainHostEvent (s : State) (r : Reply) : Drained × State :=
  match runtimeEventPoll s with
  | (.empty, s) => (.empty, s)
  | (.error status, s) => (.failed status, { s with dispatcherStatus := status })
  | (.event e, s) =>
    let handled := dispatchEvent e r.ret s
    (.handled handled.1, handled.2)

def threadExit (s : State) : State :=
  { drainRetired s with dispatcherRunning := false, dispatcherThread := .exited }

/-- One session of `tcpcc_bridge_abort_all`: the slot found from `id` on, and the session to
stop. -/
def abortNext (id : SlotId) (status : ℤ) (s : State) :
    Option (SlotId × Option (SessionId × Bool × Bool)) × State :=
  let slot := max id 1
  if slot ≤ s.slotCount then
    match (s.slot slot).session with
    | none => (some (slot, none), s)
    | some x =>
      let stopped := sessionStop x status s
      (some (slot, some (x, s.connecting x, stopped.1)), stopped.2)
  else (none, threadExit s)

def dispatcherThread : Segment → Thread Segment
  | .absent => Prog.await (fun s _ => decide (s.dispatcherThread = .created)) fun s _ =>
      if s.dispatcherShouldStop then (.absent, { s with dispatcherThread := .exited })
      else (.idle, { s with dispatcherThread := .running })
  | .idle => Prog.await
      (fun s _ => s.dispatcherPending || s.dispatcherShouldStop || s.dispatcherStopping) fun s _ =>
      let s := { s with dispatcherPending := false }
      if s.dispatcherShouldStop || s.dispatcherStopping then (.absent, threadExit s)
      else (.drain, drainRetired s)
  | .drain => do
    match ← Prog.await (fun _ r => r.status) drainHostEvent with
    | .empty => pure (.ready 0)
    | .failed status => pure (.abort 0 status)
    | .handled none => pure .drain
    | .handled (some (x, first)) =>
      abortSocket x first
      Prog.block fun s _ => (.drain, eventPut x (queueSession x s))
  | .ready dispatched =>
    if dispatched < dispatchBudget then do
      match ← Prog.block fun s _ => pumpEntry s with
      | .empty => pure .idle
      | .skip => pure (.ready (dispatched + 1))
      | .pump x =>
        pumpSession x
        pure (.ready (dispatched + 1))
    else Prog.block fun s _ => (.idle, dispatcherWake s)
  | .abort id status => do
    match ← Prog.block fun s _ => abortNext id status s with
    | none => pure .absent
    | some (slot, none) => pure (.abort (slot + 1) status)
    | some (slot, some (x, connecting, first)) =>
      abortSocket x first
      if connecting then pure (.abort (slot + 1) status)
      else Prog.block fun s _ => (.abort (slot + 1) status, sessionFinish x s)

end Tcpcc.Bridge

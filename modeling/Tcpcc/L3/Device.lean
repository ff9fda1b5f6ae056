import Tcpcc.L3.Receive
import Tcpcc.Lib.Machine

/-!
# The network device and its pump

`l3net.c` from `tcpcc_l3_drain_rx` to `tcpcc_l3_xmit`, and `tcpcc_l3_teardown`. The pump thread, the
teardown, calls of `tcpcc_l3_xmit` and interrupts take turns. An interrupt is dispatched from idle
only and the kernel is not preemptible, so the pieces below are not interrupted in their interior;
the pump may be left between any two calls of the host, where softirqs can run, and the teardown
where it may sleep.
-/

namespace Tcpcc.L3

def txQueueLimit : ℕ := 64
def txLowWatermark : ℕ := 32
def ioBudget : ℕ := 64

structure Skb where
  id : ℕ
  len : ℕ
  deriving DecidableEq, Repr

structure TxStats where
  txPackets : ℕ := 0
  txBytes : ℕ := 0
  txDropped : ℕ := 0
  txErrors : ℕ := 0
  deriving DecidableEq, Repr

def TxStats.sent (s : TxStats) (len : ℕ) : TxStats :=
  { s with txPackets := s.txPackets + 1, txBytes := s.txBytes + len }

def TxStats.dropped (s : TxStats) (error : Bool) : TxStats :=
  { s with
    txDropped := s.txDropped + 1
    txErrors := if error then s.txErrors + 1 else s.txErrors }

structure RuntimeStats where
  ioRounds : ℕ := 0
  emptyRounds : ℕ := 0
  rxIrqEvents : ℕ := 0
  txQueueWakeups : ℕ := 0
  txWritableEvents : ℕ := 0
  txEagain : ℕ := 0
  writableArms : ℕ := 0
  rxBudgetYields : ℕ := 0
  txBudgetYields : ℕ := 0
  deriving DecidableEq, Repr

/-! ## Packets to the host -/

/-- The packets in the hands of the device. The fields from `accepted` on are history: the packets
that `tcpcc_l3_xmit` answered with `NETDEV_TX_OK`, those it put on the queue, those that were
freed, those that the host took completely, and the attempts to write, with whether they were
refused with `EAGAIN`. -/
structure Transmit where
  queue : List Skb := []
  pending : Option Skb := none
  tx : TxStats := {}
  accepted : List Skb := []
  enqueued : List Skb := []
  freed : List Skb := []
  wire : List Skb := []
  attempts : List (Skb × Bool) := []
  deriving DecidableEq, Repr

namespace Transmit

def discard (skb : Skb) (error : Bool) (s : Transmit) : Transmit :=
  { s with
    tx := s.tx.dropped error
    accepted := s.accepted ++ [skb]
    freed := s.freed ++ [skb] }

def enqueue (skb : Skb) (s : Transmit) : Transmit :=
  { s with
    queue := s.queue ++ [skb]
    accepted := s.accepted ++ [skb]
    enqueued := s.enqueued ++ [skb] }

/-- `skb_dequeue` into `tx_pending`. -/
def take (skb : Skb) (rest : List Skb) (s : Transmit) : Transmit :=
  { s with queue := rest, pending := some skb }

/-- `tcpcc_host_write_fd` on the pending packet. -/
def attempt (skb : Skb) (ret : ℤ) (s : Transmit) : Transmit :=
  { s with
    wire := if ret = skb.len then s.wire ++ [skb] else s.wire
    attempts := s.attempts ++ [(skb, ret == -EAGAIN)] }

def settle (skb : Skb) (ret : ℤ) (s : Transmit) : Transmit :=
  { s with
    tx := if ret = skb.len then s.tx.sent skb.len else s.tx.dropped true
    freed := s.freed ++ [skb]
    pending := none }

def reap (skb : Skb) (rest : List Skb) (s : Transmit) : Transmit :=
  { s with queue := rest, tx := s.tx.dropped false, freed := s.freed ++ [skb] }

def held (s : Transmit) : List Skb := s.pending.toList ++ s.queue

end Transmit

/-! ## The device -/

/-- Where the pump thread is: behind some reads or writes of a round, or between rounds. The
function was not entered in `created`; `awake` is the test of `wait_event`. -/
inductive PumpAt
  | absent
  | created
  | awake
  | asleep
  | receiving (reads : ℕ)
  | received (worked : Bool)
  | sending (writes : ℕ)
  | writing (writes : ℕ)
  | exited
  deriving DecidableEq, Repr

/-- Where the teardown is, by the call that it is about to make or waits in. -/
inductive TeardownAt
  | none
  | disableIrq
  | freeIrq
  | kthreadStop
  | reaping
  | done
  deriving DecidableEq, Repr

/-- `struct tcpcc_l3_priv` and what the kernel and the host keep for it: whether the netdevice is
open and its queue stopped, whether the thread was told to stop, and whether the descriptor is
watched for writability. `roundReads` and `roundWrites` count the calls of the host in the last
round. -/
structure Device extends Transmit where
  mtu : ℕ := 1500
  rx : RxStats := {}
  runtime : RuntimeStats := {}
  rxBuffer : List UInt8 := List.replicate rxBufferSize 0
  passed : List (Protocol × List UInt8) := []
  rxReady : Bool := false
  txWritable : Bool := false
  txBlocked : Bool := false
  shuttingDown : Bool := false
  eventRegistered : Bool := true
  irqRegistered : Bool := true
  ioTask : Bool := true
  opened : Bool := false
  stopped : Bool := false
  shouldStop : Bool := false
  writeInterest : Bool := false
  roundReads : ℕ := 0
  roundWrites : ℕ := 0
  pump : PumpAt := .created
  teardown : TeardownAt := .none

namespace Device

/-- `wake_up` of `io_wait`. -/
def wake (s : Device) : Device := if s.pump = .asleep then { s with pump := .awake } else s

def finishTx (ret : ℤ) (s : Device) : Device :=
  match s.pending with
  | none => s
  | some skb =>
    let t : Device := { s with toTransmit := s.toTransmit.settle skb ret }
    if t.shuttingDown = false ∧ t.stopped = true ∧ t.queue.length < txLowWatermark then
      { t with stopped := false }
    else t

def txReady (s : Device) : Bool :=
  if s.txBlocked then s.txWritable else s.pending.isSome || !s.queue.isEmpty

def hasWork (s : Device) : Bool := s.shouldStop || s.shuttingDown || s.rxReady || s.txReady

/-- `mod` is the result of `tcpcc_host_event_mod_mask`. -/
def armWritable (mod : ℤ) (s : Device) : Device :=
  let s := { s with txWritable := false }
  if mod ≠ 0 then s.finishTx mod
  else
    { s with
      writeInterest := true
      txBlocked := true
      runtime := { s.runtime with writableArms := s.runtime.writableArms + 1 } }

/-- What `tcpcc_host_read_fd` gives; an empty read is treated as a failed one. -/
inductive HostRead
  | again
  | failed
  | packet (bytes : List UInt8)
  deriving DecidableEq, Repr

structure PumpInput where
  read : HostRead := .again
  allocated : Bool := true
  ret : ℤ := 0
  mod : ℤ := 0
  deriving DecidableEq, Repr

/-- One read of `tcpcc_l3_drain_rx`. -/
def receive (i : PumpInput) (n : ℕ) (s : Device) : Device :=
  let s := { s with roundReads := s.roundReads + 1 }
  match i.read with
  | .again => { s with pump := .received true }
  | .failed => { s with rx := s.rx.dropped true, pump := .received true }
  | .packet bytes =>
    let buffer := bytes ++ s.rxBuffer.drop bytes.length
    let injected := (injectOne s.mtu i.allocated bytes.length s.rx).value fun j => buffer.getD j 0
    { s with
      rxBuffer := buffer
      rx := injected.stats
      passed := s.passed ++ injected.passed.toList
      pump := .receiving (n + 1) }

/-- The beginning of `tcpcc_l3_drain_tx`. -/
def unblock (i : PumpInput) (s : Device) : Device :=
  if s.txBlocked then
    if s.txWritable = false then { s with pump := .awake }
    else if i.mod ≠ 0 then
      { finishTx i.mod { s with txWritable := false, txBlocked := false } with pump := .awake }
    else
      { s with
        txWritable := false
        txBlocked := false
        writeInterest := false
        pump := .sending 0 }
  else { s with pump := .sending 0 }

/-- One write of `tcpcc_l3_drain_tx`. -/
def write (i : PumpInput) (n : ℕ) (skb : Skb) (s : Device) : Device :=
  let s := { s with
    toTransmit := s.toTransmit.attempt skb i.ret
    roundWrites := s.roundWrites + 1 }
  if i.ret = -EAGAIN then
    { armWritable i.mod { s with
        runtime := { s.runtime with txEagain := s.runtime.txEagain + 1 } } with pump := .awake }
  else { finishTx i.ret s with pump := .sending (n + 1) }

/-- The start of a round, behind `wait_event`. -/
def beginRound (s : Device) : Device :=
  { s with
    runtime := { s.runtime with ioRounds := s.runtime.ioRounds + 1 }
    rxReady := false
    roundReads := 0
    roundWrites := 0
    pump := if s.rxReady then .receiving 0 else .received false }

/-- The next piece of the pump thread; asleep and when it has returned it has none. -/
def pumpStep (i : PumpInput) (s : Device) : Option Device :=
  match s.pump with
  | .absent => none
  | .created => some { s with pump := if s.shouldStop then .exited else .awake }
  | .awake =>
    if s.hasWork = false then some { s with pump := .asleep }
    else if s.shouldStop || s.shuttingDown then
      some { finishTx (-ECANCELED) s with pump := .exited }
    else some s.beginRound
  | .asleep => none
  | .receiving n =>
    if n < ioBudget then some (s.receive i n)
    else
      some { s with
        runtime := { s.runtime with rxBudgetYields := s.runtime.rxBudgetYields + 1 }
        rxReady := true
        pump := .received true }
  | .received worked =>
    if s.txReady then some (s.unblock i)
    else
      some { s with
        runtime := { s.runtime with
          emptyRounds := s.runtime.emptyRounds + if worked then 0 else 1 }
        pump := .awake }
  | .sending n =>
    if n < ioBudget then
      match s.pending, s.queue with
      | some _, _ => some { s with pump := .writing n }
      | none, [] => some { s with pump := .awake }
      | none, skb :: rest =>
        some { s with toTransmit := s.toTransmit.take skb rest, pump := .writing n }
    else
      some { s with
        runtime := { s.runtime with
          txBudgetYields := s.runtime.txBudgetYields + if s.held.isEmpty then 0 else 1 }
        pump := .awake }
  | .writing n => s.pending.map fun skb => s.write i n skb
  | .exited => none

structure HostEvents where
  readable : Bool := false
  writable : Bool := false
  hangup : Bool := false
  error : Bool := false
  deriving DecidableEq, Repr

def irqHandler (events : HostEvents) (s : Device) : Device :=
  let rx := events.readable || events.hangup || events.error
  let tx := events.writable || events.hangup || events.error
  wake { s with
    rxReady := s.rxReady || rx
    txWritable := s.txWritable || tx
    runtime := { s.runtime with
      rxIrqEvents := s.runtime.rxIrqEvents + if rx then 1 else 0
      txWritableEvents := s.runtime.txWritableEvents + if tx then 1 else 0 } }

inductive TxResult
  | ok
  | busy
  deriving DecidableEq, Repr

/-- `linear` is whether `skb_linearize` succeeds. -/
def xmit (skb : Skb) (linear : Bool) (s : Device) : TxResult × Device :=
  if skb.len > s.mtu ∨ skb.len < ipv4HeaderSize then
    (.ok, { s with toTransmit := s.toTransmit.discard skb false })
  else if linear = false then (.ok, { s with toTransmit := s.toTransmit.discard skb true })
  else if s.queue.length ≥ txQueueLimit then (.busy, { s with stopped := true })
  else
    let t := { s with
      toTransmit := s.toTransmit.enqueue skb
      stopped := s.stopped || decide (s.queue.length + 1 ≥ txQueueLimit) }
    if s.queue.isEmpty then
      (.ok, wake { t with
        runtime := { t.runtime with txQueueWakeups := t.runtime.txQueueWakeups + 1 } })
    else (.ok, t)

/-- The teardown from `netif_stop_queue` into `kthread_stop`. -/
def quiesce (s : Device) : Device :=
  let s := { s with stopped := true }
  if s.ioTask then { wake s with shouldStop := true, teardown := .kthreadStop }
  else { s with teardown := .reaping }

/-- The next piece of `tcpcc_l3_teardown`. -/
def teardownStep (s : Device) : Option Device :=
  match s.teardown with
  | .none =>
    let s := { s with shuttingDown := true, eventRegistered := false }
    some (if s.irqRegistered then { s with teardown := .disableIrq } else s.quiesce)
  | .disableIrq => some { s with teardown := .freeIrq }
  | .freeIrq => some (quiesce { s with irqRegistered := false })
  | .kthreadStop =>
    if s.pump = .exited then some { s with ioTask := false, teardown := .reaping } else none
  | .reaping =>
    match s.queue with
    | [] => some { s with teardown := .done }
    | skb :: rest => some { s with toTransmit := s.toTransmit.reap skb rest }
  | .done => none

inductive Event
  | xmit (skb : Skb) (linear : Bool)
  | irq (events : HostEvents)
  | pump (input : PumpInput)
  | openDevice
  | stopDevice
  | teardown
  deriving DecidableEq, Repr

/-- The stack hands over packets that are its own, and respects a stopped queue at least when the
device shuts down. The handler runs while the interrupt is enabled. Interest changes answer 0 or
an error number. -/
def step (s : Device) : Event → Option Device
  | .xmit skb linear =>
    if skb ∈ s.accepted ∨ (s.stopped = true ∧ s.shuttingDown = true) then none
    else some (s.xmit skb linear).2
  | .irq events =>
    if s.irqRegistered = true ∧ s.teardown ≠ .freeIrq then some (s.irqHandler events) else none
  | .pump input => if input.mod ≤ 0 then s.pumpStep input else none
  | .openDevice =>
    if s.teardown = .none then some { s with opened := true, stopped := false } else none
  | .stopDevice =>
    if s.teardown = .none then some { s with opened := false, stopped := true } else none
  | .teardown => s.teardownStep

def fresh (mtu : ℕ) (irq event task : Bool) : Device where
  mtu := mtu
  irqRegistered := irq
  eventRegistered := event
  ioTask := task
  pump := if task then .created else .absent

end Device

end Tcpcc.L3

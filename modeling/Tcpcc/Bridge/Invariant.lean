import Tcpcc.Bridge.System
import Tcpcc.Lib.FlaggedList

/-!
# The invariant of the bridge

Each group is a predicate of the fields it constrains, so that a block which leaves
those fields alone keeps the group by computation. `Core` holds at every call inside a
block; `Inv` adds what the release of a buffer and the end of a session break for a
moment and restore before the block ends.
-/

namespace Tcpcc.Bridge
open FlaggedList

/-- The stream account of one direction: what the source delivered is what the
destination took, followed by what the buffer still holds. -/
structure FlowOK (f : Flow) : Prop where
  split : ∃ rest, f.received = f.accepted ++ rest ∧ rest.length = f.length - f.offset ∧
    ∀ data, f.buffer = some data → (data.take f.length).drop f.offset = rest
  range : f.offset < f.length ∨ f.offset = 0 ∧ f.length = 0
  bytes : f.bytes = f.accepted.length
  eof : f.eof = true → f.length = 0 ∧ f.buffer = none
  shut : f.shutdowns = 0 ∨ f.shutdowns = 1 ∧ f.eof = true
  done : f.done = true → f.shutdowns = 1
  waiting : f.bufferWaiting = true → f.buffer = none ∧ f.length = 0 ∧ f.done = false

structure ReadyOK (ready : List SessionId) (readyQueued allocated : SessionId → Bool) : Prop where
  listed : Listed ready readyQueued
  live : ∀ x, readyQueued x = true → allocated x = true

structure WaitersOK (waiters : List SessionId) (waitQueued allocated : SessionId → Bool)
    (flow : SessionId → Dir → Flow) : Prop where
  listed : Listed waiters waitQueued
  live : ∀ x, waitQueued x = true → allocated x = true
  waiting : ∀ x d, (flow x d).bufferWaiting = true → waitQueued x = true

structure ActiveOK (active : List SessionId) (activeSessions : ℕ)
    (allocated : ℕ → Bool) (nextSession : ℕ) (initialized : Bool) : Prop where
  listed : Listed active allocated
  count : active.length = activeSessions
  fresh : ∀ x, allocated x = true → x < nextSession
  dormant : initialized = false → active = []

/-- A slot is free, owned by one allocated session, or in the hands of the operation
that is about to fill it. -/
structure SlotsOK (slot : ℕ → Slot) (slotCount : ℕ) (freeSlots : List ℕ) (inHand : Option ℕ)
    (slotOf : SessionId → ℕ) (allocated : SessionId → Bool) : Prop where
  nodup : freeSlots.Nodup
  free : ∀ id ∈ freeSlots, (1 ≤ id ∧ id ≤ slotCount) ∧ (slot id).session = none ∧ inHand ≠ some id
  hand : ∀ id, inHand = some id → (1 ≤ id ∧ id ≤ slotCount) ∧ (slot id).session = none
  owned : ∀ id x, (slot id).session = some x → allocated x = true ∧ slotOf x = id
  owner : ∀ x, allocated x = true →
    (1 ≤ slotOf x ∧ slotOf x ≤ slotCount) ∧ (slot (slotOf x)).session = some x
  cover : ∀ id, 1 ≤ id → id ≤ slotCount →
    id ∈ freeSlots ∨ (slot id).session ≠ none ∨ inHand = some id

structure TenantsOK (publicSock : SessionId → Option SockId) (handle : SessionId → ℤ)
    (generation slotOf : SessionId → ℕ) (slotCount : ℕ) (allocated : SessionId → Bool) : Prop where
  bound : slotCount ≤ sessionLimit
  housed : ∀ x, allocated x = true → ∃ sk, publicSock x = some sk
  vacated : ∀ x, allocated x = false → publicSock x = none
  named : ∀ x, allocated x = true → handle x = makeHandle (slotOf x - 1) (generation x) ∧
    0 < generation x ∧ generation x ≤ handleGenerationMask

def allocations (slotOf : ℕ → ℕ) (n id : ℕ) : ℕ :=
  ((Finset.range n).filter fun y => slotOf y = id).card

def generationOf : ℕ → ℕ
  | 0 => 0
  | n + 1 => n % handleGenerationMask + 1

/-- Generations count the allocations of a slot, and the names of a session are made of its
slot and generation. The slot of an allocated session was not given away since. -/
structure NamesOK (slot : ℕ → Slot) (slotCount : ℕ) (slotOf generation : ℕ → ℕ)
    (handle : ℕ → ℤ) (token : ℕ → ℕ) (allocated : ℕ → Bool) (nextSession : ℕ) : Prop where
  slots : ∀ id, (slot id).generation = generationOf (allocations slotOf nextSession id)
  range : ∀ x, x < nextSession → 1 ≤ slotOf x ∧ slotOf x ≤ slotCount
  generations : ∀ x, x < nextSession →
    generation x = generationOf (allocations slotOf (x + 1) (slotOf x))
  handles : ∀ x, x < nextSession → handle x = makeHandle (slotOf x - 1) (generation x)
  tokens : ∀ x, x < nextSession →
    token x = runtimeToken (runtimeSlotBase + slotOf x - 1) (generation x)
  last : ∀ x y, allocated x = true → x < y → y < nextSession → slotOf y ≠ slotOf x

structure RetiredOK (retired freed : List ℕ) (allocated : ℕ → Bool) (nextSession : ℕ) :
    Prop where
  nodup : (freed ++ retired).Nodup
  gone : ∀ x ∈ freed ++ retired, allocated x = false ∧ x < nextSession

structure HooksOK (sock : SockId → Sock) (publicSock : SessionId → Option SockId)
    (installed allocated : SessionId → Bool) : Prop where
  live : ∀ sk x, (sock sk).userData = .session x →
    allocated x = true ∧ publicSock x = some sk ∧ installed x = true

structure RefsOK (eventRefs : SessionId → ℕ) (dispatching : Option SessionId)
    (eventIdle : SessionId → Completion) (allocated : SessionId → Bool) : Prop where
  refs : ∀ x, eventRefs x = if dispatching = some x then 1 else 0
  idle : ∀ x, dispatching = some x → eventIdle x = 0
  live : ∀ x, dispatching = some x → allocated x = true

def held (flow : Dir → Flow) : ℕ :=
  (if (flow .publicToBackend).buffer.isSome then 1 else 0) +
    (if (flow .backendToPublic).buffer.isSome then 1 else 0)

structure BudgetOK (bufferBytes : ℤ) (flow : ℕ → Dir → Flow) (nextSession : ℕ) : Prop where
  sum : bufferBytes = bufferLimit * (∑ x ∈ Finset.range nextSession, held (flow x) : ℕ)
  bound : bufferBytes ≤ totalBufferLimit

structure FlowsOK (flow : SessionId → Dir → Flow) (finishedNotified : SessionId → Bool) :
    Prop where
  ok : ∀ x d, FlowOK (flow x d)
  backed : ∀ x d, finishedNotified x = false → (flow x d).buffer = none → (flow x d).length = 0

structure PhaseOK (allocated connecting running stopping finishedNotified : SessionId → Bool)
    (finished : SessionId → Completion) (status : SessionId → ℤ)
    (flow : SessionId → Dir → Flow) : Prop where
  isRunning : ∀ x, running x = true →
    allocated x = true ∧ connecting x = false ∧ finishedNotified x = false
  isConnecting : ∀ x, connecting x = true →
    allocated x = true ∧ stopping x = false ∧ finishedNotified x = false ∧ status x = 0 ∧
      ∀ d, flow x d = {}
  live : ∀ x, allocated x = true →
    connecting x = true ∨ running x = true ∨ finishedNotified x = true
  isFinished : ∀ x, finished x ≠ 0 → finishedNotified x = true

structure StatusOK (status finishStatus : SessionId → ℤ)
    (allocated stopping finishedNotified : SessionId → Bool) (stops : List StopRequest)
    (nextSession : ℕ) : Prop where
  nonpos : ∀ x, status x ≤ 0
  stopped : ∀ x, allocated x = true → stopping x = true → finishedNotified x = false →
    status x < 0
  told : ∀ r ∈ stops, (r.session : ℕ) < nextSession ∧ status r.session < 0
  final : ∀ x, finishedNotified x = true → status x = finishStatus x ∨
    finishStatus x = 0 ∧ ∃ r ∈ stops, r.session = x ∧ r.late = true

structure QueueOK (runtimeReady : Completion) (runtimeQueue : List HostEvent) : Prop where
  credits : runtimeReady = runtimeQueue.length
  bound : runtimeQueue.length ≤ runtimeQueueLimit

/-- A direction that cannot move: it is done, its destination is not writable, its source
has nothing to read, or it waits for a buffer. -/
def Settled (f : Flow) (writable readable : Bool) : Prop :=
  f.done = true ∨ (f.offset < f.length ∧ writable = false) ∨
    (¬ f.offset < f.length ∧ f.bufferWaiting = false ∧ readable = false) ∨ f.bufferWaiting = true

/-- A direction between two pumps: a buffer is kept only while the source may have
more, and end of file has been passed on. -/
def Rested (f : Flow) (readable : Bool) : Prop :=
  (f.buffer.isSome = true → readable = true) ∧ (f.eof = true → f.done = true)

structure SettledOK (running stopping readyQueued : SessionId → Bool) (pumping : Option SessionId)
    (flow : SessionId → Dir → Flow) (writable readable : SessionId → Side → Bool) : Prop where
  settled : ∀ x, running x = true → stopping x = false → readyQueued x = false →
    pumping ≠ some x → ∀ d, Settled (flow x d) (writable x d.dest) (readable x d.source)
  rested : ∀ x, running x = true → pumping ≠ some x →
    ∀ d, Rested (flow x d) (readable x d.source)

structure FinishOK (finishedNotified finishClosed : SessionId → Bool) (status : SessionId → ℤ)
    (flow : SessionId → Dir → Flow) : Prop where
  clean : ∀ x, finishedNotified x = true → status x = 0 →
    finishClosed x = true ∧ ∀ d, (flow x d).done = true

structure ThreadOK (pumping dispatching : Option SessionId) : Prop where
  single : pumping = none ∨ dispatching = none

structure Core (s : State) : Prop where
  ready : ReadyOK s.ready s.readyQueued s.allocated
  waiters : WaitersOK s.bufferWaiters s.bufferWaitQueued s.allocated s.flow
  active : ActiveOK s.active s.activeSessions s.allocated s.nextSession s.initialized
  slots : SlotsOK s.slot s.slotCount s.freeSlots s.slotInHand s.slotOf s.allocated
  tenants : TenantsOK s.publicSock s.handle s.generation s.slotOf s.slotCount s.allocated
  names : NamesOK s.slot s.slotCount s.slotOf s.generation s.handle s.token s.allocated
    s.nextSession
  retired : RetiredOK s.retired s.freed s.allocated s.nextSession
  hooks : HooksOK s.sock s.publicSock s.publicCallbacksInstalled s.allocated
  refs : RefsOK s.eventRefs s.dispatching s.eventIdle s.allocated
  budget : BudgetOK s.bufferBytes s.flow s.nextSession
  flows : FlowsOK s.flow s.finishedNotified
  phase : PhaseOK s.allocated s.connecting s.running s.stopping s.finishedNotified s.finished
    s.status s.flow
  status : StatusOK s.status s.finishStatus s.allocated s.stopping s.finishedNotified s.stops
    s.nextSession
  queue : QueueOK s.runtimeReady s.runtimeQueue
  settled : SettledOK s.running s.stopping s.readyQueued s.pumping s.flow s.writable s.readable
  finish : FinishOK s.finishedNotified s.finishClosed s.status s.flow
  thread : ThreadOK s.pumping s.dispatching

structure HoldersOK (running waitQueued : SessionId → Bool) (flow : SessionId → Dir → Flow) :
    Prop where
  buffer : ∀ x d, (flow x d).buffer.isSome = true → running x = true
  waiter : ∀ x, waitQueued x = true → running x = true

structure ExhaustedOK (waiters : List SessionId) (bufferBytes : ℤ) : Prop where
  exhausted : waiters ≠ [] → totalBufferLimit < bufferBytes + bufferLimit

/-- A session is signalled and its notifier called once, when it finishes; its credit is
there until an operation takes it to reap the session, which happens once. -/
structure OnceOK (allocated finishedNotified armed : ℕ → Bool) (finished : ℕ → Completion)
    (reaping cancelWait : Option ℕ) (reaps signals notices : ℕ → ℕ) (nextSession : ℕ) : Prop where
  signalled : ∀ x, signals x = if finishedNotified x then 1 else 0
  noticed : ∀ x, notices x = if finishedNotified x && armed x then 1 else 0
  credit : ∀ x, allocated x = true → finishedNotified x = true →
    finished x = if reaping = some x then 0 else 1
  taken : ∀ x, reaping = some x → finishedNotified x = true
  reaped : ∀ x, reaps x ≤ 1
  unreaped : ∀ x, allocated x = true → reaps x = 0
  fresh : ∀ x, nextSession ≤ x → reaps x = 0 ∧ finishedNotified x = false
  waiting : ∀ x, cancelWait = some x → allocated x = true ∧ reaping = none

structure Inv (s : State) : Prop extends Core s where
  holders : HoldersOK s.running s.bufferWaitQueued s.flow
  exhausted : ExhaustedOK s.bufferWaiters s.bufferBytes
  once : OnceOK s.allocated s.finishedNotified s.armed s.finished s.reaping s.cancelWait s.reaps
    s.signals s.notices s.nextSession

theorem FlowOK.default : FlowOK {} where
  split := ⟨[], by simp⟩
  range := by simp
  bytes := by simp
  eof := by simp
  shut := by simp
  done := by simp
  waiting := by simp

theorem Inv.initial : Inv State.initial where
  ready := ⟨nil, by simp [State.initial]⟩
  waiters := ⟨nil, by simp [State.initial], by simp [State.initial]⟩
  active := ⟨nil, rfl, by simp [State.initial], by simp [State.initial]⟩
  slots := by
    constructor <;> simp [State.initial]
    omega
  tenants := by constructor <;> simp [State.initial]
  names := ⟨fun _ => rfl, nofun, nofun, nofun, nofun, nofun⟩
  retired := by constructor <;> simp [State.initial]
  hooks := ⟨by simp [State.initial]⟩
  refs := by constructor <;> simp [State.initial]
  budget := by constructor <;> simp [State.initial]
  flows := ⟨fun _ _ => FlowOK.default, by simp [State.initial]⟩
  phase := by constructor <;> simp [State.initial]
  status := by constructor <;> simp [State.initial]
  queue := by constructor <;> simp [State.initial]
  settled := by constructor <;> simp [State.initial]
  finish := ⟨by simp [State.initial]⟩
  thread := ⟨.inl rfl⟩
  holders := by constructor <;> simp [State.initial]
  exhausted := ⟨by simp [State.initial]⟩
  once := by constructor <;> simp [State.initial]

end Tcpcc.Bridge

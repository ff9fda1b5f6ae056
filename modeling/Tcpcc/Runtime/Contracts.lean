import Tcpcc.Runtime.Invariant

/-!
# What the worker and the control thread promise each other

Each leaves the fields of the other alone. The control thread resets the worker's fields
only while there is no worker, and the worker does not touch its list of bridges while the
control thread holds the lock. A thread that has called the bridge finds the registry as it
left it. Both move the state of the service along its lifecycle and the listeners through
the ready queue only as `Law` says, and a service that has been drained stays so.
-/

namespace Tcpcc.Runtime
open Resumption State
open Bridge (SockId SessionId)

variable {s s' : State}

def State.calls (s : State) (who : Caller) : Prop := ∃ op live, s.call = some ⟨who, op, live⟩

structure Resting (w : WorkerSide) : Prop where
  entry : w.entry = none
  publicSock : w.publicSock = none
  bridgeHandle : w.bridgeHandle = none
  admitted : w.admitted = false
  removing : w.removing = none
  looking : w.looking = false

structure Dialable (e : ListenerId) (sk : SockId) (s : State) : Prop where
  known : (e : ℕ) < s.nextListener
  route : routeOf e sk s ∈ s.routes

structure WorkerRely (s s' : State) : Prop where
  work : s.thread = .running → s'.toWorkerSide = s.toWorkerSide
  batch : s.thread = .running → s'.acceptBatch = s.acceptBatch
  dial : s.thread = .running → ∀ e sk, s.publicSock = some sk → Dialable e sk s → Dialable e sk s'
  rest : s.thread ≠ .running → Resting s.toWorkerSide → Resting s'.toWorkerSide
  call : s.calls .worker → s'.call = s.call ∧ Bridge.ControlRely s.bridge s'.bridge
  uncalled : ¬ s.calls .worker → ¬ s'.calls .worker

theorem WorkerRely.refl (s : State) : WorkerRely s s where
  work _ := rfl
  batch _ := rfl
  dial _ _ _ _ h := h
  rest _ h := h
  call _ := ⟨rfl, Bridge.ControlRely.refl _⟩
  uncalled := id

theorem WorkerRely.calls (h : WorkerRely s s') (hc : s.calls .worker) : s'.calls .worker := by
  obtain ⟨op, live, hop⟩ := hc
  exact ⟨op, live, (h.call ⟨op, live, hop⟩).1.trans hop⟩

theorem WorkerRely.trans {a b c : State} (h : WorkerRely a b) (h' : WorkerRely b c) :
    WorkerRely a c where
  work ha := by
    have hb := h.work ha
    exact (h'.work (hb ▸ ha)).trans hb
  batch ha := by
    have hb := (congrArg WorkerSide.thread (h.work ha)).trans ha
    exact (h'.batch hb).trans (h.batch ha)
  dial ha e sk hsk hd := by
    have hb := h.work ha
    exact h'.dial (hb ▸ ha) e sk (hb ▸ hsk) (h.dial ha e sk hsk hd)
  rest ha hrest := by
    have hb := h.rest ha hrest
    by_cases hrun : b.thread = .running
    · rw [h'.work hrun]
      exact hb
    · exact h'.rest hrun hb
  call hcall := by
    obtain ⟨hb, hr⟩ := h.call hcall
    obtain ⟨hc, hr'⟩ := h'.call (h.calls hcall)
    exact ⟨hc.trans hb, hr.trans hr'⟩
  uncalled := h'.uncalled ∘ h.uncalled

/-- The bridge is in the hands of the control thread: it has called it, or there is no
worker that could. -/
def State.controlled (s : State) : Prop :=
  s.calls .control ∨ s.thread ≠ .running ∧ s.call = none

structure Unreferenced (e : ListenerId) (s : State) : Prop where
  socks : ∀ sk, (s.bridge.sock sk).userData ≠ .listener e
  children : ∀ sk, ∀ child ∈ s.acceptQueue sk, child.userData ≠ .listener e

structure SameEnd (sk : SockId) (s s' : State) : Prop where
  place : s'.place sk = s.place sk
  userData : (s'.bridge.sock sk).userData = (s.bridge.sock sk).userData
  hooks : (s'.bridge.sock sk).hooks = (s.bridge.sock sk).hooks

theorem SameEnd.refl (sk : SockId) (s : State) : SameEnd sk s s := ⟨rfl, rfl, rfl⟩

theorem SameEnd.trans {sk : SockId} {a b c : State} (h : SameEnd sk a b) (h' : SameEnd sk b c) :
    SameEnd sk a c :=
  ⟨h'.place.trans h.place, h'.userData.trans h.userData, h'.hooks.trans h.hooks⟩

structure EndsKept (s s' : State) : Prop where
  grows : s.nextSock ≤ s'.nextSock
  placed : ∀ sk, sk < s.nextSock → s'.place sk = s.place sk
  tabled : ∀ i sk, s.table i = some sk → SameEnd sk s s'
  refs : ∀ e, Unreferenced e s → Unreferenced e s'

theorem EndsKept.refl (s : State) : EndsKept s s :=
  ⟨Nat.le_refl _, fun _ _ => rfl, fun _ sk _ => .refl sk s, fun _ h => h⟩

theorem EndsKept.of_same (hnext : s'.nextSock = s.nextSock) (hplace : s'.place = s.place)
    (hsock : ∀ sk, (s'.bridge.sock sk).userData = (s.bridge.sock sk).userData ∧
      (s'.bridge.sock sk).hooks = (s.bridge.sock sk).hooks)
    (hqueue : ∀ sk, ∀ child ∈ s'.acceptQueue sk, child ∈ s.acceptQueue sk) : EndsKept s s' where
  grows := Nat.le_of_eq hnext.symm
  placed sk _ := congrFun hplace sk
  tabled _ sk _ := ⟨congrFun hplace sk, (hsock sk).1, (hsock sk).2⟩
  refs _ h := ⟨fun sk => (hsock sk).1 ▸ h.socks sk, fun sk child hc =>
    h.children sk child (hqueue sk child hc)⟩

theorem EndsKept.of_eq (hnext : s'.nextSock = s.nextSock) (hplace : s'.place = s.place)
    (hbridge : s'.bridge = s.bridge)
    (hqueue : s'.acceptQueue = s.acceptQueue) : EndsKept s s' :=
  .of_same hnext hplace (fun sk => by rw [hbridge]; exact ⟨rfl, rfl⟩) fun sk child hc => by
    rwa [hqueue] at hc

structure RequestRely (s s' : State) : Prop where
  side : s'.toControlSide = s.toControlSide
  idle : s.thread ≠ .running → s'.toWorkerSide = s.toWorkerSide
  quiet : s.controlled → s'.call = s.call ∧ Bridge.ControlRely s.bridge s'.bridge
  uncalled : ¬ s.calls .control → ¬ s'.calls .control
  notifier : s'.bridge.completionNotify = s.bridge.completionNotify
  bridges : s.locked = true → s'.bridges = s.bridges
  drained : s.drained ≠ 0 → s'.drained ≠ 0
  ends : EndsKept s s'

theorem RequestRely.refl (s : State) : RequestRely s s where
  side := rfl
  idle _ := rfl
  quiet _ := ⟨rfl, Bridge.ControlRely.refl _⟩
  uncalled := id
  notifier := rfl
  bridges _ := rfl
  drained h := h
  ends := .refl s

theorem RequestRely.controlled (h : RequestRely s s') (hc : s.controlled) : s'.controlled := by
  obtain ⟨hcall, -⟩ := h.quiet hc
  rcases hc with ⟨op, live, hop⟩ | ⟨hrun, hnone⟩
  · exact .inl ⟨op, live, hcall.trans hop⟩
  · refine .inr ⟨?_, hcall.trans hnone⟩
    rw [congrArg WorkerSide.thread (h.idle hrun)]
    exact hrun

theorem RequestRely.trans {a b c : State} (h : RequestRely a b) (h' : RequestRely b c) :
    RequestRely a c where
  side := h'.side.trans h.side
  idle ha := by
    have hb := h.idle ha
    exact (h'.idle (by rw [congrArg WorkerSide.thread hb]; exact ha)).trans hb
  quiet ha := by
    obtain ⟨hb, hr⟩ := h.quiet ha
    obtain ⟨hc, hr'⟩ := h'.quiet (h.controlled ha)
    exact ⟨hc.trans hb, hr.trans hr'⟩
  uncalled := h'.uncalled ∘ h.uncalled
  notifier := h'.notifier.trans h.notifier
  bridges ha := by
    have hb : b.locked = true := h.side ▸ ha
    exact (h'.bridges hb).trans (h.bridges ha)
  drained := h'.drained ∘ h.drained
  ends :=
    { grows := Nat.le_trans h.ends.grows h'.ends.grows
      placed := fun sk hsk =>
        (h'.ends.placed sk (Nat.lt_of_lt_of_le hsk h.ends.grows)).trans (h.ends.placed sk hsk)
      tabled := fun i sk hi => by
        have hb : b.table i = some sk := h.side ▸ hi
        exact (h.ends.tabled i sk hi).trans (h'.ends.tabled i sk hb)
      refs := fun e => h'.ends.refs e ∘ h.ends.refs e }

/-! ## The lifecycle -/

/-- The moves of `stats.state` within one allocation. -/
inductive Move : ServiceState → ServiceState → Prop
  | drain : Move .running .draining
  | fail : Move .running .failed
  | stop : Move .running .stopping
  | stopDraining : Move .draining .stopping
  | stopFailed : Move .failed .stopping
  | stopped : Move .stopping .stopped

def Lawful (s s' : State) : Prop :=
  s.allocated = true → s'.state = s.state ∨ Move s.state s'.state

theorem Lawful.of_eq (h : s'.state = s.state) : Lawful s s' := fun _ => .inl h

/-- What happens to the ready queue and to the listener in the hands of the worker. While the
service runs, listeners join the queue at its end, once, and leave it at its head; a listener
whose start fails is withdrawn. -/
inductive QueueStep (s s' : State) : Prop
  | keep (hlist : s'.readyList = s.readyList) (hentry : s'.entry = s.entry)
      (haccepts : s'.accepts = s.accepts)
  | push (e : ListenerId) (hnew : e ∉ s.readyList) (hlist : s'.readyList = s.readyList ++ [e])
      (hentry : s'.entry = s.entry) (haccepts : s'.accepts = s.accepts)
  | pop (e : ListenerId) (hnone : s.entry = none) (hlist : s.readyList = e :: s'.readyList)
      (hentry : s'.entry = some e) (haccepts : s'.accepts = s.accepts)
  | drop (e : ListenerId) (hentry : s.entry = some e) (hnone : s'.entry = none)
      (hlist : s'.readyList = s.readyList) (haccepts : s'.accepts = s.accepts)
      (hwhy : admissionAvailable s = false ∨ s.acceptQueue (s.listenerSock e) = [])
  | accept (e : ListenerId) (hentry : s.entry = some e) (hnone : s'.entry = none)
      (hlist : s'.readyList = if e ∈ s.readyList then s.readyList else s.readyList ++ [e])
      (haccepts : s'.accepts = Function.update s.accepts e (s.accepts e + 1))
  | withdraw (e : ListenerId) (hstart : s.starting = some e)
      (hlist : s'.readyList = s.readyList.erase e) (hentry : s'.entry = s.entry)
      (haccepts : s'.accepts = s.accepts)
  | off (hoff : s.running = false ∨ s'.running = false)

structure WorkerFailed (e : ListenerId) (s s' : State) : Prop where
  starting : s.starting = some e
  hooked : s.callbackInstalled e = true
  unhooked : s'.callbackInstalled e = false

structure Law (s s' : State) : Prop where
  state : Lawful s s'
  drained : s.allocated = true → s.drainReturned = true → s'.drainReturned = true
  tainted : s'.tainted = true → s.tainted = true ∨ ∃ e, WorkerFailed e s s' ∧ clonesWait e s = true
  queue : QueueStep s s'

/-- What the law speaks of. -/
def State.watched (s : State) :=
  (s.state, s.drainReturned, s.tainted, s.readyList, s.entry, s.accepts)

theorem Law.of_eq (h : s'.watched = s.watched) : Law s s' := by
  simp only [State.watched, Prod.mk.injEq] at h
  obtain ⟨hstate, hdrained, htainted, hlist, hentry, haccepts⟩ := h
  exact ⟨.of_eq hstate, fun _ hd => hdrained.trans hd, fun ht => .inl (htainted.symm.trans ht),
    .keep hlist hentry haccepts⟩

theorem Law.refl (s : State) : Law s s := .of_eq rfl

def workerContract : Contract State where
  rely := WorkerRely
  guar s s' := RequestRely s s' ∧ Law s s'
  refl := WorkerRely.refl
  trans := WorkerRely.trans

def requestContract : Contract State where
  rely := RequestRely
  guar s s' := WorkerRely s s' ∧ Law s s'
  refl := RequestRely.refl
  trans := RequestRely.trans

/-! ## Steps that leave the bridge to its sockets -/

/-- A step of the worker outside the bridge: it works on its own fields and on sockets, and
on its list of bridges only when the lock is free. -/
theorem RequestRely.of_worker (hrun : s.thread = .running)
    (hside : s'.toControlSide = s.toControlSide) (hcall : s'.call = s.call)
    (hbridge : Bridge.ControlRely s.bridge s'.bridge)
    (hlist : s.locked = true → s'.bridges = s.bridges)
    (hdrained : s.drained ≠ 0 → s'.drained ≠ 0) (hends : EndsKept s s') : RequestRely s s' where
  side := hside
  idle h := absurd hrun h
  quiet _ := ⟨hcall, hbridge⟩
  uncalled h := by
    rw [State.calls, hcall]
    exact h
  notifier := congrArg Bridge.Registry.completionNotify hbridge.registry
  bridges := hlist
  drained := hdrained
  ends := hends

theorem WorkerRely.of_control (hside : s'.toWorkerSide = s.toWorkerSide)
    (hcall : s'.call = s.call) (hbridge : Bridge.ControlRely s.bridge s'.bridge)
    (hbatch : s'.acceptBatch = s.acceptBatch)
    (hdial : ∀ e sk, s.publicSock = some sk → Dialable e sk s → Dialable e sk s') :
    WorkerRely s s' where
  work _ := hside
  batch _ := hbatch
  dial _ := hdial
  rest _ h := by
    rw [hside]
    exact h
  call _ := ⟨hcall, hbridge⟩
  uncalled h := by
    rw [State.calls, hcall]
    exact h

end Tcpcc.Runtime

import Tcpcc.Bridge.RegistrySteps

/-!
# The control-side operations keep the invariant

A session is retired only after events were turned off and awaited, its callbacks
restored and the ready queue cleared of it; between two of these blocks the dispatcher
does not undo what was achieved. Along the way each operation keeps account of the
sessions that are allocated: a start adds its own or none, a reap removes its own.
-/

namespace Tcpcc.Bridge
open Resumption State
open Function (update update_eq_self update_idem update_of_ne update_self)

variable {s s' : State} {x : SessionId} {op : Op} {live base : SessionId → Bool}

structure NoReap (s : State) : Prop where
  reaping : s.reaping = none
  cancelWait : s.cancelWait = none

theorem NoReap.of_registry (h : NoReap s) (hr : s'.toRegistry = s.toRegistry) : NoReap s' where
  reaping := hr ▸ h.reaping
  cancelWait := hr ▸ h.cancelWait

structure Calm (s : State) : Prop where
  hand : s.slotInHand = none
  connected : ∀ y, s.connecting y = false
  noReap : NoReap s

theorem Calm.of_registry (h : Calm s) (hr : s'.toRegistry = s.toRegistry) : Calm s' where
  hand := hr ▸ h.hand
  connected y := hr ▸ (h.connected y)
  noReap := h.noReap.of_registry hr

theorem Calm.frame (h : Calm s) (hhand : s'.slotInHand = s.slotInHand)
    (hconn : s'.connecting = s.connecting) (hreap : s'.reaping = s.reaping)
    (hwait : s'.cancelWait = s.cancelWait) : Calm s' where
  hand := hhand.trans h.hand
  connected y := (congrFun hconn y).trans (h.connected y)
  noReap := ⟨hreap.trans h.noReap.reaping, hwait.trans h.noReap.cancelWait⟩

theorem Calm.stable (h : Calm s) (hr : ControlRely s s') : Calm s' := h.of_registry hr.registry

/-- What a reap leaves behind: its result is the account of a session that is gone. -/
structure Reaped (x : SessionId) (result : Result) (cleanup : ℤ) (s : State) : Prop where
  limits : result.bufferLimit = bufferLimit ∧ result.totalBufferLimit = totalBufferLimit ∧
    result.sessionLimit = sessionLimit
  gone : s.allocated x = false
  reaps : s.reaps x = 1
  finished : s.finishedNotified x = true
  cleanup_le : cleanup ≤ 0
  status : result.status = if s.status x ≠ 0 then s.status x else cleanup
  sent : result.publicToBackendBytes = (s.flow x .publicToBackend).bytes
  received : result.backendToPublicBytes = (s.flow x .backendToPublic).bytes
  events : result.terminalEvents = s.terminalEvents x

theorem Reaped.stable {result : Result} {cleanup : ℤ} (h : Reaped x result cleanup s)
    (hr : ControlRely s s') : Reaped x result cleanup s' := by
  obtain ⟨hstatus, hflow, hevents⟩ := hr.gone x h.gone
  exact
    { limits := h.limits
      gone := hr.registry ▸ h.gone
      reaps := hr.registry ▸ h.reaps
      finished := hr.finished x h.finished
      cleanup_le := h.cleanup_le
      status := by rw [hstatus]; exact h.status
      sent := by rw [hflow]; exact h.sent
      received := by rw [hflow]; exact h.received
      events := h.events.trans hevents.symm }

def OutcomeOK : Outcome → State → Prop
  | .value _, s => Calm s
  | .started x handle, s => Calm s ∧ s.allocated x = true ∧ s.handle x = handle
  | .reaped x _ result cleanup, s => Calm s ∧ Reaped x result cleanup s

theorem OutcomeOK.calm {a : Outcome} (h : OutcomeOK a s) : Calm s := by
  cases a with
  | value => exact h
  | started | reaped => exact h.1

theorem OutcomeOK.stable (a : Outcome) (s s' : State) (h : OutcomeOK a s) (hr : ControlRely s s') :
    OutcomeOK a s' := by
  cases a with
  | value => exact Calm.stable h hr
  | started x handle =>
    exact ⟨h.1.stable hr, hr.registry ▸ h.2.1, hr.registry ▸ h.2.2⟩
  | reaped => exact ⟨h.1.stable hr, h.2.stable hr⟩

/-- What the caller of an operation learns, given the sessions `live` that were allocated
when it was called. -/
def Answered (live : SessionId → Bool) : Op → Outcome → State → Prop
  | .start _, .value ret, s => ret ≠ 0 ∧ s.allocated = live
  | .start sk, .started x _, s =>
    live x = false ∧ s.allocated = update live x true ∧ s.publicSock x = some sk
  | .start _, .reaped .., _ => False
  | .join _, .reaped x .., _ => live x = true
  | .joinResult _, .reaped x .., _ => live x = true
  | .tryJoinResult h, .value ret, s =>
    ret = -EAGAIN ∨ ret = -ENOENT ∧ ∀ x, s.allocated x = true → s.handle x ≠ h
  | .tryJoinResult h, .reaped x ret _ _, s =>
    ret = 0 ∧ (∀ y, s.allocated y = true → s.handle y ≠ h) ∧ live x = true
  | .tryJoinResult _, .started .., _ => False
  | .cancelSession h, _, s =>
    ∀ x, s.allocated x = true → s.handle x = h → s.stopping x = true
  | .cancel, _, s => ∀ x, s.allocated x = false
  | .setCompletionNotifier n, a, s =>
    a = .value (-EBUSY) ∨ a = .value 0 ∧ s.completionNotify = some n ∧ ∀ x, s.allocated x = false
  | .clearCompletionNotifier n, _, s =>
    s.allocated = live ∧ ((∀ x, s.allocated x = false) → s.completionNotify ≠ some n)
  | _, _, _ => True

theorem Answered.stable (a : Outcome) (h : Answered live op a s) (hr : ControlRely s s') :
    Answered live op a s' := by
  have ha : s'.allocated = s.allocated := congrArg Registry.allocated hr.registry
  have hh : s'.handle = s.handle := congrArg Registry.handle hr.registry
  have hp : s'.publicSock = s.publicSock := congrArg Registry.publicSock hr.registry
  have hn : s'.completionNotify = s.completionNotify :=
    congrArg Registry.completionNotify hr.registry
  cases op with
  | start =>
    cases a with
    | value => simpa only [Answered, ha] using h
    | started => simpa only [Answered, ha, hp] using h
    | reaped => exact h
  | tryJoinResult =>
    cases a with
    | value => simpa only [Answered, ha, hh] using h
    | started => exact h
    | reaped => simpa only [Answered, ha, hh] using h
  | cancelSession handle =>
    intro y hy hhandle
    rw [ha] at hy
    rw [hh] at hhandle
    exact hr.stopping y (h y hy hhandle)
  | cancel => simpa only [Answered, ha] using h
  | setCompletionNotifier | clearCompletionNotifier => simpa only [Answered, ha, hn] using h
  | join | joinResult => cases a <;> exact h
  | active => trivial

def Refused (old : Option ℕ) : Op → Outcome → State → Prop
  | .setCompletionNotifier _, .value ret, s => ret ≠ 0 → s.completionNotify = old
  | _, _, _ => True

theorem Refused.stable {old : Option ℕ} {a : Outcome} (h : Refused old op a s)
    (hr : ControlRely s s') : Refused old op a s' := by
  have hn : s'.completionNotify = s.completionNotify :=
    congrArg Registry.completionNotify hr.registry
  cases op with
  | setCompletionNotifier n =>
    cases a with
    | value ret => exact fun hret => hn.trans (h hret)
    | started | reaped => trivial
  | _ => trivial

/-! ## Calls that leave the state alone -/

theorem ask_safe {P : State → Prop} {f : State → Reply → ℤ}
    (hstable : ∀ s s', P s → ControlRely s s' → P s') (h : P s) :
    Safe Inv (controlContract base op) (fun _ t => P t)
      (Prog.await (fun _ r => r.status) fun s r => (f s r, s)) s :=
  Safe.await fun t hr hi _ _ => ⟨hi, (Unmoved.refl t).guar, hstable s t h hr⟩

structure Among (live : SessionId → Bool) (s : State) : Prop where
  calm : Calm s
  same : s.allocated = live

theorem Among.of_registry (h : Among live s) (hr : s'.toRegistry = s.toRegistry) :
    Among live s' where
  calm := h.calm.of_registry hr
  same := hr ▸ h.same

theorem Among.stable (s s' : State) (h : Among live s) (hr : ControlRely s s') : Among live s' :=
  h.of_registry hr.registry

/-! ## The dispatcher task -/

structure Booted (live : SessionId → Bool) (s : State) : Prop extends Among live s where
  booted : s.initialized = true

theorem Booted.stable (s s' : State) (h : Booted live s) (hr : ControlRely s s') :
    Booted live s' :=
  ⟨Among.stable s s' h.toAmong hr, hr.registry ▸ h.booted⟩

theorem Inv.initialize (h : Inv s) : Inv { s with initialized := true } :=
  { h with active := { h.active with dormant := by simp } }

theorem startDispatcher_safe (h : Among live s) :
    Safe Inv (controlContract live op) (fun _ t => Booted live t) startDispatcher s := by
  have hprepare : Safe Inv (controlContract live op) (fun _ t => Booted live t)
      (Prog.block fun s (_ : Reply) => prepareDispatcher s) s := by
    refine Safe.block fun t hr hi _ => ?_
    have ht := Among.stable s t h hr
    have hboot := hi.initialize
    simp only [prepareDispatcher]
    split
    · exact ⟨hboot, ControlGuar.of_view rfl rfl rfl, ⟨ht.calm.frame rfl rfl rfl rfl, ht.same⟩, rfl⟩
    · split
      · exact ⟨{ hboot with }, ControlGuar.of_view rfl rfl rfl,
          ⟨ht.calm.frame rfl rfl rfl rfl, ht.same⟩, rfl⟩
      · exact ⟨{ hboot with }, ControlGuar.of_view rfl rfl rfl,
          ⟨ht.calm.frame rfl rfl rfl rfl, ht.same⟩, rfl⟩
  refine Safe.seq hprepare fun spawn t ht => ?_
  cases spawn with
  | status ret => exact ht
  | create =>
    refine Safe.await fun u hr hi r _ => ?_
    have hu := Booted.stable t u ht hr
    simp only [spawnDispatcher]
    split
    · exact ⟨{ hi with }, ControlGuar.of_view rfl rfl rfl,
        ⟨hu.calm.frame rfl rfl rfl rfl, hu.same⟩, hu.booted⟩
    · exact ⟨{ hi with }, ControlGuar.of_view rfl rfl rfl,
        ⟨hu.calm.frame rfl rfl rfl rfl, hu.same⟩, hu.booted⟩

/-! ## Starting a session -/

structure InHand (live : SessionId → Bool) (id : SlotId) (s : State) : Prop where
  hand : s.slotInHand = some id
  connected : ∀ y, s.connecting y = false
  noReap : NoReap s
  same : s.allocated = live
  booted : s.initialized = true

theorem InHand.stable {id : SlotId} (h : InHand live id s) (hr : ControlRely s s') :
    InHand live id s' where
  hand := hr.registry ▸ h.hand
  connected y := hr.registry ▸ (h.connected y)
  noReap := h.noReap.of_registry hr.registry
  same := hr.registry ▸ h.same
  booted := hr.registry ▸ h.booted

def SlotPost (live : SessionId → Bool) : Except ℤ SlotId → State → Prop
  | .error ret, s => ret ≠ 0 ∧ Among live s
  | .ok id, s => InHand live id s

def ChoicePost (live : SessionId → Bool) : SlotChoice → State → Prop
  | .error ret, s => ret ≠ 0 ∧ Among live s
  | .slot id, s => InHand live id s
  | .create, s => Booted live s

theorem allocateSlot_safe (h : Booted live s) :
    Safe Inv (controlContract live op) (SlotPost live) allocateSlot s := by
  have hreuse : Safe Inv (controlContract live op) (ChoicePost live)
      (Prog.block fun s (_ : Reply) => reuseSlot s) s := by
    refine Safe.block fun t hr hi _ => ?_
    have ht := Booted.stable s t h hr
    simp only [reuseSlot]
    split
    · refine ⟨hi, (Unmoved.refl t).guar, ?_, ht.toAmong⟩
      split
      · decide
      · assumption
    · cases hfree : t.freeSlots with
      | nil => exact ⟨hi, (Unmoved.refl t).guar, ht⟩
      | cons id rest =>
        have hslots := hi.slots
        rw [hfree, ht.calm.hand] at hslots
        exact ⟨{ hi with slots := hslots.takeFree }, ControlGuar.of_view rfl rfl rfl,
          rfl, ht.calm.connected, ⟨ht.calm.noReap.reaping, ht.calm.noReap.cancelWait⟩, ht.same,
          ht.booted⟩
  refine Safe.seq hreuse fun choice t ht => ?_
  cases choice with
  | error ret => exact ht
  | slot id => exact ht
  | create =>
    refine Safe.await fun u hr hi r _ => ?_
    have hu := Booted.stable t u ht hr
    simp only [createSlot]
    split
    · rename_i hneg
      exact ⟨hi, (Unmoved.refl u).guar, by omega, hu.toAmong⟩
    · split
      · rename_i hroom
        have hslots := hi.slots
        rw [hu.calm.hand] at hslots
        exact ⟨{ hi with
            slots := hslots.newSlot
            names := hi.names.newSlot
            tenants := { hi.tenants with bound := Nat.lt_succ_iff.mp hroom } },
          ControlGuar.of_view rfl rfl rfl, rfl, hu.calm.connected,
          ⟨hu.calm.noReap.reaping, hu.calm.noReap.cancelWait⟩, hu.same, hu.booted⟩
      · exact ⟨hi, (Unmoved.refl u).guar, by decide, hu.toAmong⟩

structure Starting (live : SessionId → Bool) (sk : SockId) (x : SessionId) (s : State) : Prop where
  hand : s.slotInHand = none
  fresh : live x = false
  same : s.allocated = update live x true
  connecting : s.connecting x = true
  others : ∀ y, y ≠ x → s.connecting y = false
  noReap : NoReap s
  sock : s.publicSock x = some sk

section Starting
variable {sk : SockId}

theorem Starting.allocated (h : Starting live sk x s) : s.allocated x = true := by
  rw [h.same, update_self]

theorem Starting.of_registry (h : Starting live sk x s) (hr : s'.toRegistry = s.toRegistry) :
    Starting live sk x s' where
  hand := hr ▸ h.hand
  fresh := h.fresh
  same := hr ▸ h.same
  connecting := hr ▸ h.connecting
  others y hy := hr ▸ (h.others y hy)
  noReap := h.noReap.of_registry hr
  sock := hr ▸ h.sock

theorem Starting.frame (h : Starting live sk x s) (hhand : s'.slotInHand = s.slotInHand)
    (hsame : s'.allocated = s.allocated) (hconn : s'.connecting = s.connecting)
    (hreap : s'.reaping = s.reaping) (hwait : s'.cancelWait = s.cancelWait)
    (hsock : s'.publicSock = s.publicSock) : Starting live sk x s' where
  hand := hhand.trans h.hand
  fresh := h.fresh
  same := hsame.trans h.same
  connecting := (congrFun hconn x).trans h.connecting
  others y hy := (congrFun hconn y).trans (h.others y hy)
  noReap := ⟨hreap.trans h.noReap.reaping, hwait.trans h.noReap.cancelWait⟩
  sock := (congrFun hsock x).trans h.sock

theorem Starting.stable (s s' : State) (h : Starting live sk x s) (hr : ControlRely s s') :
    Starting live sk x s' := h.of_registry hr.registry

theorem Starting.not_running (h : Starting live sk x s) (hi : Inv s) : s.running x = false := by
  cases hrun : s.running x with
  | false => rfl
  | true => exact absurd ((hi.phase.isRunning x hrun).2.1.symm.trans h.connecting) (by simp)

theorem allocateSession_safe (sk : SockId) {id : SlotId} (h : InHand live id s) :
    Safe Inv (controlContract live (.start sk))
      (fun session t => match session with
        | none => Among live t
        | some x => Starting live sk x t)
      (Prog.await (fun _ r => r.status) (allocateSession sk id)) s := by
  refine Safe.await fun t hr hi r _ => ?_
  have ht := h.stable hr
  by_cases hneg : r.ret < 0
  · simp only [allocateSession, if_pos hneg]
    have hslots := hi.slots
    rw [ht.hand] at hslots
    exact ⟨{ hi with slots := hslots.putFree }, ControlGuar.of_view rfl rfl rfl,
      ⟨rfl, ht.connected, ht.noReap.reaping, ht.noReap.cancelWait⟩, ht.same⟩
  · have hguar : ControlGuar live (.start sk) t (allocateSession sk id t r).2 :=
      ht.same ▸ ControlGuar.allocateSession hi hneg
    refine ⟨hi.allocateSession ht.hand ht.booted hneg, hguar, ?_⟩
    have hfresh : t.allocated t.nextSession = false := hi.unseen.1
    simp only [allocateSession, if_neg hneg]
    exact
      { hand := rfl
        fresh := by rw [← ht.same]; exact hfresh
        same := by rw [← ht.same]
        connecting := by simp
        others := fun y hy => by simpa [hy] using ht.connected y
        noReap := ⟨ht.noReap.reaping, ht.noReap.cancelWait⟩
        sock := by simp }

structure EventsOff (x : SessionId) (busy : Bool) (s : State) : Prop where
  off : s.acceptEvents x = false
  idle : busy = false → s.dispatching ≠ some x

theorem EventsOff.stable {busy : Bool} (h : EventsOff x busy s) (hr : ControlRely s s') :
    EventsOff x busy s' where
  off := hr.registry ▸ h.off
  idle hb := hr.silent x ⟨h.off, h.idle hb⟩

theorem disableEvents_spec (hi : Inv s) (r : Reply) :
    Inv (disableEvents x s r).2 ∧ Unmoved s (disableEvents x s r).2 ∧
      EventsOff x (disableEvents x s r).1.2 (disableEvents x s r).2 := by
  refine ⟨{ hi with }, Unmoved.of_view rfl rfl rfl, ?_, ?_⟩
  · simp [disableEvents]
  · intro hbusy hd
    have hrefs := hi.refs.refs x
    rw [if_pos (show s.dispatching = some x from hd)] at hrefs
    simp [disableEvents, hrefs] at hbusy

theorem awaitEvents_safe {P : State → Prop} {busy : Bool}
    (hstable : ∀ s s', P s → ControlRely s s' → P s')
    (hidle : ∀ s (f : SessionId → Completion), P s → P { s with eventIdle := f })
    (h : P s) (hoff : EventsOff x busy s) :
    Safe Inv (controlContract base op) (fun _ t => P t ∧ Silent x t) (awaitEvents x busy) s := by
  unfold awaitEvents
  cases busy with
  | false => exact ⟨h, hoff.off, hoff.idle rfl⟩
  | true =>
    refine Safe.await fun t hr hi _ hready => ?_
    have ht := hstable s t h hr
    have hnot : t.dispatching ≠ some x := fun hd => by
      simp [hi.refs.idle x hd] at hready
    refine ⟨?_, ControlGuar.of_view rfl rfl rfl, hidle t _ ht, (hoff.stable hr).off, hnot⟩
    exact
      { hi with
        refs :=
          { hi.refs with
            idle := by
              intro y hy
              have hxy : y ≠ x := fun he => hnot (he ▸ hy)
              simpa [hxy] using hi.refs.idle y hy } }

theorem closeHost_spec (hi : Inv s) (r : Reply) :
    Inv (closeHost x s r).2 ∧ Unmoved s (closeHost x s r).2 ∧
      ∃ fd use, (closeHost x s r).2 = { s with hostFd := fd, host := use } := by
  unfold closeHost
  split
  · exact ⟨{ hi with }, Unmoved.of_view rfl rfl rfl, _, _, rfl⟩
  · exact ⟨hi, Unmoved.refl s, s.hostFd, s.host, rfl⟩

structure Failed (live : SessionId → Bool) (sk : SockId) (x : SessionId) (s : State) : Prop
    extends Starting live sk x s where
  silent : Silent x s
  detached : Detached x s

theorem releaseFailedStart_spec (hi : Inv s) (h : Failed live sk x s) :
    Inv (releaseFailedStart x s) ∧ ControlGuar live (.start sk) s (releaseFailedStart x s) ∧
      Among live (releaseFailedStart x s) := by
  have hrun := h.toStarting.not_running hi
  have hunqueue := hi.unqueueSession hrun
  have hretirable : Retirable x (unqueueSession x s) :=
    ⟨h.allocated, hrun, h.silent.2, h.detached, by simp [unqueueSession], h.hand,
      h.noReap.cancelWait⟩
  have hretire := hunqueue.retire hretirable
  have hback : (releaseFailedStart x s).allocated = live := by
    show update s.allocated x false = live
    rw [h.same, update_idem, ← h.fresh, update_eq_self]
  refine ⟨?_, ControlGuar.releaseFailedStart hrun h.sock hback,
    ⟨h.hand, fun y => ?_, h.noReap.reaping, h.noReap.cancelWait⟩, hback⟩
  · have hgone : ∀ y, (retire x (unqueueSession x s)).allocated y = true → y ≠ x :=
      fun y hy he => by simp [retire, he] at hy
    have hstop : ∀ y, y ≠ x → update s.stopping x false y = s.stopping y :=
      fun y hy => by simp [hy]
    exact
      { hretire with
        phase :=
          { hretire.phase with
            isConnecting := by
              intro y hy
              obtain ⟨ha, hs, hrest⟩ := hretire.phase.isConnecting y hy
              exact ⟨ha, (hstop y (hgone y ha)).trans hs, hrest⟩ }
        status :=
          { hretire.status with
            stopped := fun y ha hs =>
              hretire.status.stopped y ha ((hstop y (hgone y ha)).symm.trans hs) }
        settled :=
          { hretire.settled with
            settled := fun y hr hs =>
              hretire.settled.settled y hr
                ((hstop y (hgone y (hretire.phase.isRunning y hr).1)).symm.trans hs) } }
  · by_cases hxy : y = x
    · simp [releaseFailedStart, retire, hxy]
    · simpa [releaseFailedStart, retire, unqueueSession, hxy] using h.others y hxy

theorem failStart_safe {ret : ℤ} (hret : ret ≠ 0) (h : Starting live sk x s) :
    Safe Inv (controlContract live (.start sk))
      (fun a t => OutcomeOK a t ∧ Answered live (.start sk) a t)
      (failStart x ret) s := by
  have hdisable : Safe Inv (controlContract live (.start sk))
      (fun a t => (Starting live sk x t ∧ Detached x t) ∧ EventsOff x a.2 t)
      (Prog.await (fun _ r => r.status) fun s r => disableEvents x (restorePublicCallbacks x s) r)
      s := by
    refine Safe.await fun t hr hi r _ => ?_
    have ht := Starting.stable s t h hr
    obtain ⟨hrestore, hguar, hdetached⟩ := restorePublicCallbacks_spec (x := x) hi
    obtain ⟨hinv, hguar', hoff⟩ := disableEvents_spec (x := x) hrestore r
    refine ⟨hinv, (hguar.trans hguar').guar, ⟨?_, hdetached⟩, hoff⟩
    obtain ⟨f, i, hsame⟩ := restorePublicCallbacks_eq x t
    rw [hsame]
    exact ht.frame rfl rfl rfl rfl rfl rfl
  refine Safe.seq hdisable fun a t ht => ?_
  refine Safe.seq (awaitEvents_safe (P := fun t => Starting live sk x t ∧ Detached x t)
    (fun s s' hP hr => ⟨Starting.stable s s' hP.1 hr, hr.isDetached hP.2⟩)
    (fun s f hP => ⟨hP.1.of_registry rfl, hP.2⟩) ht.1 ht.2) fun _ u hu => ?_
  have hclose : Safe Inv (controlContract live (.start sk)) (fun _ t => Failed live sk x t)
      (Prog.await (fun _ r => r.status) (closeHost x)) u := by
    refine Safe.await fun v hr hi r _ => ?_
    obtain ⟨hinv, hguar, fd, use, hfd⟩ := closeHost_spec (x := x) hi r
    refine ⟨hinv, hguar.guar, ?_⟩
    have hv := Starting.stable u v hu.1.1 hr
    rw [hfd]
    exact ⟨hv.frame rfl rfl rfl rfl rfl rfl, hr.isSilent hu.2, hr.isDetached hu.1.2⟩
  refine Safe.seq hclose fun _ v hv => ?_
  refine Safe.block fun w hr hi _ => ?_
  have hw : Failed live sk x w :=
    ⟨Starting.stable v w hv.toStarting hr, hr.isSilent hv.silent, hr.isDetached hv.detached⟩
  obtain ⟨hinv, hguar, hamong⟩ := releaseFailedStart_spec hi hw
  exact ⟨hinv, hguar, hamong.calm, hret, hamong.same⟩

theorem connect_safe (h : Starting live sk x s) :
    Safe Inv (controlContract live op) (fun _ t => Starting live sk x t) (connect x) s := by
  have hadd : Safe Inv (controlContract live op) (fun _ t => Starting live sk x t)
      (Prog.await (fun _ r => r.status) fun s (r : Reply) => (r.ret, if r.ret = 0 then
        { s with
          registered := update s.registered x true
          host := update s.host x { s.host x with adds := (s.host x).adds + 1 } }
        else s)) s := by
    refine Safe.await fun t hr hi r _ => ?_
    have ht := Starting.stable s t h hr
    simp only
    split
    · exact ⟨{ hi with }, ControlGuar.of_view rfl rfl rfl, ht.frame rfl rfl rfl rfl rfl rfl⟩
    · exact ⟨hi, (Unmoved.refl t).guar, ht⟩
  refine Safe.seq hadd fun ret t ht => ?_
  split
  · exact ht
  refine Safe.seq (ask_safe Starting.stable ht) fun ret u hu => ?_
  split
  · exact hu
  have hwait : Safe Inv (controlContract live op) (fun _ t => Starting live sk x t)
      (awaitConnect x) u := by
    refine Safe.await fun v hr hi r _ => ?_
    have hv := Starting.stable u v hu hr
    split
    · exact ⟨{ hi with }, ControlGuar.of_view rfl rfl rfl, hv.of_registry rfl⟩
    · exact ⟨hi, (Unmoved.refl v).guar, hv⟩
  refine Safe.seq hwait fun answer v hv => ?_
  cases answer with
  | timeout => exact hv
  | ready => exact ask_safe Starting.stable hv

theorem openSession_safe (h : Starting live sk x s) :
    Safe Inv (controlContract live (.start sk))
      (fun a t => OutcomeOK a t ∧ Answered live (.start sk) a t) (openSession sk x) s := by
  have hsocket : Safe Inv (controlContract live (.start sk)) (fun _ t => Starting live sk x t)
      (Prog.block fun s (r : Reply) => (r.ret, { s with
        hostFd := update s.hostFd x r.ret
        host := if r.ret < 0 then s.host
          else update s.host x { s.host x with opens := (s.host x).opens + 1 } })) s := by
    refine Safe.block fun t hr hi r => ?_
    have ht := Starting.stable s t h hr
    exact ⟨{ hi with }, ControlGuar.of_view rfl rfl rfl, ht.frame rfl rfl rfl rfl rfl rfl⟩
  refine Safe.seq hsocket fun fd t ht => ?_
  split
  case isTrue hneg => exact failStart_safe (by omega) ht
  refine Safe.seq (ask_safe Starting.stable ht) fun ret t ht => ?_
  split
  case isTrue hret => exact failStart_safe hret ht
  refine Safe.seq (connect_safe ht) fun ret t ht => ?_
  split
  case isTrue hret => exact failStart_safe hret ht
  have hinstall : Safe Inv (controlContract live (.start sk)) (fun _ t => Starting live sk x t)
      (Prog.block fun s (_ : Reply) => installPublicCallbacks x sk s) t := by
    refine Safe.block fun u hr hi _ => ?_
    have hu := Starting.stable t u ht hr
    refine ⟨hi.installPublicCallbacks hu.allocated hu.sock,
      (Unmoved.installPublicCallbacks hu.sock).guar, ?_⟩
    unfold installPublicCallbacks
    split
    · exact hu
    · exact hu.frame rfl rfl rfl rfl rfl rfl
  refine Safe.seq hinstall fun ret u hu => ?_
  split
  case isTrue hret => exact failStart_safe hret hu
  refine Safe.seq (ask_safe Starting.stable hu) fun ret u hu => ?_
  split
  case isTrue hret => exact failStart_safe hret hu
  refine Safe.block fun v hr hi _ => ?_
  have hv := Starting.stable u v hu hr
  refine ⟨hi.startRunning hv.connecting, (Unmoved.startRunning (hv.not_running hi)).guar,
    ⟨⟨hv.hand, fun y => ?_, hv.noReap.reaping, hv.noReap.cancelWait⟩, hv.allocated, rfl⟩, hv.fresh,
    hv.same, hv.sock⟩
  by_cases hxy : y = x
  · simp [startRunning, queueSession, hxy]
  · simpa [startRunning, queueSession, hxy] using hv.others y hxy

theorem start_safe (h : Among live s) :
    Safe Inv (controlContract live (.start sk))
      (fun a t => OutcomeOK a t ∧ Answered live (.start sk) a t) (start sk) s := by
  refine Safe.seq (startDispatcher_safe h) fun ret t ht => ?_
  split
  case isTrue hret => exact ⟨ht.calm, hret, ht.same⟩
  refine Safe.seq (allocateSlot_safe ht) fun choice u hu => ?_
  cases choice with
  | error ret => exact ⟨hu.2.calm, hu.1, hu.2.same⟩
  | ok id =>
    refine Safe.seq (allocateSession_safe sk hu) fun session v hv => ?_
    cases session with
    | none => exact ⟨hv.calm, by decide, hv.same⟩
    | some x => exact openSession_safe hv

end Starting

/-! ## Reaping a session -/

/-- A finished session that an operation is taking down, among the sessions `live` with
their handles `names`. -/
structure Closing (live : SessionId → Bool) (names : SessionId → ℤ) (x : SessionId) (s : State) :
    Prop where
  hand : s.slotInHand = none
  connected : ∀ y, s.connecting y = false
  taken : s.reaping = some x
  unwaited : s.cancelWait = none
  same : s.allocated = live
  names : s.handle = names
  member : live x = true
  finished : s.finishedNotified x = true

section Reap
variable {names : SessionId → ℤ}

theorem Closing.of_registry (h : Closing live names x s) (hr : s'.toRegistry = s.toRegistry)
    (hf : s'.finishedNotified x = true) : Closing live names x s' where
  hand := hr ▸ h.hand
  connected y := hr ▸ (h.connected y)
  taken := hr ▸ h.taken
  unwaited := hr ▸ h.unwaited
  same := hr ▸ h.same
  names := hr ▸ h.names
  member := h.member
  finished := hf

theorem Closing.stable (s s' : State) (h : Closing live names x s) (hr : ControlRely s s') :
    Closing live names x s' := h.of_registry hr.registry (hr.finished x h.finished)

theorem not_running_of_finished (hi : Inv s) (hf : s.finishedNotified x = true) :
    s.running x = false := by
  cases hrun : s.running x with
  | false => rfl
  | true => exact absurd ((hi.phase.isRunning x hrun).2.2.symm.trans hf) (by simp)

structure Released (live : SessionId → Bool) (names : SessionId → ℤ) (x : SessionId) (s : State) :
    Prop extends Closing live names x s where
  quiet : Quiet x s

theorem Released.stable (s s' : State) (h : Released live names x s) (hr : ControlRely s s') :
    Released live names x s' :=
  ⟨Closing.stable s s' h.toClosing hr, hr.isQuiet h.quiet⟩

theorem detach_safe (h : Closing live names x s) (hsilent : Silent x s) :
    Safe Inv (controlContract base op) (fun closed t => Released live names x t ∧ closed ≤ 0)
      (Prog.await (fun _ r => r.status) fun s r =>
        closeHost x (unqueueSession x (restorePublicCallbacks x s)) r) s := by
  refine Safe.await fun t hr hi r hready => ?_
  have hstatus : r.ret ≤ 0 := by simpa [Reply.status] using hready
  have ht := Closing.stable s t h hr
  obtain ⟨hrestore, hguar, hdetached⟩ := restorePublicCallbacks_spec (x := x) hi
  obtain ⟨f, i, hsame⟩ := restorePublicCallbacks_eq x t
  rw [hsame] at hrestore hguar hdetached ⊢
  have hrun : t.running x = false := not_running_of_finished hi ht.finished
  have hunqueue := hrestore.unqueueSession hrun
  have hguar' : Unmoved { t with sock := f, publicCallbacksInstalled := i }
      (unqueueSession x { t with sock := f, publicCallbacksInstalled := i }) :=
    Unmoved.unqueueSession hrun
  obtain ⟨hinv, hguar'', fd, use, hfd⟩ := closeHost_spec (x := x) hunqueue r
  refine ⟨hinv, ((hguar.trans hguar').trans hguar'').guar, ?_, ?_⟩
  · rw [hfd]
    have hquiet := hr.isSilent hsilent
    exact ⟨⟨ht.hand, ht.connected, ht.taken, ht.unwaited, ht.same, ht.names, ht.member,
        ht.finished⟩,
      ⟨ht.finished, hquiet, hdetached, by simp [unqueueSession]⟩⟩
  · unfold closeHost
    split
    · exact hstatus
    · exact le_refl 0

theorem shutdown_safe (h : Released live names x s) :
    Safe Inv (controlContract base op) (fun _ t => Released live names x t)
      (Prog.block fun s (_ : Reply) =>
        ((), match s.publicSock x with | none => s | some sk => sockShutdown sk s)) s := by
  refine Safe.block fun t hr hi _ => ?_
  have ht := Released.stable s t h hr
  cases hsk : t.publicSock x with
  | none => exact ⟨hi, (Unmoved.refl t).guar, ht⟩
  | some sk =>
    have hkept : ControlRely t (sockShutdown sk t) := ControlRely.setSock (.inl rfl)
    exact ⟨hi.setSock (.inl rfl), (Unmoved.sockShutdown hsk).guar, Released.stable _ _ ht hkept⟩

theorem OnceOK.reap {allocated finished armed : SessionId → Bool} {credits : SessionId → Completion}
    {wait : Option SessionId} {reaps signals notices : SessionId → ℕ} {n : ℕ}
    (h : OnceOK allocated finished armed credits (some x) wait reaps signals notices n)
    (hx : allocated x = false) (hzero : reaps x = 0) (hlt : x < n) :
    OnceOK allocated finished armed credits none wait (update reaps x (reaps x + 1))
      signals notices n :=
  { h with
    credit := by
      intro y hy hf
      have hne : some x ≠ some y := fun he => by simp [← Option.some.inj he, hx] at hy
      rw [h.credit y hy hf, if_neg hne]
      simp
    taken := by simp
    reaped := by
      intro y
      by_cases hy : y = x
      · simp [hy, hzero]
      · simpa [hy] using h.reaped y
    unreaped := by
      intro y hy
      have hne : y ≠ x := fun he => by simp [he, hx] at hy
      simpa [hne] using h.unreaped y hy
    fresh := by
      intro y hy
      have hne : y ≠ x := Nat.ne_of_gt (Nat.lt_of_lt_of_le hlt hy)
      simpa [hne] using h.fresh y hy
    waiting := fun y hy => ⟨(h.waiting y hy).1, rfl⟩ }

theorem retire_spec {sk : SockId} (hop : ∀ k, op ≠ .start k) (hi : Inv s)
    (h : Released live names x s) (hpub : s.publicSock x = some sk) :
    let t : State := { retire x (sockRelease sk s) with
      reaping := none, reaps := update s.reaps x (s.reaps x + 1) }
    Inv t ∧ ControlGuar base op s t ∧ Calm t ∧ t.reaps x = 1 := by
  have hrun : s.running x = false := not_running_of_finished hi h.finished
  have ha : s.allocated x = true := by rw [h.same]; exact h.member
  have hkept : ControlRely s (sockRelease sk s) := ControlRely.setSock (.inl rfl)
  have hquiet := hkept.isQuiet h.quiet
  have hretirable : Retirable x (sockRelease sk s) :=
    ⟨ha, hrun, hquiet.silent.2, hquiet.detached, hquiet.unqueued, h.hand, h.unwaited⟩
  have hinv : Inv (sockRelease sk s) := hi.setSock (.inl rfl)
  have hretire := hinv.retire hretirable
  have hzero : s.reaps x = 0 := hi.once.unreaped x ha
  have honce := hretire.once
  rw [show (retire x (sockRelease sk s)).reaping = some x from h.taken] at honce
  refine ⟨?_, ControlGuar.reap _ hop ha hrun h.finished hpub,
    ⟨h.hand, fun z => ?_, rfl, h.unwaited⟩, by simp [hzero]⟩
  · exact { hretire with once := honce.reap (by simp [retire]) hzero (hi.active.fresh x ha) }
  · by_cases hz : z = x
    · simp [retire, hz]
    · simpa [retire, sockRelease, setSock, hz] using h.connected z

theorem reap_safe (hop : ∀ k, op ≠ .start k) (ret : ℤ → ℤ) (h : Closing live names x s) :
    Safe Inv (controlContract base op)
      (fun a t => OutcomeOK a t ∧
        (∃ result cleanup, a = .reaped x (ret result.status) result cleanup) ∧
        t.allocated = update live x false ∧ t.handle = names) (reap x ret) s := by
  have hdisable : Safe Inv (controlContract base op)
      (fun a t => (Closing live names x t ∧ a.1 ≤ 0) ∧ EventsOff x a.2 t)
      (Prog.await (fun _ r => r.status) (disableEvents x)) s := by
    refine Safe.await fun t hr hi r hready => ?_
    have hstatus : r.ret ≤ 0 := by simpa [Reply.status] using hready
    have ht := Closing.stable s t h hr
    obtain ⟨hinv, hguar, hoff⟩ := disableEvents_spec (x := x) hi r
    refine ⟨hinv, hguar.guar, ⟨⟨ht.hand, ht.connected, ht.taken, ht.unwaited, ht.same, ht.names,
      ht.member, ht.finished⟩, ?_⟩, hoff⟩
    simp only [disableEvents]
    split
    · exact hstatus
    · exact le_refl 0
  refine Safe.seq hdisable ?_
  rintro ⟨cleanup, busy⟩ t ⟨⟨ht, hcleanup⟩, hoff⟩
  refine Safe.seq (awaitEvents_safe (P := Closing live names x) Closing.stable
    (fun s f hP => hP.of_registry rfl hP.finished) ht hoff) fun _ u hu => ?_
  refine Safe.seq (detach_safe hu.1 hu.2) fun closed v hv => ?_
  refine Safe.seq (shutdown_safe hv.1) fun _ w hw => ?_
  have hle : (if cleanup = 0 then closed else cleanup) ≤ 0 := by
    split
    · exact hv.2
    · exact hcleanup
  refine Safe.block fun y hr hi _ => ?_
  have hy := Released.stable w y hw hr
  obtain ⟨sk, hsk⟩ := hi.tenants.housed x (by rw [hy.same]; exact hy.member)
  obtain ⟨hinv, hguar, hcalm, hreaps⟩ := retire_spec hop hi hy hsk
  simp only [hsk]
  refine ⟨hinv, hguar, ⟨hcalm, ?_⟩, ⟨_, _, rfl⟩, ?_, hy.names⟩
  · exact ⟨⟨rfl, rfl, rfl⟩, by simp [retire], hreaps, hy.finished, hle, rfl, rfl, rfl, rfl⟩
  · show update y.allocated x false = _
    rw [hy.same]

end Reap

/-! ## Handles -/

theorem makeHandle_decode (index generation : ℕ) (hindex : index + 1 ≤ sessionLimit) :
    (makeHandle index generation).toNat &&& handleSlotMask = index + 1 ∧
      (makeHandle index generation).toNat >>> handleSlotBits = generation := by
  have hlt : index + 1 < 2 ^ handleSlotBits := by
    simp only [sessionLimit] at hindex
    simp only [handleSlotBits]
    omega
  have hsum : (makeHandle index generation).toNat =
      generation * 2 ^ handleSlotBits + (index + 1) := by
    simp only [makeHandle, Int.toNat_natCast]
    rw [← Nat.shiftLeft_add_eq_or_of_lt hlt, Nat.shiftLeft_eq]
  have hmask : handleSlotMask = 2 ^ handleSlotBits - 1 := by decide
  rw [hsum, hmask, Nat.and_two_pow_sub_one_eq_mod, Nat.shiftRight_eq_div_pow]
  refine ⟨?_, ?_⟩
  · rw [Nat.mul_comm, Nat.mul_add_mod, Nat.mod_eq_of_lt hlt]
  · rw [Nat.mul_comm, Nat.mul_add_div (Nat.two_pow_pos _), Nat.div_eq_of_lt hlt, Nat.add_zero]

theorem findHandle_some {h : ℤ} (hx : findHandle h s = some x) :
    s.allocated x = true ∧ s.handle x = h := by
  unfold findHandle at hx
  split at hx
  · cases hx
  · simp only at hx
    split at hx
    · cases hx
    · split at hx
      · cases hx
      · split at hx
        case isTrue hcond =>
          cases hx
          exact ⟨hcond.1, hcond.2.1⟩
        case isFalse => cases hx

theorem findHandle_handle (hi : Inv s) (hx : s.allocated x = true) :
    findHandle (s.handle x) s = some x := by
  obtain ⟨hname, hpos, hle⟩ := hi.tenants.named x hx
  obtain ⟨⟨hone, hcount⟩, hslot⟩ := hi.slots.owner x hx
  have hbound := hi.tenants.bound
  have hindex : s.slotOf x - 1 + 1 = s.slotOf x := Nat.sub_add_cancel hone
  obtain ⟨hlow, hhigh⟩ := makeHandle_decode (s.slotOf x - 1)
    (s.generation x) (by rw [hindex]; exact Nat.le_trans hcount hbound)
  have hnat : (0 : ℤ) < makeHandle (s.slotOf x - 1) (s.generation x) := by
    by_contra hneg
    have hzero : (makeHandle (s.slotOf x - 1) (s.generation x)).toNat = 0 :=
      Int.toNat_eq_zero.mpr (by omega)
    rw [hzero, hindex] at hlow
    simp at hlow
    omega
  unfold findHandle
  rw [hname, if_neg (by omega)]
  simp only [hlow, hhigh, hindex]
  have hrange : ¬ (s.slotOf x = 0 ∨ s.slotOf x > sessionLimit ∨ s.generation x = 0 ∨
      s.generation x > handleGenerationMask ∨ s.slotOf x > s.slotCount) := by
    have := Nat.le_trans hcount hbound
    rintro (h0 | h1 | h2 | h3 | h4)
    · exact absurd h0 (Nat.ne_of_gt hone)
    · exact absurd this (Nat.not_le_of_gt h1)
    · omega
    · omega
    · exact absurd hcount (Nat.not_le_of_gt h4)
  rw [if_neg hrange, hslot]
  simp [hx, hname]

theorem handle_unique {y : SessionId} (hi : Inv s) (hx : s.allocated x = true)
    (hy : s.allocated y = true) (h : s.handle x = s.handle y) : x = y := by
  have hfx := findHandle_handle hi hx
  rw [h, findHandle_handle hi hy] at hfx
  exact (Option.some.inj hfx).symm

theorem handle_of_findHandle_none {h : ℤ} (hi : Inv s) (hnone : findHandle h s = none)
    (hx : s.allocated x = true) : s.handle x ≠ h := by
  rintro rfl
  rw [findHandle_handle hi hx] at hnone
  cases hnone

/-! ## Joining -/

theorem takeFinished_spec (hi : Inv s) (hhand : s.slotInHand = none)
    (hconn : ∀ y, s.connecting y = false) (hreap : s.reaping = none) (ha : s.allocated x = true)
    (hf : s.finished x ≠ 0) :
    Inv (takeFinished x s) ∧ Unmoved s (takeFinished x s) ∧
      Closing s.allocated s.handle x (takeFinished x s) := by
  have hfin := hi.phase.isFinished x hf
  have hone : s.finished x = 1 := by
    rw [hi.once.credit x ha hfin, hreap]
    simp
  refine ⟨?_, Unmoved.of_view rfl rfl rfl, hhand, hconn, rfl, rfl, rfl, rfl, ha, hfin⟩
  exact
    { hi with
      phase :=
        { hi.phase with
          isFinished := by
            intro y hy
            by_cases hxy : y = x
            · rw [hxy]
              exact hfin
            · exact hi.phase.isFinished y (by simpa [takeFinished, hxy] using hy) }
      once :=
        { hi.once with
          credit := by
            intro y hy hyf
            by_cases hxy : y = x
            · simp [takeFinished, hxy, hone, Completion.take, Completion.UINT_MAX]
            · have hcredit := hi.once.credit y hy hyf
              rw [hreap] at hcredit
              simpa [takeFinished, hxy, Ne.symm hxy] using hcredit
          taken := by
            intro y hy
            have hxy : x = y := Option.some.inj hy
            exact hxy ▸ hfin
          waiting := by simp [takeFinished] } }

theorem joinCommon_safe (hop : ∀ k, op ≠ .start k) (h : ℤ) (returnStatus : Bool)
    (hs : Among live s) :
    Safe Inv (controlContract base op)
      (fun a t => OutcomeOK a t ∧ ∀ x ret result cleanup, a = .reaped x ret result cleanup →
        live x = true) (joinCommon h returnStatus) s := by
  have hfind : Safe Inv (controlContract base op)
      (fun found t => Among live t ∧ ∀ x, found = some x → t.allocated x = true)
      (Prog.block fun s (_ : Reply) => (findHandle h s, s)) s :=
    Safe.block fun t hr hi _ =>
      ⟨hi, (Unmoved.refl t).guar, Among.stable s t hs hr, fun _ hx => (findHandle_some hx).1⟩
  refine Safe.seq hfind fun found t ht => ?_
  cases found with
  | none => exact ⟨ht.1.calm, nofun⟩
  | some x =>
    have hwait : Safe Inv (controlContract base op)
        (fun done u => if done then Closing live u.handle x u else Calm u)
        (awaitFinished x) t := by
      refine Safe.await fun u hr hi r _ => ?_
      have hu := Among.stable t u ht.1 hr
      have hlive : u.allocated = t.allocated := congrArg Registry.allocated hr.registry
      split
      case isTrue hf =>
        obtain ⟨hinv, hguar, hclose⟩ := takeFinished_spec hi hu.calm.hand hu.calm.connected
          hu.calm.noReap.reaping (hlive ▸ ht.2 x rfl) hf
        rw [hu.same] at hclose
        exact ⟨hinv, hguar.guar, hclose⟩
      case isFalse => exact ⟨hi, (Unmoved.refl u).guar, hu.calm⟩
    refine Safe.seq hwait fun done u hu => ?_
    cases done with
    | false => exact ⟨hu, nofun⟩
    | true =>
      rw [if_pos rfl]
      refine (reap_safe hop _ hu).mono fun a v hpost => ⟨hpost.1, fun y ret result cleanup ha => ?_⟩
      obtain ⟨-, ⟨result', cleanup', hreaped⟩, -⟩ := hpost
      rw [ha] at hreaped
      cases hreaped
      exact hu.member

def TryPost (live : SessionId → Bool) (h : ℤ) : ℤ ⊕ SessionId → State → Prop
  | .inl ret, s => Calm s ∧
    (ret = -EAGAIN ∨ ret = -ENOENT ∧ ∀ x, s.allocated x = true → s.handle x ≠ h)
  | .inr x, s => Closing live s.handle x s ∧
      ∀ y, s.allocated y = true → y ≠ x → s.handle y ≠ h

theorem tryFinished_safe (h : ℤ) (hs : Among live s) :
    Safe Inv (controlContract base op) (TryPost live h)
      (Prog.block fun s (_ : Reply) => tryFinished h s) s := by
  refine Safe.block fun t hr hi _ => ?_
  have ht := Among.stable s t hs hr
  simp only [tryFinished]
  cases hx : findHandle h t with
  | none =>
    exact ⟨hi, (Unmoved.refl t).guar, ht.calm,
      .inr ⟨rfl, fun y hy => handle_of_findHandle_none hi hx hy⟩⟩
  | some x =>
    simp only
    split
    case isTrue => exact ⟨hi, (Unmoved.refl t).guar, ht.calm, .inl rfl⟩
    case isFalse hf =>
      obtain ⟨ha, hname⟩ := findHandle_some hx
      obtain ⟨hinv, hguar, hclose⟩ := takeFinished_spec hi ht.calm.hand ht.calm.connected
        ht.calm.noReap.reaping ha hf
      rw [ht.same] at hclose
      refine ⟨hinv, hguar.guar, hclose, fun y hy hxy hsame => hxy ?_⟩
      exact handle_unique hi hy ha (hsame.trans hname.symm)

theorem tryJoinResult_safe (h : ℤ) (hs : Among live s) :
    Safe Inv (controlContract base (.tryJoinResult h))
      (fun a t => OutcomeOK a t ∧ Answered live (.tryJoinResult h) a t) (tryJoinResult h) s := by
  refine Safe.seq (tryFinished_safe h hs) fun found t ht => ?_
  cases found with
  | inl ret => exact ht
  | inr x =>
    obtain ⟨hclose, hothers⟩ := ht
    refine (reap_safe (by simp) _ hclose).mono fun a u hpost => ?_
    obtain ⟨hok, ⟨result, cleanup, rfl⟩, hallocated, hnames⟩ := hpost
    refine ⟨hok, rfl, fun y hy => ?_, hclose.member⟩
    rw [hallocated] at hy
    rw [hnames]
    have hxy : y ≠ x := fun he => by simp [he] at hy
    exact hothers y (by rw [hclose.same]; simpa [hxy] using hy) hxy

/-! ## Cancelling -/

theorem DispatcherRely.sessionStop {status : ℤ} : DispatcherRely s (sessionStop x status s).2 := by
  unfold State.sessionStop
  split
  case isFalse => exact refl s
  case isTrue =>
    have hmark : DispatcherRely s (markStopped x status s) :=
      { pumping := rfl
        dispatching := rfl
        bufferBytes := rfl
        kept := fun y hy => by
          refine ⟨hy, rfl, fun hs => ?_, id, fun _ => id, .inr ⟨rfl, rfl⟩⟩
          by_cases hxy : y = x
          · simp [markStopped, hxy]
          · simpa [markStopped, hxy] using hs
        connected := fun _ _ => id }
    split
    · exact hmark
    · exact hmark.trans (queueSession x)

theorem sessionStop_stopping (x : SessionId) (status : ℤ) (s : State) (y : SessionId) :
    (sessionStop x status s).2.stopping y =
      if s.allocated x = true ∧ y = x then true else s.stopping y := by
  unfold State.sessionStop
  split
  case isTrue ha =>
    have hmark : (markStopped x status s).stopping y =
        if s.allocated x = true ∧ y = x then true else s.stopping y := by
      by_cases hxy : y = x <;> simp [markStopped, hxy, ha]
    split <;> exact hmark
  case isFalse ha => simp [ha]

theorem sessionStop_terminalEvents (status : ℤ) :
    (sessionStop x status s).2.terminalEvents = s.terminalEvents := by
  unfold State.sessionStop
  split
  · split <;> rfl
  · rfl

theorem sessionStop_failed {status : ℤ} {y : SessionId} (h : s.status y ≠ 0) :
    (sessionStop x status s).2.status y ≠ 0 := by
  unfold State.sessionStop
  split
  · split <;> exact markStopped_failed h
  · exact h

theorem Unmoved.sessionStop {status : ℤ} : Unmoved s (sessionStop x status s).2 := by
  obtain ⟨hsock, hfin, hcount⟩ := sessionStop_same (s := s) x status
  have hreg := sessionStop_registry x status s
  refine of_parts DispatcherRely.sessionStop ?_ (fun y hy => ?_) (fun y hy => ?_) fun k => ?_
  · unfold tenureView
    rw [hreg, hfin, hcount, sessionStop_terminalEvents]
  · rw [sessionStop_stopping, hy, ite_self]
  · exact sessionStop_failed hy
  · rw [hsock]
    exact SockKept.refl _ _

theorem stopOne_safe (h : Among live s) :
    Safe Inv (controlContract base op) (fun _ t => Among live t)
      (Prog.block fun s (_ : Reply) => sessionStop x (-ECANCELED) s) s := by
  refine Safe.block fun t hr hi _ => ?_
  have ht := Among.stable s t h hr
  exact ⟨hi.sessionStop (ht.calm.connected x) (by decide), Unmoved.sessionStop.guar,
    ht.of_registry (sessionStop_registry x _ t)⟩

theorem abort_safe {P : State → Prop} (hstable : ∀ s s', P s → ControlRely s s' → P s')
    (hsock : ∀ s f, P s → P { s with sock := f }) (first : Bool) (h : P s) :
    Safe Inv (controlContract base op) (fun _ t => P t) (abortSocket x first) s :=
  abortSocket_safe first hstable hsock (fun _ _ _ _ hpub => (Unmoved.sockShutdown hpub).guar)
    (fun t => (Unmoved.refl t).guar) h

structure Told (h : ℤ) (s : State) : Prop where
  calm : Calm s
  told : ∀ y, s.allocated y = true → s.handle y = h → s.stopping y = true

theorem Told.stable {h : ℤ} (s s' : State) (ht : Told h s) (hr : ControlRely s s') : Told h s' where
  calm := ht.calm.stable hr
  told y hy hname := by
    rw [congrArg Registry.allocated hr.registry] at hy
    rw [congrArg Registry.handle hr.registry] at hname
    exact hr.stopping y (ht.told y hy hname)

theorem cancelSession_safe (h : ℤ) (hcalm : Calm s) :
    Safe Inv (controlContract base (.cancelSession h))
      (fun a t => OutcomeOK a t ∧ Answered live (.cancelSession h) a t) (cancelSession h) s := by
  have hstop : Safe Inv (controlContract base (.cancelSession h)) (fun _ t => Told h t)
      (Prog.block fun s (_ : Reply) => match findHandle h s with
        | none => (none, s)
        | some x =>
          (some (x, (sessionStop x (-ECANCELED) s).1), (sessionStop x (-ECANCELED) s).2)) s := by
    refine Safe.block fun t hr hi _ => ?_
    have ht := hcalm.stable hr
    cases hx : findHandle h t with
    | none =>
      exact ⟨hi, (Unmoved.refl t).guar, ht, fun y hy hname =>
        absurd hname (handle_of_findHandle_none hi hx hy)⟩
    | some x =>
      obtain ⟨ha, hname⟩ := findHandle_some hx
      have hreg := sessionStop_registry x (-ECANCELED) t
      refine ⟨hi.sessionStop (ht.connected x) (by decide), Unmoved.sessionStop.guar,
        ht.of_registry hreg, fun y hy hsame => ?_⟩
      rw [congrArg Registry.allocated hreg] at hy
      rw [congrArg Registry.handle hreg] at hsame
      have hyx := handle_unique hi hy ha (hsame.trans hname.symm)
      rw [sessionStop_stopping, if_pos ⟨ha, hyx⟩]
  refine Safe.seq hstop fun found t ht => ?_
  cases found with
  | none => exact ⟨ht.calm, ht.told⟩
  | some p =>
    obtain ⟨x, first⟩ := p
    exact Safe.seq (abort_safe Told.stable
      (fun _ _ hP => ⟨hP.calm.frame rfl rfl rfl rfl, hP.told⟩) first ht)
      fun _ _ hpost => ⟨hpost.calm, hpost.told⟩

theorem stopAll_safe (l : List SessionId) (h : Among live s) :
    Safe Inv (controlContract base op) (fun _ t => Among live t) (stopAll l) s := by
  induction l generalizing s with
  | nil => exact h
  | cons x l ih =>
    refine Safe.seq (stopOne_safe h) fun first t ht => ?_
    exact Safe.seq (abort_safe Among.stable (fun _ _ hP => hP.of_registry rfl) first ht)
      fun _ u hu => ih hu

structure Picked (live : SessionId → Bool) (x : SessionId) (s : State) : Prop where
  hand : s.slotInHand = none
  connected : ∀ y, s.connecting y = false
  untaken : s.reaping = none
  same : s.allocated = live

theorem Picked.stable (h : Picked live x s) (hr : ControlRely s s') : Picked live x s' where
  hand := hr.registry ▸ h.hand
  connected y := hr.registry ▸ (h.connected y)
  untaken := hr.registry ▸ h.untaken
  same := hr.registry ▸ h.same

theorem reapAll_safe (hop : ∀ k, op ≠ .start k) (l : List SessionId) (hnodup : l.Nodup)
    (hlive : ∀ y, live y = true ↔ y ∈ l) (h : Among live s) :
    Safe Inv (controlContract base op) (fun _ t => Among (fun _ => false) t) (reapAll l) s := by
  induction l generalizing s live with
  | nil =>
    have hnone : live = fun _ => false := funext fun y => by
      cases hy : live y with
      | false => rfl
      | true => simpa using (hlive y).1 hy
    exact hnone ▸ h
  | cons x l ih =>
    obtain ⟨hx, hnodup⟩ := List.nodup_cons.mp hnodup
    have hmember : live x = true := (hlive x).2 (List.mem_cons_self ..)
    have hpick : Safe Inv (controlContract base op) (fun _ t => Picked live x t)
        (Prog.block fun s (_ : Reply) => ((), { s with cancelWait := some x })) s := by
      refine Safe.block fun t hr hi _ => ?_
      have ht := Among.stable s t h hr
      refine ⟨?_, ControlGuar.of_view rfl rfl rfl,
        ⟨ht.calm.hand, ht.calm.connected, ht.calm.noReap.reaping, ht.same⟩⟩
      exact
        { hi with
          once :=
            { hi.once with
              waiting := by
                intro y hy
                have hxy : x = y := Option.some.inj hy
                exact ⟨by rw [← hxy, ht.same]; exact hmember, ht.calm.noReap.reaping⟩ } }
    refine Safe.seq hpick fun _ t ht => ?_
    have hwait : Safe Inv (controlContract base op) (fun _ t => Closing live t.handle x t)
        (Prog.await (fun s (_ : Reply) => decide (s.finished x ≠ 0)) fun s _ =>
          ((), takeFinished x s)) t := by
      refine Safe.await fun u hr hi _ hready => ?_
      have hu := ht.stable hr
      have hf : u.finished x ≠ 0 := by simpa using hready
      obtain ⟨hinv, hguar, hclose⟩ := takeFinished_spec hi hu.hand hu.connected hu.untaken
        (hu.same ▸ hmember) hf
      rw [hu.same] at hclose
      exact ⟨hinv, hguar.guar, hclose⟩
    refine Safe.seq hwait fun _ t ht => ?_
    refine Safe.seq (reap_safe hop _ ht) fun a u hu => ?_
    refine ih hnodup (fun y => ?_) ⟨hu.1.calm, hu.2.2.1⟩
    by_cases hyx : y = x
    · simp [hyx, hx]
    · rw [update_of_ne hyx, hlive y, List.mem_cons]
      exact ⟨fun hm => hm.resolve_left hyx, .inr⟩

theorem stopDispatcher_safe (h : Among live s) :
    Safe Inv (controlContract base op) (fun a t => OutcomeOK a t ∧ t.allocated = live)
      stopDispatcher s := by
  have hask : Safe Inv (controlContract base op) (fun _ t => Among live t)
      (Prog.block fun s (_ : Reply) => (s.dispatcherTask, if s.dispatcherTask then
        dispatcherWake { s with dispatcherStopping := true, dispatcherShouldStop := true }
        else s)) s := by
    refine Safe.block fun t hr hi _ => ?_
    have ht := Among.stable s t h hr
    simp only
    split
    · exact ⟨{ hi with }, ControlGuar.of_view rfl rfl rfl, ht.calm.frame rfl rfl rfl rfl, ht.same⟩
    · exact ⟨hi, (Unmoved.refl t).guar, ht⟩
  refine Safe.seq hask fun task t ht => ?_
  cases task with
  | false => exact ⟨ht.calm, ht.same⟩
  | true =>
    refine Safe.await fun u hr hi _ _ => ?_
    have hu := Among.stable t u ht hr
    exact ⟨{ hi with }, ControlGuar.of_view rfl rfl rfl, hu.calm.frame rfl rfl rfl rfl, hu.same⟩

theorem Inv.vacant (hi : Inv s) (h : s.active = []) (y : SessionId) : s.allocated y = false := by
  cases hy : s.allocated y with
  | false => rfl
  | true => simpa [h] using (hi.active.listed.mem y).mpr hy

def RosterPost : Option (List SessionId) → State → Prop
  | none, s => Among (fun _ => false) s
  | some l, s => Calm s ∧ l.Nodup ∧ ∀ y, s.allocated y = true ↔ y ∈ l

theorem cancel_safe (hcalm : Calm s) :
    Safe Inv (controlContract base .cancel) (fun a t => OutcomeOK a t ∧ Answered live .cancel a t)
      cancel s := by
  have hlist : Safe Inv (controlContract base .cancel) RosterPost
      (Prog.block fun s (_ : Reply) => (if s.initialized then some s.active else none, s)) s := by
    refine Safe.block fun t hr hi _ => ⟨hi, (Unmoved.refl t).guar, ?_⟩
    have ht := hcalm.stable hr
    cases hboot : t.initialized with
    | false => exact ⟨ht, funext fun y => hi.vacant (hi.active.dormant hboot) y⟩
    | true => exact ⟨ht, hi.active.listed.nodup, fun y => (hi.active.listed.mem y).symm⟩
  refine Safe.seq hlist fun sessions t ht => ?_
  cases sessions with
  | none => exact ⟨ht.calm, fun y => congrFun ht.same y⟩
  | some l =>
    obtain ⟨ht, hnodup, hlive⟩ := ht
    refine Safe.seq (stopAll_safe l ⟨ht, rfl⟩) fun _ u hu => ?_
    refine Safe.seq (reapAll_safe (by simp) l hnodup hlive hu) fun _ v hv => ?_
    exact (stopDispatcher_safe hv).mono fun a w hw => ⟨hw.1, fun y => congrFun hw.2 y⟩

/-! ## The completion notifier -/

theorem setCompletionNotifier_safe (n : ℕ) (h : Calm s) :
    Safe Inv (controlContract base (.setCompletionNotifier n))
      (fun a t => OutcomeOK a t ∧ Answered live (.setCompletionNotifier n) a t ∧
        Refused s.completionNotify (.setCompletionNotifier n) a t)
      (setCompletionNotifier n) s := by
  refine Safe.block fun t hr hi _ => ?_
  have ht := h.stable hr
  have hboot := hi.initialize
  simp only
  split
  case isTrue =>
    have hsame : t.completionNotify = s.completionNotify :=
      congrArg Registry.completionNotify hr.registry
    exact ⟨hboot, ControlGuar.of_view rfl rfl rfl, ht.frame rfl rfl rfl rfl, .inl rfl,
      fun _ => hsame⟩
  case isFalse hfree =>
    have hempty : t.activeSessions = 0 := by
      by_contra hne
      exact hfree (.inl hne)
    have hactive : t.active = [] := List.eq_nil_of_length_eq_zero (hi.active.count.trans hempty)
    refine ⟨{ hboot with }, ?_, ht.frame rfl rfl rfl rfl, .inr ⟨rfl, rfl, hi.vacant hactive⟩,
      fun hret => absurd rfl hret⟩
    have hsame : ControlGuar base (.setCompletionNotifier n) t t := (Unmoved.refl t).guar
    exact
      { hsame with
        toDispatcherRely := .of_view rfl
        tenure := .keep rfl (fun _ => ⟨rfl, rfl, rfl, id, id, rfl⟩) fun _ => rfl
        notifier := .inr (.inl ⟨n, rfl, rfl, hi.vacant hactive⟩) }

theorem clearCompletionNotifier_safe (n : ℕ) (h : Among live s) :
    Safe Inv (controlContract base (.clearCompletionNotifier n))
      (fun a t => OutcomeOK a t ∧ Answered live (.clearCompletionNotifier n) a t)
      (clearCompletionNotifier n) s := by
  refine Safe.block fun t hr hi _ => ?_
  have ht := Among.stable s t h hr
  simp only
  split
  case isTrue =>
    refine ⟨{ hi with }, ?_, ht.calm.frame rfl rfl rfl rfl, ht.same, fun _ => by simp⟩
    have hsame : ControlGuar base (.clearCompletionNotifier n) t t := (Unmoved.refl t).guar
    exact
      { hsame with
        toDispatcherRely := .of_view rfl
        tenure := .keep rfl (fun _ => ⟨rfl, rfl, rfl, id, id, rfl⟩) fun _ => rfl
        notifier := .inr (.inr ⟨n, rfl, rfl⟩) }
  case isFalse hcond =>
    refine ⟨hi, (Unmoved.refl t).guar, ht.calm, ht.same, fun hvacant hsame => hcond ⟨hsame, ?_⟩⟩
    have hactive : t.active = [] := hi.active.listed.eq_nil_iff.2 hvacant
    rw [← hi.active.count, hactive]
    rfl

theorem program_safe (op : Op) (h : Calm s) :
    Safe Inv (controlContract s.allocated op)
      (fun a t => OutcomeOK a t ∧ Answered s.allocated op a t)
      op.program s := by
  cases op with
  | start sk => exact start_safe ⟨h, rfl⟩
  | join handle =>
    refine (joinCommon_safe (by simp) handle true ⟨h, rfl⟩).mono fun a _ hok => ⟨hok.1, ?_⟩
    cases a with
    | value | started => trivial
    | reaped => exact hok.2 _ _ _ _ rfl
  | joinResult handle =>
    refine (joinCommon_safe (by simp) handle false ⟨h, rfl⟩).mono fun a _ hok => ⟨hok.1, ?_⟩
    cases a with
    | value | started => trivial
    | reaped => exact hok.2 _ _ _ _ rfl
  | tryJoinResult handle => exact tryJoinResult_safe handle ⟨h, rfl⟩
  | cancelSession handle => exact cancelSession_safe handle h
  | cancel => exact cancel_safe h
  | setCompletionNotifier n =>
    exact (setCompletionNotifier_safe n h).mono fun _ _ hpost => ⟨hpost.1, hpost.2.1⟩
  | clearCompletionNotifier n => exact clearCompletionNotifier_safe n ⟨h, rfl⟩
  | active =>
    exact Safe.block fun t hr hi _ => ⟨hi, (Unmoved.refl t).guar, h.stable hr, trivial⟩

theorem program_refused (op : Op) (h : Calm s) :
    Safe Inv (controlContract s.allocated op) (fun a t => OutcomeOK a t ∧
      Answered s.allocated op a t ∧ Refused s.completionNotify op a t) op.program s := by
  have hsafe := program_safe op h
  cases op with
  | setCompletionNotifier n => exact setCompletionNotifier_safe n h
  | _ => exact hsafe.mono fun _ _ hpost => ⟨hpost.1, hpost.2, trivial⟩

end Tcpcc.Bridge

import Tcpcc.Bridge.Primitives

/-!
# What the two threads promise each other

Between two blocks of the dispatcher the sessions that run keep their streams, and a
readiness flag is raised only together with a place in the ready queue. Between two
blocks of a control-side operation the registry is left alone, and a session that has
finished and is out of reach of events and callbacks stays out of the ready queue.
Beyond what the other side needs, each side promises what the owners of sockets and
sessions outside the bridge are told: the dispatcher releases no socket and reports
every session it finishes, and an operation says which session enters or leaves.
-/

namespace Tcpcc.Bridge
open Resumption State

variable {s s' : State} {x : SessionId}

structure Kept (x : SessionId) (s s' : State) : Prop where
  running : s'.running x = true
  flow : s'.flow x = s.flow x
  stopping : s.stopping x = true → s'.stopping x = true
  queued : s.readyQueued x = true → s'.readyQueued x = true
  readable : ∀ side, s.readable x side = true → s'.readable x side = true
  flags : s'.readyQueued x = true ∨
    (s'.readable x = s.readable x ∧ s'.writable x = s.writable x)

structure DispatcherRely (s s' : State) : Prop where
  pumping : s'.pumping = s.pumping
  dispatching : s'.dispatching = s.dispatching
  bufferBytes : s'.bufferBytes = s.bufferBytes
  kept : ∀ x, s.running x = true → Kept x s s'
  connected : ∀ x, s.dispatching = some x → s.connecting x = false → s'.connecting x = false

theorem Kept.trans {a b c : State} (h : Kept x a b) (h' : Kept x b c) : Kept x a c where
  running := h'.running
  flow := h'.flow.trans h.flow
  stopping := h'.stopping ∘ h.stopping
  queued := h'.queued ∘ h.queued
  readable side := h'.readable side ∘ h.readable side
  flags := by
    rcases h'.flags with hq | ⟨hr', hw'⟩
    · exact .inl hq
    · rcases h.flags with hq | ⟨hr, hw⟩
      · exact .inl (h'.queued hq)
      · exact .inr ⟨hr'.trans hr, hw'.trans hw⟩

theorem DispatcherRely.refl (s : State) : DispatcherRely s s where
  pumping := rfl
  dispatching := rfl
  bufferBytes := rfl
  kept _ hx := ⟨hx, rfl, id, id, fun _ => id, .inr ⟨rfl, rfl⟩⟩
  connected _ _ := id

theorem DispatcherRely.trans {a b c : State} (h : DispatcherRely a b) (h' : DispatcherRely b c) :
    DispatcherRely a c where
  pumping := h'.pumping.trans h.pumping
  dispatching := h'.dispatching.trans h.dispatching
  bufferBytes := h'.bufferBytes.trans h.bufferBytes
  kept x hx := (h.kept x hx).trans (h'.kept x (h.kept x hx).running)
  connected x hd hc := h'.connected x (h.dispatching.trans hd) (h.connected x hd hc)

def Detached (x : SessionId) (s : State) : Prop := ∀ sk, (s.sock sk).userData ≠ .session x

def Silent (x : SessionId) (s : State) : Prop :=
  s.acceptEvents x = false ∧ s.dispatching ≠ some x

structure Quiet (x : SessionId) (s : State) : Prop where
  finished : s.finishedNotified x = true
  silent : Silent x s
  detached : Detached x s
  unqueued : s.readyQueued x = false

/-- The host reported an error for a session that is past its start, and the session is
none the wiser. -/
def Overlooked (x : SessionId) (s : State) : Prop :=
  s.connecting x = false ∧ (s.allocated x = true ∨ s.finishedNotified x = true) ∧
    s.status x = 0 ∧ s.terminalEvents x &&& eventError ≠ 0

structure ControlRely (s s' : State) : Prop where
  registry : s'.toRegistry = s.toRegistry
  finished : ∀ x, s.finishedNotified x = true → s'.finishedNotified x = true
  hooks : ∀ sk x, (s'.sock sk).userData = .session x → (s.sock sk).userData = .session x
  silent : ∀ x, Silent x s → s'.dispatching ≠ some x
  quiet : ∀ x, Quiet x s → s'.readyQueued x = false
  gone : ∀ x, s.allocated x = false → s'.status x = s.status x ∧ s'.flow x = s.flow x ∧
    s'.terminalEvents x = s.terminalEvents x
  stopping : ∀ x, s.stopping x = true → s'.stopping x = true
  overlooked : ∀ x, Overlooked x s' → Overlooked x s

namespace ControlRely

theorem isSilent (h : ControlRely s s') (hx : Silent x s) : Silent x s' :=
  ⟨by rw [h.registry]; exact hx.1, h.silent x hx⟩

theorem isDetached (h : ControlRely s s') (hx : Detached x s) : Detached x s' :=
  fun sk hsk => hx sk (h.hooks sk x hsk)

theorem isQuiet (h : ControlRely s s') (hx : Quiet x s) : Quiet x s' where
  finished := h.finished x hx.finished
  silent := h.isSilent hx.silent
  detached := h.isDetached hx.detached
  unqueued := h.quiet x hx

theorem refl (s : State) : ControlRely s s where
  registry := rfl
  finished _ := id
  hooks _ _ := id
  silent _ hx := hx.2
  quiet _ hx := hx.unqueued
  gone _ _ := ⟨rfl, rfl, rfl⟩
  stopping _ := id
  overlooked _ := id

theorem trans {a b c : State} (h : ControlRely a b) (h' : ControlRely b c) : ControlRely a c where
  registry := h'.registry.trans h.registry
  finished x := h'.finished x ∘ h.finished x
  hooks sk x := h.hooks sk x ∘ h'.hooks sk x
  silent x hx := h'.silent x (h.isSilent hx)
  quiet x hx := h'.quiet x (h.isQuiet hx)
  gone x hx := by
    obtain ⟨hs, hf, ht⟩ := h.gone x hx
    obtain ⟨hs', hf', ht'⟩ := h'.gone x (by rw [h.registry]; exact hx)
    exact ⟨hs'.trans hs, hf'.trans hf, ht'.trans ht⟩
  stopping x := h'.stopping x ∘ h.stopping x
  overlooked x := h.overlooked x ∘ h'.overlooked x

end ControlRely

/-- What the dispatcher promises: besides `ControlRely`, it does nothing to sockets but
shut down those of sessions that are past their start, and a session does not finish
without a call of the notifier. -/
structure DispatcherGuar (s s' : State) : Prop extends ControlRely s s' where
  socks : ∀ sk, ∃ n, s'.sock sk = { s.sock sk with shutdowns := n }
  spared : ∀ sk, (∀ y, s.publicSock y = some sk → s.connecting y = true) →
    s'.sock sk = s.sock sk
  counted : s.completions ≤ s'.completions
  notified : ∀ x, s.finishedNotified x = false → s'.finishedNotified x = true →
    s.completionNotify.isSome = true → s.completions < s'.completions

namespace DispatcherGuar

theorem of_rely (h : ControlRely s s') (hsock : s'.sock = s.sock)
    (hfin : s'.finishedNotified = s.finishedNotified) (hcount : s'.completions = s.completions) :
    DispatcherGuar s s' where
  toControlRely := h
  socks sk := ⟨(s.sock sk).shutdowns, by rw [hsock]⟩
  spared sk _ := congrFun hsock sk
  counted := Nat.le_of_eq hcount.symm
  notified x hx hx' := by
    rw [hfin, hx] at hx'
    cases hx'

theorem refl (s : State) : DispatcherGuar s s := of_rely (ControlRely.refl s) rfl rfl rfl

theorem trans {a b c : State} (h : DispatcherGuar a b) (h' : DispatcherGuar b c) :
    DispatcherGuar a c where
  toControlRely := h.toControlRely.trans h'.toControlRely
  socks sk := by
    obtain ⟨n, hn⟩ := h.socks sk
    obtain ⟨m, hm⟩ := h'.socks sk
    exact ⟨m, by rw [hm, hn]⟩
  spared sk hsk := by
    refine (h'.spared sk fun y hy => ?_).trans (h.spared sk hsk)
    rw [congrArg Registry.publicSock h.registry] at hy
    rw [congrArg Registry.connecting h.registry]
    exact hsk y hy
  counted := Nat.le_trans h.counted h'.counted
  notified x hx hx' hnotify := by
    cases hb : b.finishedNotified x with
    | true => exact Nat.lt_of_lt_of_le (h.notified x hx hb hnotify) h'.counted
    | false =>
      have hnotify' : b.completionNotify.isSome = true := by
        rw [congrArg Registry.completionNotify h.registry]
        exact hnotify
      exact Nat.lt_of_le_of_lt h.counted (h'.notified x hb hx' hnotify')

end DispatcherGuar

structure Resident (x : SessionId) (s s' : State) : Prop where
  allocated : s'.allocated x = s.allocated x
  publicSock : s'.publicSock x = s.publicSock x
  handle : s'.handle x = s.handle x
  connecting : s'.connecting x = true → s.connecting x = true
  stopping : s.stopping x = true → s'.stopping x = true
  finished : s'.finishedNotified x = s.finishedNotified x

/-- Who holds what after a block of operation `op`, given the sessions `live` that were
allocated when it was called. A session enters with the socket of its start and leaves
without it if it was never connected, which takes the sessions back to `live`; a session
that leaves later has finished and has its socket released. -/
inductive Tenure (live : SessionId → Bool) (op : Op) (s s' : State) : Prop
  | keep (hnext : s'.nextSession = s.nextSession) (hres : ∀ x, Resident x s s')
      (hsock : ∀ k, (s'.sock k).releases = (s.sock k).releases)
  | enter (sk : SockId) (hop : op = .start sk) (hlive : s.allocated = live)
      (hnext : s'.nextSession = s.nextSession + 1)
      (hres : ∀ y, y ≠ s.nextSession → Resident y s s')
      (hnew : s'.allocated s.nextSession = true) (hpub : s'.publicSock s.nextSession = some sk)
      (hsock : ∀ k, (s'.sock k).releases = (s.sock k).releases)
  | drop (x : SessionId) (sk : SockId) (hop : op = .start sk) (hpub : s.publicSock x = some sk)
      (hback : s'.allocated = live)
      (hnext : s'.nextSession = s.nextSession) (hres : ∀ y, y ≠ x → Resident y s s')
      (hgone : s'.allocated x = false)
      (hsock : ∀ k, (s'.sock k).releases = (s.sock k).releases)
  | reap (x : SessionId) (sk : SockId) (hop : ∀ k, op ≠ .start k) (hx : s.allocated x = true)
      (hfin : s.finishedNotified x = true) (hpub : s.publicSock x = some sk)
      (hnext : s'.nextSession = s.nextSession) (hres : ∀ y, y ≠ x → Resident y s s')
      (hgone : s'.allocated x = false)
      (hsock : ∀ k, (s'.sock k).releases =
        if k = sk then (s.sock k).releases + 1 else (s.sock k).releases)

structure ControlGuar (live : SessionId → Bool) (op : Op) (s s' : State) : Prop
    extends DispatcherRely s s' where
  tenure : Tenure live op s s'
  finish : ∀ x, x ≠ s.nextSession → s'.finishedNotified x = s.finishedNotified x
  overlooked : ∀ x, Overlooked x s' → Overlooked x s ∨ s.connecting x = true
  listener : ∀ sk l, (s.sock sk).userData = .listener l →
    (s'.sock sk).userData = .listener l ∧ (s'.sock sk).hooks = (s.sock sk).hooks
  foreign : ∀ sk l, (s'.sock sk).userData = .listener l → (s.sock sk).userData = .listener l
  bystander : ∀ sk, (∀ x, s.publicSock x ≠ some sk) → s'.sock sk = s.sock sk
  completions : s'.completions = s.completions
  notifier : s'.completionNotify = s.completionNotify ∨
    (∃ n, op = .setCompletionNotifier n ∧ s'.completionNotify = some n ∧
      ∀ x, s'.allocated x = false) ∨
    (∃ n, op = .clearCompletionNotifier n ∧ s'.completionNotify = none)

structure Unmoved (s s' : State) : Prop extends DispatcherRely s s' where
  next : s'.nextSession = s.nextSession
  residents : ∀ x, Resident x s s'
  releases : ∀ k, (s'.sock k).releases = (s.sock k).releases
  listener : ∀ sk l, (s.sock sk).userData = .listener l →
    (s'.sock sk).userData = .listener l ∧ (s'.sock sk).hooks = (s.sock sk).hooks
  foreign : ∀ sk l, (s'.sock sk).userData = .listener l → (s.sock sk).userData = .listener l
  bystander : ∀ sk, (∀ x, s.publicSock x ≠ some sk) → s'.sock sk = s.sock sk
  completions : s'.completions = s.completions
  notifier : s'.completionNotify = s.completionNotify
  events : ∀ x, s'.terminalEvents x = s.terminalEvents x
  failed : ∀ x, s.status x ≠ 0 → s'.status x ≠ 0

theorem Resident.trans {a b c : State} (h : Resident x a b) (h' : Resident x b c) :
    Resident x a c where
  allocated := h'.allocated.trans h.allocated
  publicSock := h'.publicSock.trans h.publicSock
  handle := h'.handle.trans h.handle
  connecting := h.connecting ∘ h'.connecting
  stopping := h'.stopping ∘ h.stopping
  finished := h'.finished.trans h.finished

namespace Unmoved

theorem guar {live : SessionId → Bool} {op : Op} (h : Unmoved s s') : ControlGuar live op s s' where
  toDispatcherRely := h.toDispatcherRely
  tenure := .keep h.next h.residents h.releases
  finish x _ := (h.residents x).finished
  overlooked x hx := by
    cases hc : s.connecting x with
    | true => exact .inr rfl
    | false =>
      obtain ⟨-, hseen, hstatus, hevent⟩ := hx
      rw [(h.residents x).allocated, (h.residents x).finished] at hseen
      rw [h.events x] at hevent
      exact .inl ⟨hc, hseen, by_contra fun hne => h.failed x hne hstatus, hevent⟩
  listener := h.listener
  foreign := h.foreign
  bystander := h.bystander
  completions := h.completions
  notifier := .inl h.notifier

theorem trans {a b c : State} (h : Unmoved a b) (h' : Unmoved b c) : Unmoved a c where
  toDispatcherRely := h.toDispatcherRely.trans h'.toDispatcherRely
  next := h'.next.trans h.next
  residents x := (h.residents x).trans (h'.residents x)
  releases k := (h'.releases k).trans (h.releases k)
  listener sk l hl := by
    obtain ⟨hb, hhooks⟩ := h.listener sk l hl
    obtain ⟨hc, hhooks'⟩ := h'.listener sk l hb
    exact ⟨hc, hhooks'.trans hhooks⟩
  foreign sk l := h.foreign sk l ∘ h'.foreign sk l
  bystander sk hsk :=
    (h'.bystander sk fun x => (h.residents x).publicSock ▸ hsk x).trans (h.bystander sk hsk)
  completions := h'.completions.trans h.completions
  notifier := h'.notifier.trans h.notifier
  events x := (h'.events x).trans (h.events x)
  failed x := h'.failed x ∘ h.failed x

end Unmoved

def dispatcherContract : Contract State where
  rely := DispatcherRely
  guar := DispatcherGuar
  refl := DispatcherRely.refl
  trans := DispatcherRely.trans

def controlContract (live : SessionId → Bool) (op : Op) : Contract State where
  rely := ControlRely
  guar := ControlGuar live op
  refl := ControlRely.refl
  trans := ControlRely.trans

def operationContract : Contract State where
  rely := ControlRely
  guar s s' := ∃ live op, ControlGuar live op s s'
  refl := ControlRely.refl
  trans := ControlRely.trans

/-! ## The dispatcher's steps -/

structure ControlView where
  registry : Registry
  finishedNotified : SessionId → Bool
  sock : SockId → Sock
  dispatching : Option SessionId
  readyQueued : SessionId → Bool
  status : SessionId → ℤ
  flow : SessionId → Dir → Flow
  stopping : SessionId → Bool
  terminalEvents : SessionId → ℕ

def controlView (s : State) : ControlView where
  registry := s.toRegistry
  finishedNotified := s.finishedNotified
  sock := s.sock
  dispatching := s.dispatching
  readyQueued := s.readyQueued
  status := s.status
  flow := s.flow
  stopping := s.stopping
  terminalEvents := s.terminalEvents

theorem ControlRely.of_view (h : controlView s' = controlView s) : ControlRely s s' where
  registry := congrArg ControlView.registry h
  finished x hx := (congrFun (congrArg ControlView.finishedNotified h) x).trans hx
  hooks sk x hx := by
    have hsock : s'.sock = s.sock := congrArg ControlView.sock h
    rw [hsock] at hx
    exact hx
  silent x hx := by
    have hdisp : s'.dispatching = s.dispatching := congrArg ControlView.dispatching h
    rw [hdisp]
    exact hx.2
  quiet x hx := (congrFun (congrArg ControlView.readyQueued h) x).trans hx.unqueued
  gone x _ := ⟨congrFun (congrArg ControlView.status h) x, congrFun (congrArg ControlView.flow h) x,
    congrFun (congrArg ControlView.terminalEvents h) x⟩
  stopping x hx := (congrFun (congrArg ControlView.stopping h) x).trans hx
  overlooked x hx := by
    have hreg : s'.toRegistry = s.toRegistry := congrArg ControlView.registry h
    have hfin : s'.finishedNotified = s.finishedNotified := congrArg ControlView.finishedNotified h
    have hstatus : s'.status = s.status := congrArg ControlView.status h
    have hevents : s'.terminalEvents = s.terminalEvents := congrArg ControlView.terminalEvents h
    unfold Overlooked at hx ⊢
    rw [← hreg, ← hfin, ← hstatus, ← hevents]
    exact hx

theorem DispatcherGuar.of_view (h : controlView s' = controlView s)
    (hcount : s'.completions = s.completions) : DispatcherGuar s s' :=
  .of_rely (.of_view h) (congrArg ControlView.sock h) (congrArg ControlView.finishedNotified h)
    hcount

theorem ControlRely.queueSession (hx : ¬ Quiet x s) : ControlRely s (queueSession x s) :=
  { refl s with
    quiet := fun y hy => by
      have hxy : y ≠ x := fun he => hx (he ▸ hy)
      simp [queueSession_readyQueued, hy.unqueued, hxy] }

theorem ControlRely.withFlow (ha : s.allocated x = true) (F : Dir → Flow) (n : ℤ) :
    ControlRely s { s with flow := Function.update s.flow x F, bufferBytes := n } :=
  { refl s with
    gone := fun y hy => by
      have hxy : y ≠ x := fun he => by simp [he, ha] at hy
      exact ⟨rfl, by simp [hxy], rfl⟩ }

theorem ControlRely.woken (h : Core s)
    (hw : ∀ y, s.bufferWaitQueued y = true → s.finishedNotified y = false) :
    ControlRely s (woken s) :=
  { refl s with
    quiet := fun y hy => by
      have hwq : s.bufferWaitQueued y = false := by
        cases hq : s.bufferWaitQueued y with
        | false => rfl
        | true => exact absurd (hy.finished.symm.trans (hw y hq)) (by simp)
      simp [Bridge.woken, hy.unqueued, hwq]
    gone := fun y hy => by
      refine ⟨rfl, funext fun e => ?_, rfl⟩
      have hwaiting : (s.flow y e).bufferWaiting = false := by
        cases hf : (s.flow y e).bufferWaiting with
        | false => rfl
        | true =>
          exact absurd (hy.symm.trans (h.waiters.live y (h.waiters.waiting y e hf))) (by simp)
      simp only [Bridge.woken]
      rw [← hwaiting] }

theorem ControlRely.releaseBuffer {d : Dir} (h : Core s) (ha : s.allocated x = true)
    (hc : s.connecting x = false) (hq : s.running x = false ∨ s.pumping = some x)
    (hl : s.finishedNotified x = true ∨ (s.flow x d).length = 0)
    (hw : ∀ y, s.bufferWaitQueued y = true → s.finishedNotified y = false) :
    ControlRely s (releaseBuffer x d s) := by
  rw [releaseBuffer_eq h.waiters]
  split
  case isTrue hb =>
    have hdrop : ControlRely s (State.dropBuffer x d s) := withFlow ha _ _
    exact hdrop.trans (ControlRely.woken (h.dropBuffer ha hc hq hb hl) hw)
  case isFalse => exact refl s

theorem Inv.waiter_unfinished (h : Inv s) (y : SessionId) (hy : s.bufferWaitQueued y = true) :
    s.finishedNotified y = false := (h.phase.isRunning y (h.holders.waiter y hy)).2.2

theorem ControlRely.markFinished (ha : s.allocated x = true) :
    ControlRely s (markFinished x s) :=
  { refl s with
    finished := fun y hy => by
      by_cases hxy : y = x
      · simp [State.markFinished, hxy]
      · simpa [State.markFinished, hxy] using hy
    stopping := fun y hy => by
      by_cases hxy : y = x
      · simp [State.markFinished, hxy]
      · simpa [State.markFinished, hxy] using hy
    overlooked := fun y hy => by
      by_cases hxy : y = x
      · subst hxy
        exact ⟨hy.1, .inl ha, hy.2.2⟩
      · simpa [Overlooked, State.markFinished, hxy] using hy }

theorem ControlRely.releaseSessionBuffers (h : Core s) (ha : s.allocated x = true)
    (hc : s.connecting x = false) (hx : s.running x = false) (hf : s.finishedNotified x = true)
    (hw : ∀ y, y ≠ x → s.bufferWaitQueued y = true → s.finishedNotified y = false) :
    ControlRely s (releaseSessionBuffers x s) := by
  obtain ⟨h₁, h₂⟩ := h.releasing ha hc hx hf
  have hu := releaseBuffer_undisturbed h₁.waiters x .publicToBackend
  have hstop : ControlRely s (State.stopWaiting x s) :=
    (withFlow ha (fun e => { s.flow x e with bufferWaiting := false }) s.bufferBytes).trans
      (of_view rfl)
  have hw₁ : ∀ y, (State.stopWaiting x s).bufferWaitQueued y = true →
      s.finishedNotified y = false := by
    intro y hy
    by_cases hxy : y = x
    · simp [State.stopWaiting, hxy] at hy
    · exact hw y hxy (by simpa [State.stopWaiting, hxy] using hy)
  have hfirst := ControlRely.releaseBuffer (x := x) (d := .publicToBackend) h₁ ha hc (.inl hx)
    (.inl hf) hw₁
  have hsecond := ControlRely.releaseBuffer (x := x) (d := .backendToPublic) h₂
    (by rw [congrArg Registry.allocated hu.registry]; exact ha)
    (by rw [congrArg Registry.connecting hu.registry]; exact hc)
    (.inl (by rw [hu.running]; exact hx)) (.inl (by rw [hu.finishedNotified]; exact hf))
    (fun y hy => by
      rw [hu.finishedNotified]
      exact hw₁ y (releaseBuffer_waitQueued h₁.waiters x _ y hy))
  exact (hstop.trans hfirst).trans hsecond

theorem ControlRely.sessionFinish (h : Inv s) (hc : s.connecting x = false)
    (hclean : s.finishedNotified x = false → s.CleanlyDone x) :
    ControlRely s (sessionFinish x s) := by
  obtain ⟨heq, -⟩ | ⟨heq, ha, -, hm, -⟩ := sessionFinish_cases h.toCore hc hclean
  · rw [heq]
    exact refl s
  · rw [heq]
    have hrel := ControlRely.releaseSessionBuffers hm ha hc (by simp [State.markFinished])
      (by simp [State.markFinished])
      (fun y hxy hy => by simpa [State.markFinished, hxy] using h.waiter_unfinished y hy)
    exact ((markFinished ha).trans hrel).trans (of_view rfl)

theorem ControlRely.sessionStop (h : Core s) {status : ℤ} (hst : status < 0)
    (hx : s.allocated x = true → ¬ Quiet x s) : ControlRely s (sessionStop x status s).2 := by
  unfold State.sessionStop
  split
  case isFalse => exact refl s
  case isTrue ha =>
    obtain ⟨-, hkeep⟩ := markStopped_status (x := x) h.status hst
    have hm : ControlRely s (markStopped x status s) :=
      { registry := rfl
        finished := fun _ => id
        hooks := fun _ _ => id
        silent := fun _ hy => hy.2
        quiet := fun _ hy => hy.unqueued
        gone := by
          intro y hy
          refine ⟨?_, rfl, rfl⟩
          rcases hkeep y with hk | ⟨rfl, -⟩
          · exact hk
          · simp [ha] at hy
        stopping := by
          intro y hy
          by_cases hxy : y = x
          · simp [markStopped, hxy]
          · simpa [markStopped, hxy] using hy
        overlooked := by
          intro y hy
          refine ⟨hy.1, hy.2.1, ?_, hy.2.2.2⟩
          by_contra hne
          exact markStopped_failed hne hy.2.2.1 }
    split
    · exact hm
    · exact hm.trans (queueSession fun hq =>
        hx ha ⟨hq.finished, hq.silent, hq.detached, hq.unqueued⟩)

theorem sessionStop_same (x : SessionId) (status : ℤ) :
    (sessionStop x status s).2.sock = s.sock ∧
      (sessionStop x status s).2.finishedNotified = s.finishedNotified ∧
      (sessionStop x status s).2.completions = s.completions := by
  unfold State.sessionStop
  split
  · split <;> exact ⟨rfl, rfl, rfl⟩
  · exact ⟨rfl, rfl, rfl⟩

theorem sessionStop_registry (x : SessionId) (status : ℤ) (s : State) :
    (sessionStop x status s).2.toRegistry = s.toRegistry := by
  unfold State.sessionStop
  split
  · split <;> rfl
  · rfl

theorem DispatcherGuar.sessionStop (h : Core s) {status : ℤ} (hst : status < 0)
    (hx : s.allocated x = true → ¬ Quiet x s) : DispatcherGuar s (sessionStop x status s).2 := by
  obtain ⟨hsock, hfin, hcount⟩ := sessionStop_same (s := s) x status
  exact .of_rely (ControlRely.sessionStop h hst hx) hsock hfin hcount

theorem DispatcherGuar.queueSession (hx : ¬ Quiet x s) : DispatcherGuar s (queueSession x s) :=
  .of_rely (ControlRely.queueSession hx) rfl rfl rfl

theorem DispatcherGuar.withFlow (ha : s.allocated x = true) (F : Dir → Flow) (n : ℤ) :
    DispatcherGuar s { s with flow := Function.update s.flow x F, bufferBytes := n } :=
  .of_rely (ControlRely.withFlow ha F n) rfl rfl rfl

theorem DispatcherGuar.releaseBuffer {d : Dir} (h : Core s) (ha : s.allocated x = true)
    (hc : s.connecting x = false) (hq : s.running x = false ∨ s.pumping = some x)
    (hl : s.finishedNotified x = true ∨ (s.flow x d).length = 0)
    (hw : ∀ y, s.bufferWaitQueued y = true → s.finishedNotified y = false) :
    DispatcherGuar s (releaseBuffer x d s) := by
  have hu := releaseBuffer_undisturbed h.waiters x d
  exact .of_rely (ControlRely.releaseBuffer h ha hc hq hl hw) hu.sock hu.finishedNotified
    (congrArg History.completions hu.history)

theorem DispatcherGuar.sessionFinish (h : Inv s) (hc : s.connecting x = false)
    (hclean : s.finishedNotified x = false → s.CleanlyDone x) :
    DispatcherGuar s (sessionFinish x s) := by
  have hrely := ControlRely.sessionFinish h hc hclean
  obtain ⟨heq, -⟩ | ⟨heq, -, -, -, -, hu⟩ := sessionFinish_cases h.toCore hc hclean
  · rw [heq]
    exact refl s
  rw [heq] at hrely ⊢
  have hcount : (signalFinished x
      (State.releaseSessionBuffers x (State.markFinished x s))).completions =
        if s.completionNotify.isSome then s.completions + 1 else s.completions := by
    rw [signalFinished, congrArg Registry.completionNotify hu.registry,
      congrArg History.completions hu.history]
    rfl
  exact
    { toControlRely := hrely
      socks := fun sk => ⟨(s.sock sk).shutdowns, congrFun hu.sock sk⟩
      spared := fun sk _ => congrFun hu.sock sk
      counted := by
        rw [hcount]
        split <;> omega
      notified := by
        intro y _ _ hnotify
        rw [hcount, if_pos hnotify]
        omega }

theorem not_quiet_of_running (h : Core s) (hx : s.running x = true) : ¬ Quiet x s := by
  intro hq
  have hf := (h.phase.isRunning x hx).2.2
  simp [hq.finished] at hf

end Tcpcc.Bridge

import Tcpcc.Runtime.SocketSteps

/-!
# The worker keeps its promises

`Working` is what the worker knows between two blocks: what it has in hand, and that it is
not inside a call of the bridge. Each block keeps the invariant and leads from one such
assertion to the next.
-/

namespace Tcpcc.Runtime
open Resumption State FlaggedList
open Bridge (SockId SessionId Outcome)

variable {s s' : State} {sk : SockId} {e : ListenerId} {looking admitted : Bool}
  {entry : Option ListenerId} {publicSock : Option SockId} {bridgeHandle : Option ℤ} {room : ℕ}

structure Working (looking : Bool) (entry : Option ListenerId) (admitted : Bool)
    (publicSock : Option SockId) (bridgeHandle : Option ℤ) (room : ℕ) (s : State) : Prop where
  thread : s.thread = .running
  looking : s.looking = looking
  entry : s.entry = entry
  admitted : s.admitted = admitted
  publicSock : s.publicSock = publicSock
  bridgeHandle : s.bridgeHandle = bridgeHandle
  removing : s.removing = none
  room : s.passAccepted + room ≤ s.acceptBatch
  uncalled : ¬ s.calls .worker

abbrev Free (room : ℕ) : State → Prop := Working true none false none none room

theorem Working.of_side (h : Working looking entry admitted publicSock bridgeHandle room s)
    (hw : s'.toWorkerSide = s.toWorkerSide) (hbatch : s'.acceptBatch = s.acceptBatch)
    (hcall : ¬ s'.calls .worker) :
    Working looking entry admitted publicSock bridgeHandle room s' where
  thread := hw ▸ h.thread
  looking := hw ▸ h.looking
  entry := hw ▸ h.entry
  admitted := hw ▸ h.admitted
  publicSock := hw ▸ h.publicSock
  bridgeHandle := hw ▸ h.bridgeHandle
  removing := hw ▸ h.removing
  room := by
    rw [show s'.passAccepted = s.passAccepted from congrArg WorkerSide.passAccepted hw, hbatch]
    exact h.room
  uncalled := hcall

theorem Working.stable (h : Working looking entry admitted publicSock bridgeHandle room s)
    (hr : WorkerRely s s') : Working looking entry admitted publicSock bridgeHandle room s' :=
  h.of_side (hr.work h.thread) (hr.batch h.thread) (hr.uncalled h.uncalled)

theorem Working.resting (h : Working false none false none none room s) :
    Resting s.toWorkerSide where
  entry := h.entry
  publicSock := h.publicSock
  bridgeHandle := h.bridgeHandle
  admitted := h.admitted
  removing := h.removing
  looking := h.looking

theorem workerGuar (hrun : s.thread = .running) (hside : s'.toControlSide = s.toControlSide)
    (hcall : s'.call = s.call) (hbridge : Bridge.ControlRely s.bridge s'.bridge)
    (hlist : s.locked = true → s'.bridges = s.bridges) (hdrained : s.drained ≠ 0 → s'.drained ≠ 0)
    (hends : EndsKept s s') (hlaw : Law s s') : workerContract.guar s s' :=
  ⟨RequestRely.of_worker hrun hside hcall hbridge hlist hdrained hends, hlaw⟩

theorem workerGuar_own (hrun : s.thread = .running) (hside : s'.toControlSide = s.toControlSide)
    (hcall : s'.call = s.call) (hbridge : s'.bridge = s.bridge) (hnext : s'.nextSock = s.nextSock)
    (hplace : s'.place = s.place) (hqueue : s'.acceptQueue = s.acceptQueue)
    (hlist : s.locked = true → s'.bridges = s.bridges) (hdrained : s.drained ≠ 0 → s'.drained ≠ 0)
    (hlaw : Law s s') : workerContract.guar s s' :=
  workerGuar hrun hside hcall (hbridge ▸ Bridge.ControlRely.refl _) hlist hdrained
    (.of_eq hnext hplace hbridge hqueue) hlaw

theorem workerGuar_refl (hrun : s.thread = .running) : workerContract.guar s s :=
  workerGuar_own hrun rfl rfl rfl rfl rfl rfl (fun _ => rfl) id (.refl s)

theorem workerGuar_return {op : Bridge.Op} {live : SessionId → Bool}
    (hcall : s.call = some ⟨.worker, op, live⟩) (hrun : s.thread = .running)
    (hside : s'.toControlSide = s.toControlSide) (hnone : s'.call = none)
    (hbridge : s'.bridge = s.bridge) (hnext : s'.nextSock = s.nextSock)
    (hplace : s'.place = s.place) (hqueue : s'.acceptQueue = s.acceptQueue)
    (hlist : s'.bridges = s.bridges)
    (hdrained : s'.drained = s.drained) (hlaw : Law s s') : workerContract.guar s s' := by
  refine ⟨?_, hlaw⟩
  exact
    { side := hside
      idle := fun hidle => absurd hrun hidle
      quiet := fun hc => by
        rcases hc with ⟨op', live', hop⟩ | ⟨hidle, -⟩
        · rw [hcall] at hop
          cases hop
        · exact absurd hrun hidle
      uncalled := fun _ => by simp [calls, hnone]
      notifier := by rw [hbridge]
      bridges := fun _ => hlist
      drained := fun hd => by rwa [hdrained]
      ends := .of_eq hnext hplace hbridge hqueue }

theorem not_locked {r : Reply} (h : unlocked s r = true) : s.locked ≠ true := by
  simpa [unlocked] using h

/-! ## Listeners -/

theorem sockShutdown_rely (s : State) (sk : SockId) :
    Bridge.ControlRely s.bridge (sockShutdown sk s).bridge := Bridge.ControlRely.setSock (.inl rfl)

theorem sockShutdown_ends (s : State) (sk : SockId) : EndsKept s (sockShutdown sk s) := by
  refine .of_same rfl rfl (fun k => ?_) fun _ _ => mem_of_mem_update_nil
  show ((setSock sk _ s).bridge.sock k).userData = _ ∧ ((setSock sk _ s).bridge.sock k).hooks = _
  rw [setSock_sock]
  split
  case isTrue hk => exact hk ▸ ⟨rfl, rfl⟩
  case isFalse => exact ⟨rfl, rfl⟩

theorem sockRelease_ends (s : State) (sk k : SockId) :
    ((sockRelease sk s).bridge.sock k).userData = (s.bridge.sock k).userData ∧
      ((sockRelease sk s).bridge.sock k).hooks = (s.bridge.sock k).hooks := by
  rw [sockRelease_sock]
  split
  case isTrue hk => exact hk ▸ ⟨rfl, rfl⟩
  case isFalse => exact ⟨rfl, rfl⟩

theorem shutdownEach_safe (l : List ListenerId)
    (h : Working looking entry admitted publicSock bridgeHandle room s) :
    Safe Inv workerContract
      (fun _ t => Working looking entry admitted publicSock bridgeHandle room t)
      (shutdownEach l) s := by
  induction l generalizing s with
  | nil => exact h
  | cons e rest ih =>
    refine Safe.seq (P := fun _ t => Working looking entry admitted publicSock bridgeHandle room t)
      (Safe.block fun t hr hi _ => ?_) fun _ t ht => ih ht
    have ht := h.stable hr
    exact ⟨hi.sockShutdown _, workerGuar ht.thread rfl rfl (sockShutdown_rely t _) (fun _ => rfl)
      id (sockShutdown_ends t _) (.of_eq rfl), ht.of_side rfl rfl ht.uncalled⟩

theorem shutdownListeners_safe (h : Working looking entry admitted publicSock bridgeHandle room s) :
    Safe Inv workerContract
      (fun _ t => Working looking entry admitted publicSock bridgeHandle room t)
      shutdownListeners s := by
  refine Safe.seq (P := fun _ t => Working looking entry admitted publicSock bridgeHandle room t)
    (Safe.await fun t hr hi _ _ => ?_) fun snapshot t ht => shutdownEach_safe snapshot ht
  have ht := h.stable hr
  exact ⟨hi, workerGuar_refl ht.thread, ht⟩

/-! ## Reaping -/

theorem Inv.beginRemove {h : ℤ} (hi : Inv s) (hw : Free room s)
    (hgone : ∀ x, s.bridge.allocated x = true → s.bridge.handle x ≠ h) :
    Inv { s with removing := some h } :=
  { hi with
    call :=
      { hi.call with
        accept := fun sk live hcall => absurd ⟨_, _, hcall⟩ hw.uncalled }
    counts := { hi.counts with }
    worker := { hi.worker with idle := fun hidle => absurd hw.thread hidle }
    cover :=
      { hi.cover with
        removed := fun k hk x hx => by
          cases hk
          exact hgone x hx } }

variable {b : ServiceBridge} {rest : List ServiceBridge}

theorem CountsOK.removed {w w' : WorkerSide} {max : ℕ} (h : CountsOK w max) (hb : b ∈ w.bridges)
    (hbridges : w'.bridges = w.bridges.erase b)
    (hactive : w'.activeConnections = w.activeConnections - 1)
    (haccepted : w'.acceptedConnections = w.acceptedConnections)
    (hcompleted : w'.completedConnections = w.completedConnections + 1)
    (hrejected : w'.rejectedConnections = w.rejectedConnections)
    (hstart : w'.bridgeStartFailures = w.bridgeStartFailures)
    (hpeak : w'.peakConnections = w.peakConnections) (hadmitted : w'.admitted = w.admitted)
    (hterminal : w'.terminalFailures ≤ w.terminalFailures + 1)
    (hsent : w'.publicToBackendBytes = (w'.joined.map Bridge.Result.publicToBackendBytes).sum)
    (hreceived : w'.backendToPublicBytes = (w'.joined.map Bridge.Result.backendToPublicBytes).sum) :
    CountsOK w' max := by
  have hpos : 0 < w.bridges.length := List.length_pos_of_mem hb
  have hlen : w'.bridges.length = w.bridges.length - 1 := by
    rw [hbridges, List.length_erase_of_mem hb]
  have hwas := h.active
  exact
    { active := by rw [hactive, hlen, hwas]
      accepted := by
        have := h.accepted
        omega
      rejected := by rw [hrejected, hstart, h.rejected]
      terminal := by
        have := h.terminal
        omega
      peak := by
        have := h.peak
        omega
      limit := fun hmax => hpeak ▸ h.limit hmax
      admitted := fun ha hmax => by
        have := h.admitted (hadmitted ▸ ha) hmax
        omega
      sent := hsent
      received := hreceived }

theorem removeBridge_eq (b : ServiceBridge) (a : Outcome) (s : State) :
    ∃ failures sent received joined err, failures ≤ s.terminalFailures + 1 ∧
      (sent = s.publicToBackendBytes ∧ received = s.backendToPublicBytes ∧ joined = s.joined ∨
        ∃ result : Bridge.Result, sent = s.publicToBackendBytes + result.publicToBackendBytes ∧
          received = s.backendToPublicBytes + result.backendToPublicBytes ∧
          joined = s.joined ++ [result]) ∧
      removeBridge b a s = { s with
        removing := none
        bridges := s.bridges.erase b
        activeConnections := s.activeConnections - 1
        completedConnections := s.completedConnections + 1
        terminalFailures := failures
        publicToBackendBytes := sent
        backendToPublicBytes := received
        joined := joined
        lastError := err } := by
  cases a with
  | value ret =>
    exact ⟨_, _, _, _, ret, Nat.le_refl _, .inl ⟨rfl, rfl, rfl⟩, rfl⟩
  | started x handle =>
    exact ⟨_, _, _, _, 0, Nat.le_refl _, .inl ⟨rfl, rfl, rfl⟩, rfl⟩
  | reaped x ret result cleanup =>
    simp only [removeBridge]
    split
    · exact ⟨_, _, _, _, ret, Nat.le_refl _, .inl ⟨rfl, rfl, rfl⟩, rfl⟩
    · simp only [countResult]
      split
      · exact ⟨_, _, _, _, result.status, Nat.le_refl _, .inr ⟨result, rfl, rfl, rfl⟩, rfl⟩
      · exact ⟨_, _, _, _, s.lastError, Nat.le_succ _, .inr ⟨result, rfl, rfl, rfl⟩, rfl⟩

structure Removing (b : ServiceBridge) (rest : List ServiceBridge) (s : State) : Prop where
  thread : s.thread = .running
  looking : s.looking = true
  hand : s.entry = none ∧ s.admitted = false ∧ s.publicSock = none ∧ s.bridgeHandle = none
  removing : s.removing = some b.handle
  listed : (b :: rest).Sublist s.bridges
  room : s.passAccepted ≤ s.acceptBatch
  uncalled : ¬ s.calls .worker

theorem Removing.stable (h : Removing b rest s) (hr : WorkerRely s s') : Removing b rest s' := by
  have hw := hr.work h.thread
  obtain ⟨he, ha, hp, hb⟩ := h.hand
  exact
    { thread := hw ▸ h.thread
      looking := hw ▸ h.looking
      hand := ⟨hw ▸ he, hw ▸ ha,
        hw ▸ hp,
        hw ▸ hb⟩
      removing := hw ▸ h.removing
      listed := (congrArg WorkerSide.bridges hw).symm ▸ h.listed
      room := by
        rw [show s'.passAccepted = s.passAccepted from congrArg WorkerSide.passAccepted hw,
          hr.batch h.thread]
        exact h.room
      uncalled := hr.uncalled h.uncalled }

theorem Inv.removeBridge (hi : Inv s) (h : Removing b rest s) (a : Outcome) :
    Inv (removeBridge b a s) := by
  have hb : b ∈ s.bridges := h.listed.subset List.mem_cons_self
  obtain ⟨failures, sent, received, joined, err, hfail, hbytes, heq⟩ := removeBridge_eq b a s
  rw [heq]
  have hsum : sent = (joined.map Bridge.Result.publicToBackendBytes).sum ∧
      received = (joined.map Bridge.Result.backendToPublicBytes).sum := by
    rcases hbytes with ⟨rfl, rfl, rfl⟩ | ⟨result, rfl, rfl, rfl⟩
    · exact ⟨hi.counts.sent, hi.counts.received⟩
    · simp [hi.counts.sent, hi.counts.received]
  have hcovered : ∀ x, s.bridge.allocated x = true →
      (∃ b' ∈ s.bridges, b'.handle = s.bridge.handle x) →
      ∃ b' ∈ s.bridges.erase b, b'.handle = s.bridge.handle x := by
    rintro x hx ⟨b', hb', hname⟩
    have hne : b' ≠ b := by
      rintro rfl
      exact hi.cover.removed _ h.removing x hx hname.symm
    exact ⟨b', (List.mem_erase_of_ne hne).mpr hb', hname⟩
  exact
    { hi with
      call :=
        { hi.call with
          accept := fun sk live hcall => absurd ⟨_, _, hcall⟩ h.uncalled }
      pending :=
        { hi.pending with
          awake := fun _ hlook => absurd (hlook.symm.trans h.looking) (by simp) }
      counts := hi.counts.removed hb rfl rfl rfl rfl rfl rfl rfl rfl hfail hsum.1 hsum.2
      life :=
        { hi.life with
          drainedEmpty := fun hd => by
            obtain ⟨hdrain, hzero, had⟩ := hi.life.drainedEmpty hd
            exact ⟨hdrain, by rw [hzero], had⟩ }
      worker :=
        { hi.worker with
          idle := fun hidle => absurd h.thread hidle }
      cover :=
        { hi.cover with
          covered := fun hn x hx => (hi.cover.covered hn x hx).imp_left (hcovered x hx)
          removed := by simp }
      cancel :=
        { hi.cancel with
          run := fun hserves hrun b' hb' =>
            hi.cancel.run hserves hrun b' (List.mem_of_mem_erase hb') } }

theorem removeBridge_free (h : Removing b rest s) (a : Outcome) :
    Free 0 (removeBridge b a s) ∧ rest.Sublist (removeBridge b a s).bridges := by
  obtain ⟨failures, sent, received, joined, err, -, -, heq⟩ := removeBridge_eq b a s
  rw [heq]
  obtain ⟨he, ha, hp, hb⟩ := h.hand
  refine ⟨⟨h.thread, h.looking, he, ha, hp, hb, rfl, h.room, h.uncalled⟩, ?_⟩
  have hrest := h.listed.erase b
  rwa [List.erase_cons_head] at hrest

theorem reapBridge_safe (h : Free 0 s) (hlist : (b :: rest).Sublist s.bridges) :
    Safe Inv workerContract (fun _ t => Free 0 t ∧ rest.Sublist t.bridges) (reapBridge b) s := by
  refine Safe.seq (P := fun a t => if a.ret = -EAGAIN then Free 0 t ∧ (b :: rest).Sublist t.bridges
      else Removing b rest t) ?_ fun a t ht => ?_
  · refine workerCall_safe rfl rfl h.thread (by simp) (by simp) (by simp) ?_
    intro live a t r hi hw hbatch hcall hok hanswer
    have hback : Inv { t with call := none } := hi.giveBack hcall hok.calm (by simp)
    have hfree : Free 0 { t with call := none } := h.of_side hw hbatch (by simp [calls])
    have hlisted : (b :: rest).Sublist t.bridges := (congrArg WorkerSide.bridges hw).symm ▸ hlist
    have hguar : ∀ k, workerContract.guar t { t with call := none, removing := k } := fun k =>
      workerGuar_return hcall hfree.thread rfl rfl rfl rfl rfl rfl rfl rfl (.of_eq rfl)
    by_cases hret : a.ret = -EAGAIN
    · simp only [hret, if_true]
      exact ⟨hback, hguar t.removing, hfree, hlisted⟩
    · simp only [hret, if_false]
      have hgone : ∀ x, t.bridge.allocated x = true → t.bridge.handle x ≠ b.handle := by
        cases a with
        | value ret =>
          rcases hanswer with hagain | ⟨-, hgone⟩
          · exact absurd hagain hret
          · exact hgone
        | started => exact hanswer.elim
        | reaped => exact hanswer.2.1
      exact ⟨hback.beginRemove hfree hgone, hguar _, hfree.thread, hfree.looking,
        ⟨hfree.entry, hfree.admitted, hfree.publicSock, hfree.bridgeHandle⟩, rfl, hlisted,
        hfree.room, hfree.uncalled⟩
  · by_cases hret : a.ret = -EAGAIN
    · simp only [hret, if_true] at ht ⊢
      exact ⟨ht.1, List.Sublist.trans (List.sublist_cons_self b rest) ht.2⟩
    · simp only [hret, if_false] at ht ⊢
      refine Safe.await fun u hr hi r hready => ?_
      have hu := ht.stable hr
      have hfree := removeBridge_free hu a
      refine ⟨hi.removeBridge hu a, ?_, hfree⟩
      obtain ⟨failures, sent, received, joined, err, -, -, heq⟩ := removeBridge_eq b a u
      simp only [heq]
      exact workerGuar_own hu.thread rfl rfl rfl rfl rfl rfl
        (fun hl => absurd hl (not_locked hready)) id
        (.of_eq rfl)

theorem serviceReap_safe (l : List ServiceBridge) (h : Free 0 s) (hlist : l.Sublist s.bridges) :
    Safe Inv workerContract (fun _ t => Free 0 t) (serviceReap l) s := by
  induction l generalizing s with
  | nil => exact h
  | cons b rest ih => exact Safe.seq (reapBridge_safe h hlist) fun _ t ht => ih ht.1 ht.2

end Tcpcc.Runtime

import Tcpcc.Runtime.StartSafe

/-!
# Draining, stopping and tearing down

The requests that bring the service to an end. A drain waits until the worker has no bridge
left. A stop tells the bridges to stop while it holds the lock, waits for the worker to exit,
and then, since nobody but the control thread is left, takes the notifier and the listeners
away. After the control thread has ended the teardown stops the service without a limit of
time, cancels the sessions that are left and releases the sockets of the table.
-/

namespace Tcpcc.Runtime
open Resumption State FlaggedList
open Bridge (SockId SessionId Outcome)

variable {s s' t u : State} {sk : SockId} {e : ListenerId} {routes : List Route}
  {q : Request} {i : ℕ}

/-! ## Draining -/

theorem shutdownEach_control {P : State → Prop} (hP : ∀ t t', P t → RequestRely t t' → P t')
    (hshut : ∀ t sk, P t → P (sockShutdown sk t)) (l : List ListenerId) (h : P s) :
    Safe Inv requestContract (fun _ t => P t) (shutdownEach l) s := by
  induction l generalizing s with
  | nil => exact h
  | cons e rest ih =>
    refine Safe.seq (P := fun _ t => P t) (Safe.block fun t hr hi _ => ?_) fun _ t ht => ih ht
    exact ⟨hi.sockShutdown _, controlGuar_frame rfl rfl (sockShutdown_rely t _) (.of_eq rfl),
      hshut t _ (hP s t h hr)⟩

theorem shutdownListeners_control {P : State → Prop} (hP : ∀ t t', P t → RequestRely t t' → P t')
    (hshut : ∀ t sk, P t → P (sockShutdown sk t)) (h : P s) :
    Safe Inv requestContract (fun _ t => P t) shutdownListeners s := by
  refine Safe.seq (P := fun _ t => P t) (Safe.await fun t hr hi _ _ => ?_) fun snapshot t ht =>
    shutdownEach_control hP hshut snapshot ht
  exact ⟨hi, controlGuar_refl t, hP s t h hr⟩

theorem complete_control {P : State → Prop} (hP : ∀ t t', P t → RequestRely t t' → P t')
    (hwork : ∀ t c, P t → P { t with workReady := c }) (h : P s) :
    Safe Inv requestContract (fun _ t => P t)
      (Prog.block fun s (_ : Reply) =>
        ((), { s with workReady := Completion.complete s.workReady })) s :=
  Safe.block fun t hr hi _ =>
    ⟨hi.complete, controlGuar_frame rfl rfl (Bridge.ControlRely.refl _) (.of_eq rfl),
      hwork t _ (hP s t h hr)⟩

theorem markDraining_spec (hi : Inv s) :
    Inv (markDraining s) ∧ requestContract.guar s (markDraining s) := by
  have hstate : (if s.state = .running then ServiceState.draining else s.state) ≠ .running := by
    split
    case isTrue => simp
    case isFalse hne => exact hne
  refine ⟨hi.shut (fun hserves => ⟨hstate, ?_⟩) (fun hserves hstop => ?_) id,
    controlGuar_frame rfl rfl (Bridge.ControlRely.refl _)
      ⟨fun _ => ?_, fun _ hd => hd, .inl,
        .off (.inr (by simp [running, markDraining, clearReady]))⟩⟩
  · split
    case isTrue => simp
    case isFalse => exact hi.life.unstopped hserves
  · have hstopping := hi.life.stops hserves hstop
    rw [if_neg (by simp [hstopping])]
    exact hstopping
  · show (if s.state = .running then ServiceState.draining else s.state) = s.state ∨
      Move s.state (if s.state = .running then ServiceState.draining else s.state)
    by_cases hrun : s.state = .running
    · rw [if_pos hrun, hrun]
      exact .inr .drain
    · rw [if_neg hrun]
      exact .inl rfl

structure Serving (routes : List Route) (s : State) : Prop extends AtRest routes s where
  allocated : s.allocated = true

theorem Serving.of_side (h : Serving routes s) (hside : s'.toControlSide = s.toControlSide)
    (hcall : s'.call = s.call) (hnotify : s'.bridge.completionNotify = s.bridge.completionNotify) :
    Serving routes s' where
  toAtRest := h.toAtRest.of_side hside (by rw [State.calls, hcall]; exact h.uncalled) hnotify
  allocated := hside ▸ h.allocated

theorem Serving.stable (h : Serving routes s) (hr : RequestRely s s') : Serving routes s' where
  toAtRest := h.toAtRest.stable hr
  allocated := hr.side ▸ h.allocated

theorem drained_take (hi : Inv s) : Completion.take s.drained = s.drained := by
  rcases hi.life.drainedAll with hz | hm
  · rw [hz]
    rfl
  · rw [hm]
    rfl

variable {timeout : Timeout} {releasing : List ListenerId}

theorem awaitDrained_safe (h : Serving routes s) :
    Safe Inv requestContract (fun done t => Serving routes t ∧ (done = true → t.drained ≠ 0))
      (awaitDrained timeout) s := by
  refine Safe.await fun t hr hi _ _ => ?_
  have hsame : ({ t with drained := Completion.take t.drained } : State) = t := by
    rw [drained_take hi]
  rw [hsame]
  exact ⟨hi, controlGuar_refl t, h.stable hr, by simp⟩

theorem Inv.drainReturns (hi : Inv s) (hdrained : s.drained ≠ 0) (b : Bool) :
    Inv { s with drainReturned := b } :=
  { hi with
    life := { hi.life with returned := fun _ => hdrained }
    stop := { hi.stop with } }

theorem serviceDrain_safe {handle : ℤ} (h : AtRest routes s) :
    Safe Inv requestContract (fun a t => AtRest routes t ∧ (a.1 = 0 → t.drainReturned = true))
      (serviceDrain handle timeout) s := by
  unfold serviceDrain
  split
  case isTrue => exact ⟨h, fun hzero => absurd hzero (by decide)⟩
  refine Safe.seq (P := fun a t => AtRest routes t ∧ t.allocated = a)
    (Safe.await fun t hr hi _ _ => ?_)
    fun a t ht => ?_
  · have ht := h.stable hr
    cases hserves : t.allocated with
    | false => exact ⟨hi, controlGuar_refl t, ht, hserves⟩
    | true =>
      obtain ⟨hinv, hguar⟩ := markDraining_spec hi
      exact ⟨hinv, hguar, ht.of_side rfl ht.uncalled rfl, hserves⟩
  obtain ⟨hrest, hserves⟩ := ht
  cases a with
  | false => exact ⟨hrest, fun hzero => absurd hzero (by decide)⟩
  | true =>
    refine Safe.seq (shutdownListeners_control (P := Serving routes) (fun _ _ h hr => h.stable hr)
      (fun _ _ h => h.of_side rfl rfl rfl) ⟨hrest, hserves⟩) fun _ u hu => ?_
    refine Safe.seq (complete_control (P := Serving routes) (fun _ _ h hr => h.stable hr)
      (fun _ _ h => h.of_side rfl rfl rfl) hu) fun _ v hv => ?_
    refine Safe.seq (awaitDrained_safe hv) fun done w hw => ?_
    obtain ⟨hw, hdrained⟩ := hw
    cases done with
    | false => exact ⟨hw.toAtRest, fun hzero => absurd hzero (by decide)⟩
    | true =>
      refine Safe.await fun x hr hi _ _ => ?_
      have hx := hw.stable hr
      have hne : x.drained ≠ 0 := hr.drained (hdrained rfl)
      refine ⟨hi.drainReturns hne _, controlGuar_frame rfl rfl (Bridge.ControlRely.refl _)
        ⟨.of_eq rfl, fun hserves _ => hserves, .inl, .keep rfl rfl rfl⟩, ?_, fun _ => hx.allocated⟩
      exact ⟨⟨hx.starting, hx.locked, hx.releasing, hx.routes, hx.uncalled⟩, hx.notified⟩

/-! ## Telling the bridges -/

theorem markStopping_spec (hi : Inv s) :
    Inv (markStopping s) ∧ requestContract.guar s (markStopping s) := by
  refine ⟨hi.shut (fun _ => by simp) (fun _ _ => rfl) fun _ => rfl,
    controlGuar_frame rfl rfl (Bridge.ControlRely.refl _)
      ⟨fun hserves => ?_, fun _ hd => hd, .inl,
        .off (.inr (by simp [running, markStopping, clearReady]))⟩⟩
  have hup := hi.life.unstopped hserves
  show ServiceState.stopping = s.state ∨ Move s.state .stopping
  cases hstate : s.state with
  | running => exact .inr .stop
  | draining => exact .inr .stopDraining
  | failed => exact .inr .stopFailed
  | stopping => exact .inl rfl
  | stopped => exact absurd hstate hup

structure Stopping (routes : List Route) (s : State) : Prop extends Serving routes s where
  stopping : s.stopping = true

theorem Stopping.of_side (h : Stopping routes s) (hside : s'.toControlSide = s.toControlSide)
    (hcall : s'.call = s.call) (hnotify : s'.bridge.completionNotify = s.bridge.completionNotify) :
    Stopping routes s' where
  toServing := h.toServing.of_side hside hcall hnotify
  stopping := hside ▸ h.stopping

theorem Stopping.stable (h : Stopping routes s) (hr : RequestRely s s') : Stopping routes s' where
  toServing := h.toServing.stable hr
  stopping := hr.side ▸ h.stopping

structure Telling (routes : List Route) (bridges : List ServiceBridge) (told : List ℤ)
    (s : State) : Prop
    extends Attending none true [] routes s where
  allocated : s.allocated = true
  notified : s.bridge.completionNotify = some serviceNotifier
  stopping : s.stopping = true
  bridges : s.bridges = bridges
  told : s.told = told

theorem Telling.stable {bridges : List ServiceBridge} {told : List ℤ}
    (h : Telling routes bridges told s)
    (hr : RequestRely s s') : Telling routes bridges told s' where
  toAttending := h.toAttending.stable hr
  allocated := hr.side ▸ h.allocated
  notified := hr.notifier.trans h.notified
  stopping := hr.side ▸ h.stopping
  bridges := (hr.bridges h.locked).trans h.bridges
  told := hr.side ▸ h.told

theorem Inv.beginTelling (hi : Inv s) : Inv { s with locked := true, told := [] } :=
  { hi with
    cancel :=
      { hi.cancel with
        each := fun _ h hh => by cases hh
        since := fun hc => hi.cancel.since (.inr (by simpa using hc)) }
    stop := { hi.stop with } }

theorem Inv.tellOne {h : ℤ} {live : SessionId → Bool} (hi : Inv s)
    (hcall : s.call = some ⟨.control, .cancelSession h, live⟩) (hcalm : Bridge.Calm s.bridge)
    (hstop : s.stopping = true)
    (htold : ∀ x, s.bridge.allocated x = true → s.bridge.handle x = h →
      s.bridge.stopping x = true) :
    Inv { s with call := none, told := s.told ++ [h] } := by
  have hgive := hi.giveBack hcall hcalm (by simp)
  exact
    { hgive with
      cancel :=
        { hgive.cancel with
          each := fun hserves h' hh' => by
            rcases List.mem_append.mp hh' with hh' | hh'
            · exact hgive.cancel.each hserves h' hh'
            · rw [List.mem_singleton.mp hh']
              exact fun x hx hxh => .inl (htold x hx hxh)
          since := fun _ => hstop }
      stop := { hgive.stop with } }

theorem cancelEach_safe {bridges : List ServiceBridge} (done rest : List ServiceBridge)
    (h : Telling routes bridges (done.map ServiceBridge.handle) s) :
    Safe Inv requestContract
      (fun _ t => Telling routes bridges ((done ++ rest).map ServiceBridge.handle) t)
      (cancelEach rest) s := by
  induction rest generalizing done s with
  | nil =>
    rw [List.append_nil]
    exact h
  | cons b rest ih =>
    refine Safe.seq
      (P := fun _ t => Telling routes bridges ((done ++ [b]).map ServiceBridge.handle) t)
      ?_ fun _ t ht => ?_
    · refine controlCall_safe (F := fun t => t.bridges = bridges ∧
        t.bridge.completionNotify = some serviceNotifier) (V := fun _ => True) rfl
        ⟨h.bridges, h.notified⟩
        (fun t t' ht hc hr => ⟨(hr.bridges (hc ▸ h.locked)).trans ht.1,
          hr.notifier.trans ht.2⟩)
        (fun _ _ ht => ht) (fun t b live _ ht _ _ hguar => ⟨ht.1, ?_⟩) (fun _ _ _ => trivial)
        (by simp)
        (by simp) ?_
      · rcases hguar.notifier with hsame | ⟨n, hn, -⟩ | ⟨n, hn, -⟩
        · exact hsame.trans ht.2
        · cases hn
        · cases hn
      intro live a t r hi hc ht _ hcall hout hanswer _
      have hstop : t.stopping = true := hc ▸ h.stopping
      have htold : ∀ x, t.bridge.allocated x = true → t.bridge.handle x = b.handle →
          t.bridge.stopping x = true := by
        cases a <;> exact hanswer
      have hatt : Attending none true [] routes { t with call := none } :=
        h.toAttending.of_side hc (by simp [calls])
      refine ⟨hi.tellOne hcall hout.calm hstop htold, controlGuar_giveBack hcall rfl rfl rfl, ?_⟩
      refine ⟨⟨hatt.starting, hatt.locked, hatt.releasing, hatt.routes, hatt.uncalled⟩,
        hc ▸ h.allocated, ht.2, hstop, ht.1, ?_⟩
      show t.told ++ [b.handle] = _
      rw [(congrArg ControlSide.told hc).trans h.told, List.map_append, List.map_singleton]
    · have hnext := ih (done ++ [b]) ht
      rw [List.append_assoc] at hnext
      exact hnext

theorem Inv.cancelled (hi : Inv s) (hstop : s.stopping = true)
    (htold : ∀ b ∈ s.bridges, b.handle ∈ s.told) :
    Inv { s with locked := false, cancelRun := true } :=
  { hi with
    cancel :=
      { hi.cancel with
        run := fun hserves _ b hb => hi.cancel.each hserves b.handle (htold b hb)
        since := fun _ => hstop }
    stop := { hi.stop with } }

theorem cancelBridges_safe (h : Stopping routes s) :
    Safe Inv requestContract (fun _ t => Stopping routes t) cancelBridges s := by
  refine Safe.seq (P := fun bridges t => Telling routes bridges [] t)
    (Safe.await fun t hr hi _ _ => ?_)
    fun bridges t ht => ?_
  · have ht := h.stable hr
    exact ⟨hi.beginTelling, controlGuar_frame rfl rfl (Bridge.ControlRely.refl _) (.of_eq rfl),
      ⟨ht.starting, rfl, ht.releasing, ht.routes, ht.uncalled⟩, ht.allocated,
      ht.notified ht.allocated,
      ht.stopping, rfl, rfl⟩
  refine Safe.seq (cancelEach_safe [] bridges ht) fun _ u hu => Safe.block fun v hr hi _ => ?_
  have hv := hu.stable hr
  refine ⟨hi.cancelled hv.stopping fun b hb => ?_,
    controlGuar_frame rfl rfl (Bridge.ControlRely.refl _) (.of_eq rfl), ?_⟩
  · rw [hv.told]
    rw [hv.bridges] at hb
    exact List.mem_map_of_mem hb
  · exact ⟨⟨⟨⟨hv.starting, rfl, hv.releasing, hv.routes, hv.uncalled⟩, fun _ => hv.notified⟩,
      hv.allocated⟩,
      hv.stopping⟩

/-! ## The end of the worker -/

structure Quitting (routes : List Route) (s : State) : Prop extends Stopping routes s where
  thread : s.thread ≠ .running

theorem Quitting.stable (h : Quitting routes s) (hr : RequestRely s s') : Quitting routes s' where
  toStopping := h.toStopping.stable hr
  thread := by
    rw [show s'.thread = s.thread from congrArg WorkerSide.thread (hr.idle h.thread)]
    exact h.thread

theorem take_ne_zero {c : Completion} (h : Completion.take c ≠ 0) : c ≠ 0 := by
  rintro rfl
  exact h rfl

theorem Inv.takeStopped (hi : Inv s) : Inv { s with stopped := Completion.take s.stopped } :=
  { hi with
    counts := { hi.counts with }
    worker := { hi.worker with stopped := fun hne => hi.worker.stopped (take_ne_zero hne) } }

theorem awaitStopped_safe (h : Stopping routes s) :
    Safe Inv requestContract
      (fun done t => if done = true then Quitting routes t else Stopping routes t ∧ timeout ≠ .max)
      (awaitStopped timeout) s := by
  refine Safe.await fun t hr hi r hready => ?_
  have ht := h.stable hr
  have hguar : requestContract.guar t { t with stopped := Completion.take t.stopped } := by
    by_cases hz : t.stopped = 0
    · have hsame : ({ t with stopped := Completion.take t.stopped } : State) = t := by
        rw [show Completion.take t.stopped = t.stopped by rw [hz]; rfl]
      rw [hsame]
      exact controlGuar_refl t
    · have hthread := hi.worker.stopped hz
      refine ⟨?_, .of_eq rfl⟩
      exact
        { work := fun hrun => absurd hrun hthread
          batch := fun _ => rfl
          dial := fun hrun => absurd hrun hthread
          rest := fun _ hrest => { hrest with }
          call := fun _ => ⟨rfl, Bridge.ControlRely.refl _⟩
          uncalled := id }
  have hstop : Stopping routes { t with stopped := Completion.take t.stopped } :=
    ht.of_side rfl rfl rfl
  refine ⟨hi.takeStopped, hguar, ?_⟩
  by_cases hz : t.stopped = 0
  · rw [if_neg (by simp [hz])]
    refine ⟨hstop, ?_⟩
    simp only [hz, ne_eq, not_true_eq_false, decide_false, Bool.false_or, expires,
      decide_eq_true_eq] at hready
    exact hready.1
  · rw [if_pos (by simp [hz])]
    exact ⟨hstop, hi.worker.stopped hz⟩

theorem stopWorker_safe (task : Bool) (h : Quitting routes s) :
    Safe Inv requestContract (fun _ t => Quitting routes t) (stopWorker task) s := by
  cases task with
  | false => exact h
  | true =>
    refine Safe.seq (P := fun _ t => Quitting routes t) (Safe.block fun t hr hi _ => ?_)
      fun _ t ht => Safe.await fun u hr hi _ _ => ⟨hi, controlGuar_refl u, ht.stable hr⟩
    have ht := h.stable hr
    have hinv : Inv { t with taskShouldStop := true } :=
      { hi with
        worker := { hi.worker with shouldStop := fun _ => ht.thread }
        stop := { hi.stop with } }
    exact ⟨hinv, controlGuar_frame rfl rfl (Bridge.ControlRely.refl _) (.of_eq rfl),
      ⟨⟨⟨⟨ht.starting, ht.locked, ht.releasing, ht.routes, ht.uncalled⟩, ht.notified⟩,
        ht.allocated⟩,
        ht.stopping⟩, ht.thread⟩

structure Vacant (s : State) : Prop where
  thread : s.thread ≠ .running
  call : s.call = none
  notifier : s.bridge.completionNotify = none
  sessions : ∀ x, s.bridge.allocated x = false

theorem Vacant.stable (h : Vacant s) (hr : RequestRely s s') : Vacant s' := by
  obtain ⟨hcall, hbridge⟩ := hr.quiet (.inr ⟨h.thread, h.call⟩)
  exact
    { thread := by
        rw [show s'.thread = s.thread from congrArg WorkerSide.thread (hr.idle h.thread)]
        exact h.thread
      call := hcall.trans h.call
      notifier := hr.notifier.trans h.notifier
      sessions := fun x => (congrFun (congrArg Bridge.Registry.allocated hbridge.registry) x).trans
        (h.sessions x) }

structure Closing (releasing : List ListenerId) (routes : List Route) (s : State) : Prop
    extends Attending none false releasing routes s, Vacant s where
  allocated : s.allocated = true
  stopping : s.stopping = true

theorem Closing.stable (h : Closing releasing routes s) (hr : RequestRely s s') :
    Closing releasing routes s' where
  toAttending := h.toAttending.stable hr
  toVacant := h.toVacant.stable hr
  allocated := hr.side ▸ h.allocated
  stopping := hr.side ▸ h.stopping

theorem clearNotifier_safe (h : Quitting routes s) :
    Safe Inv requestContract (fun _ t => Closing [] routes t)
      (callBridge .control (.clearCompletionNotifier serviceNotifier) fun _ s (_ : Reply) =>
        ((), s)) s := by
  refine controlCall_safe (F := fun t => t.thread ≠ .running)
    (V := fun b => ∀ x, b.allocated x = false) rfl h.thread
    (fun t t' ht _ hr => ?_) (fun _ _ ht => ht) (fun _ _ _ _ ht _ _ _ => ht)
    (fun t hi hr => ?_) (by simp) (by simp) ?_
  · rw [show t'.thread = t.thread from congrArg WorkerSide.thread (hr.idle ht)]
    exact ht
  · have ht := h.stable hr
    exact hi.vacant ht.thread (by simp [ht.notified ht.allocated])
  intro b a t r hi hc hthread hvacant hcall hout hanswer _
  obtain ⟨hsame, hclear⟩ : t.bridge.allocated = b.allocated ∧
      ((∀ x, t.bridge.allocated x = false) → t.bridge.completionNotify ≠ some serviceNotifier) := by
    cases a <;> exact hanswer
  have hnone : ∀ x, t.bridge.allocated x = false := fun x => (congrFun hsame x).trans (hvacant x)
  have hnotify : t.bridge.completionNotify = none := by
    by_contra hne
    obtain ⟨n, hn⟩ := Option.ne_none_iff_exists'.mp hne
    exact hclear hnone ((hi.cover.ours n hn).1 ▸ hn)
  have hatt : Attending none false [] routes { t with call := none } :=
    h.toAttending.of_side hc (by simp [calls])
  exact ⟨hi.giveBack hcall hout.calm (by simp), controlGuar_giveBack hcall rfl rfl rfl, hatt,
    ⟨hthread, rfl, hnotify, hnone⟩, hc ▸ h.allocated,
    hc ▸ h.stopping⟩

/-! ## Releasing the listeners -/

theorem Inv.clearReady (hi : Inv s) (hdrain : s.draining = true) : Inv (clearReady s) := by
  have hshut : Inv (State.clearReady
      { s with draining := true, stopping := s.stopping, state := s.state }) :=
    hi.shut (fun hserves => ⟨fun hrun => ?_, hi.life.unstopped hserves⟩) hi.life.stops id
  · rw [← hdrain] at hshut
    exact hshut
  · exact absurd (((hi.life.running hserves).mp hrun).1.symm.trans hdrain) (by simp)

theorem Inv.takeListeners (hi : Inv s) (hdrain : s.draining = true) (hthread : s.thread ≠ .running)
    (hserves : s.allocated = true) (hrel : s.releasing = []) :
    Inv { s with releasing := s.listeners, listeners := [], listenerCount := 0 } := by
  have hall : s.listeners ++ s.releasing = s.listeners := by rw [hrel, List.append_nil]
  have hnot : ∀ l, s.readyQueued l = true → False := fun l hq => by
    have hmem := (hi.ready.listed.mem l).mpr hq
    rw [hi.ready.cleared hdrain] at hmem
    cases hmem
  have howns : ∀ o k, State.owns { s with
      releasing := s.listeners, listeners := [], listenerCount := 0 } o k ↔ s.owns o k := by
    intro o k
    cases o with
    | slot | session | accept => exact Iff.rfl
    | listener l =>
      show (l ∈ [] ∨ l ∈ s.listeners) ∧ _ ↔ (l ∈ s.listeners ∨ l ∈ s.releasing) ∧ _
      rw [hrel]
      simp
  have hlist := hi.listeners
  have hfreed := hi.freed
  exact
    { hi with
      listeners :=
        { nodup := by
            have hnodup := hlist.nodup
            rwa [hall] at hnodup
          known := fun l hl => hlist.known l (List.mem_append_left _ hl)
          hooked := fun l hl => hlist.hooked l (List.mem_append_left _ hl)
          complete := fun l hl => by cases hl
          owned := fun l hin => by
            have hmem := hlist.owned l hin
            rwa [hall] at hmem
          moved := fun _ => rfl }
      count := rfl
      freed :=
        { hfreed with
          apart := fun l hl hmem => hfreed.apart l hl (List.mem_append_left _ hmem) }
      ready :=
        { hi.ready with
          queued := fun l hl => absurd hl (by simpa using hnot l)
          popped := fun l hl => absurd hl (hi.worker.not_holding hthread l)
          dormant := fun hdown => absurd (hserves.symm.trans hdown) (by simp)
          leaving := fun _ => hdrain }
      pending := PendingOK.off (by simp [running, hdrain])
      stop :=
        { hi.stop with
          served := fun k hk => (hi.stop.served k hk).imp_right
            (Exists.imp fun l => (howns (.listener l) k).mpr) }
      owners := hi.owners.congr howns fun k => Iff.rfl
      refs := fun htaint =>
        { hi.refs htaint with
          children := fun k child hchild l hl => by
            obtain ⟨hlk, hown⟩ := (hi.refs htaint).children k child hchild l hl
            rw [hrel] at hown
            exact ⟨hlk, .inl (by simpa using hown)⟩ }
      routing := { hi.routing with listed := fun _ l hl => by cases hl } }

theorem Inv.unreferenced (hi : Inv s) (hoff : s.callbackInstalled e = false)
    (hempty : s.acceptQueue (s.listenerSock e) = []) (htaint : s.tainted = false) :
    Unreferenced e s where
  socks k hk := absurd (((hi.refs htaint).socks k e hk).1.symm.trans hoff) (by simp)
  children k child hchild hl := by
    have hlk := ((hi.refs htaint).children k child hchild e hl).1
    rw [← hlk, hempty] at hchild
    cases hchild

theorem Inv.releaseListener {rest : List ListenerId} (hi : Inv s) (hrel : s.releasing = e :: rest)
    (hstart : s.starting = none) (hoff : s.callbackInstalled e = false)
    (hclean : s.tainted = false → Unreferenced e s) :
    Inv (sockRelease (s.listenerSock e) { s with releasing := s.releasing.erase e }) := by
  have hnil : s.listeners = [] := hi.listeners.moved (by simp [hrel])
  have herase : s.releasing.erase e = rest := by simp [hrel]
  have hnodup : (e :: rest).Nodup := by
    have hall := hi.listeners.nodup
    rwa [hnil, hrel] at hall
  have hnot : e ∉ rest := (List.nodup_cons.mp hnodup).1
  have hown : s.owns (.listener e) (s.listenerSock e) :=
    ⟨.inr (by simp [hrel]), by simp [hstart], rfl⟩
  have hlive := hi.owners.isLive hown
  rw [herase]
  have hmem : ∀ l, l ∈ s.releasing ↔ l = e ∨ l ∈ rest := fun l => by simp [hrel]
  have hsub : ∀ l, l ∈ s.listeners ++ rest → l ∈ s.listeners ++ s.releasing := by
    intro l hl
    rw [hnil] at hl ⊢
    exact (hmem l).mpr (.inr hl)
  have hcore := hi.toCore.sockRelease hlive
  have hcore' : Core { sockRelease (s.listenerSock e) s with releasing := rest } :=
    { hcore with
      listeners :=
        { nodup := by
            show (s.listeners ++ rest).Nodup
            rw [hnil]
            exact (List.nodup_cons.mp hnodup).2
          known := fun l hl => hcore.listeners.known l (hsub l hl)
          hooked := fun l hl => hcore.listeners.hooked l (hsub l hl)
          complete := hcore.listeners.complete
          owned := fun l hin => by
            have hin' : s.callbackInstalled l = true := hin
            have hle : l ≠ e := fun he => absurd (hin'.symm.trans (he ▸ hoff)) (by simp)
            have hl := hi.listeners.owned l hin'
            rw [hnil] at hl
            show l ∈ s.listeners ++ rest
            rw [hnil]
            exact ((hmem l).mp hl).resolve_left hle
          moved := fun _ => hnil }
      freed := { hcore.freed with apart := fun l hl hin => hcore.freed.apart l hl (hsub l hin) }
      ready := { hcore.ready with leaving := fun _ => hi.ready.leaving (by simp [hrel]) }
      stop :=
        { hcore.stop with
          served := fun k hk => by
            rcases hcore.stop.served k hk with hone | ⟨l, hl, hs, hlk⟩
            · exact .inl hone
            · by_cases hle : l = e
              · refine .inl ?_
                have hk' : k = s.listenerSock e := hle ▸ hlk.symm
                rw [hk']
                show ((sockRelease (s.listenerSock e) s).bridge.sock _).releases = 1
                rw [sockRelease_sock, if_pos rfl]
                simp [hlive.2]
              · exact .inr
                  ⟨l, hl.imp_right fun hl => ((hmem l).mp hl).resolve_left hle, hs, hlk⟩ } }
  refine ⟨hcore', hi.owners.lose hown (fun j => ?_) (fun o ho j => ?_)
    (fun j => unreleased_release _ _ _),
    fun htaint => ⟨fun k l hl => ?_, fun k child hchild l hl => ?_⟩,
    hi.routing⟩
  · show (e ∈ s.listeners ∨ e ∈ rest) ∧ s.starting ≠ some e ∧ s.listenerSock e = j ↔
      j ≠ s.listenerSock e ∧ (e ∈ s.listeners ∨ e ∈ s.releasing) ∧ s.starting ≠ some e ∧
        s.listenerSock e = j
    simp only [hnil, List.not_mem_nil, hnot, or_self, false_and, false_iff, not_and]
    exact fun hne _ _ he => hne he.symm
  · cases o with
    | slot | session | accept => exact Iff.rfl
    | listener l =>
      have hle : l ≠ e := fun he => ho (by rw [he])
      show (l ∈ s.listeners ∨ l ∈ rest) ∧ s.starting ≠ some l ∧ s.listenerSock l = j ↔
        (l ∈ s.listeners ∨ l ∈ s.releasing) ∧ s.starting ≠ some l ∧ s.listenerSock l = j
      simp [hmem, hle]
  · exact (hi.refs htaint).socks k l ((sockRelease_ends s _ k).1.symm.trans hl)
  · obtain ⟨hlk, hown⟩ := (hi.refs htaint).children k child hchild l hl
    refine ⟨hlk, hown.imp_right fun hl' => ((hmem l).mp hl').resolve_left ?_⟩
    rintro rfl
    exact (hclean htaint).children k child hchild hl

theorem Closing.not_running (h : Closing releasing routes s) : s.running = false := by
  simp [running, h.stopping]

theorem Closing.unhook (h : Closing releasing routes s) :
    Closing releasing routes (unhookListener e s) := by
  obtain ⟨b, heq, hb⟩ := unhookListener_eq s e
  rw [heq]
  exact
    { starting := h.starting
      locked := h.locked
      releasing := h.releasing
      routes := h.routes
      uncalled := h.uncalled
      thread := h.thread
      call := h.call
      notifier := (congrArg Bridge.Registry.completionNotify hb.registry).trans h.notifier
      sessions := fun x =>
        (congrFun (congrArg Bridge.Registry.allocated hb.registry) x).trans (h.sessions x)
      allocated := h.allocated
      stopping := h.stopping }

theorem unhookClosing_spec {rest : List ListenerId} (hi : Inv s)
    (h : Closing (e :: rest) routes s) :
    Inv (unhookListener e s) ∧ requestContract.guar s (unhookListener e s) := by
  have hnil : s.listeners = [] := hi.listeners.moved (by simp [h.releasing])
  obtain ⟨hside, hcall, -, -, hstate, hdrained, hsame, hbatch, hb⟩ := unhookListener_sides s e
  refine ⟨hi.unhook (hi.worker.not_holding h.thread e) (.inr ⟨by simp [hnil], h.not_running⟩)
    fun _ => .inl (by simp [h.releasing]), ?_⟩
  exact controlGuar hside hcall hb hbatch (fun _ _ _ => unhookListener_dialable)
    ⟨.of_eq hstate, fun _ hd => hdrained.trans hd, fun ht => .inl (hsame.symm.trans ht),
      .off (.inl h.not_running)⟩

structure Emptied (releasing : List ListenerId) (routes : List Route) (s : State) : Prop
    extends Closing releasing routes s where
  listeners : s.listeners = []

theorem Emptied.stable (h : Emptied releasing routes s) (hr : RequestRely s s') :
    Emptied releasing routes s' where
  toClosing := h.toClosing.stable hr
  listeners := hr.side ▸ h.listeners

theorem Emptied.unhook (h : Emptied releasing routes s) :
    Emptied releasing routes (unhookListener e s) where
  toClosing := h.toClosing.unhook
  listeners := by
    obtain ⟨b, heq, -⟩ := unhookListener_eq s e
    rw [heq]
    exact h.listeners

theorem releaseEach_safe (l : List ListenerId) (h : Emptied l routes s) :
    Safe Inv requestContract (fun _ t => Emptied [] routes t) (releaseEach l) s := by
  induction l generalizing s with
  | nil => exact h
  | cons e rest ih =>
    refine Safe.seq (P := fun _ t => Emptied (e :: rest) routes t ∧ t.callbackInstalled e = false)
      (Safe.block fun t hr hi _ => ?_) fun _ t ht => ?_
    · obtain ⟨hinv, hguar⟩ := unhookClosing_spec hi (h.stable hr).toClosing
      exact ⟨hinv, hguar, (h.stable hr).unhook, unhookListener_installed_self t e⟩
    refine Safe.seq (P := fun _ u => Emptied (e :: rest) routes u ∧ u.callbackInstalled e = false ∧
      (u.tainted = false → Unreferenced e u)) (Safe.block fun u hr hi _ => ?_) fun _ u hu => ?_
    · have hu := ht.1.stable hr
      have hoff : u.callbackInstalled e = false := hr.side ▸ ht.2
      have hshut := hi.sockShutdown (u.listenerSock e)
      refine ⟨hshut, controlGuar_frame rfl rfl (sockShutdown_rely u _) (.of_eq rfl), ?_,
        hoff, fun htaint =>
          hshut.unreferenced hoff (Function.update_self ..) htaint⟩
      exact ⟨⟨⟨hu.starting, hu.locked, hu.releasing, hu.routes, hu.uncalled⟩,
        ⟨hu.thread, hu.call, hu.notifier, hu.sessions⟩, hu.allocated, hu.stopping⟩, hu.listeners⟩
    refine Safe.seq (P := fun _ v => Emptied rest routes v) (Safe.block fun v hr hi _ => ?_)
      fun _ v hv => ih hv
    have hv := hu.1.stable hr
    have hoff : v.callbackInstalled e = false := hr.side ▸ hu.2.1
    have hclean : v.tainted = false → Unreferenced e v := fun htaint =>
      hr.ends.refs e (hu.2.2 ((congrArg ControlSide.tainted hr.side).symm.trans htaint))
    have hmem : e ∈ v.listeners ++ v.releasing := by simp [hv.releasing]
    have hnodup := hi.listeners.nodup
    have hrelease := hi.releaseListener hv.releasing hv.starting hoff hclean
    have hfree := hrelease.freeListener (e := e) (hi.listeners.known e hmem).1 (by
      show e ∉ v.listeners ++ v.releasing.erase e
      rw [hv.listeners, hv.releasing] at hnodup ⊢
      simpa using (List.nodup_cons.mp hnodup).1)
    refine ⟨hfree, controlGuar_frame rfl rfl (Bridge.ControlRely.setSock (.inl rfl))
      (.of_eq rfl), ?_⟩
    refine ⟨⟨⟨hv.starting, hv.locked, ?_, hv.routes, hv.uncalled⟩,
      ⟨hv.thread, hv.call, hv.notifier, hv.sessions⟩, hv.allocated, hv.stopping⟩, hv.listeners⟩
    show v.releasing.erase e = rest
    simp [hv.releasing]

theorem releaseListeners_safe (h : Closing [] routes s) :
    Safe Inv requestContract (fun _ t => Emptied [] routes t) releaseListeners s := by
  refine Safe.seq (P := fun _ t => Closing [] routes t) (Safe.block fun t hr hi _ => ?_)
    fun _ t ht => ?_
  · have ht := h.stable hr
    refine ⟨hi.clearReady (hi.life.stopDrains ht.stopping),
      controlGuar_frame rfl rfl (Bridge.ControlRely.refl _)
      ⟨.of_eq rfl, fun _ hd => hd, .inl, .off (.inl ht.not_running)⟩, ?_⟩
    exact ⟨⟨ht.starting, ht.locked, ht.releasing, ht.routes, ht.uncalled⟩,
      ⟨ht.thread, ht.call, ht.notifier, ht.sessions⟩, ht.allocated, ht.stopping⟩
  refine Safe.seq (P := fun release u => Emptied release routes u)
    (Safe.await fun u hr hi _ _ => ?_)
    fun release u hu => releaseEach_safe release hu
  have hu := ht.stable hr
  refine ⟨hi.takeListeners (hi.life.stopDrains hu.stopping) hu.thread hu.allocated hu.releasing,
    controlGuar_frame rfl rfl (Bridge.ControlRely.refl _)
      (.of_eq rfl), ?_⟩
  exact ⟨⟨⟨hu.starting, hu.locked, rfl, hu.routes, hu.uncalled⟩,
    ⟨hu.thread, hu.call, hu.notifier, hu.sessions⟩, hu.allocated, hu.stopping⟩, rfl⟩

/-! ## The stop as a whole -/

theorem Inv.markStopped (hi : Inv s) (h : Emptied [] routes s) : Inv (markStopped s) := by
  have hdrain := hi.life.stopDrains h.stopping
  exact
    { hi with
      call := { hi.call with control := fun _ _ _ => rfl }
      ready := { hi.ready with dormant := fun _ => ⟨h.listeners, hi.ready.cleared hdrain⟩ }
      pending := PendingOK.off (by simp [running, Runtime.markStopped])
      life :=
        { hi.life with
          running := by simp [Runtime.markStopped]
          unstopped := by simp [Runtime.markStopped]
          stops := by simp [Runtime.markStopped] }
      worker := { hi.worker with serves := fun hrun => absurd hrun h.thread }
      cover := { hi.cover with ours := fun n hn => absurd (h.notifier.symm.trans hn) (by simp) }
      cancel :=
        { hi.cancel with
          each := by simp [Runtime.markStopped]
          run := by simp [Runtime.markStopped] }
      stop :=
        { born := hi.stop.born
          served := hi.stop.served
          gone := fun _ x _ => h.sessions x
          closed := fun _ => ⟨rfl, h.notifier, fun k hk => by
            rcases hi.stop.served k hk with hone | ⟨l, hl, -, -⟩
            · exact hone
            · rw [h.listeners, h.releasing] at hl
              simp at hl⟩ } }

structure Stopped (routes : List Route) (limited : Prop) (ret : ℤ) (s : State) : Prop
    extends AtRest routes s where
  returned : ret = 0 → s.stopReturned = true ∧ s.allocated = false
  serving : s.allocated = true → limited

def Marked (routes : List Route) : Option Bool → State → Prop
  | none, t => AtRest routes t ∧ t.allocated = false
  | some _, t => Stopping routes t

theorem serviceStop_safe {handle : ℤ} (h : AtRest routes s) :
    Safe Inv requestContract
      (fun a t => Stopped routes (handle ≠ serviceHandle ∨ timeout ≠ .max) a.1 t)
      (serviceStop handle timeout) s := by
  unfold serviceStop
  split
  case isTrue hinvalid =>
    refine ⟨h, fun hzero => absurd hzero (by decide), fun _ => hinvalid.imp_right ?_⟩
    rintro hzero rfl
    cases hzero
  refine Safe.seq (P := Marked routes) (Safe.await fun t hr hi _ _ => ?_) fun a t ht => ?_
  · have ht := h.stable hr
    cases hserves : t.allocated with
    | false => exact ⟨hi, controlGuar_refl t, ht, hserves⟩
    | true =>
      obtain ⟨hinv, hguar⟩ := markStopping_spec hi
      exact ⟨hinv, hguar,
        ⟨⟨⟨ht.starting, ht.locked, ht.releasing, ht.routes, ht.uncalled⟩, ht.notified⟩,
        hserves⟩, rfl⟩
  cases a with
  | none =>
    obtain ⟨hrest, hdown⟩ := ht
    exact ⟨hrest, fun hzero => absurd hzero (by decide), fun hserves =>
      absurd (hserves.symm.trans hdown) (by simp)⟩
  | some task =>
    refine Safe.seq (shutdownListeners_control (P := Stopping routes) (fun _ _ h hr => h.stable hr)
      (fun _ _ h => h.of_side rfl rfl rfl) ht) fun _ u hu => ?_
    refine Safe.seq (cancelBridges_safe hu) fun _ v hv => ?_
    refine Safe.seq (complete_control (P := Stopping routes) (fun _ _ h hr => h.stable hr)
      (fun _ _ h => h.of_side rfl rfl rfl) hv) fun _ w hw => ?_
    refine Safe.seq (awaitStopped_safe hw) fun done x hx => ?_
    cases done with
    | false =>
      obtain ⟨hx, hlimited⟩ : Stopping routes x ∧ timeout ≠ .max := by simpa using hx
      exact ⟨hx.toAtRest, fun hzero => absurd hzero (by decide), fun _ => .inr hlimited⟩
    | true =>
      have hx' : Quitting routes x := by simpa using hx
      refine Safe.seq (stopWorker_safe task hx') fun _ y hy => ?_
      refine Safe.seq (clearNotifier_safe hy) fun _ z hz => ?_
      refine Safe.seq (releaseListeners_safe hz) fun _ z' hz' => Safe.await fun z'' hr hi _ _ => ?_
      have hdone := hz'.stable hr
      have hstate := hi.life.stops hdone.allocated hdone.stopping
      refine ⟨hi.markStopped hdone, controlGuar_frame rfl rfl (Bridge.ControlRely.refl _)
        ⟨fun _ => .inr (hstate ▸ Move.stopped), fun _ hd => hd, .inl, .keep rfl rfl rfl⟩, ?_⟩
      exact ⟨⟨⟨hdone.starting, hdone.locked, hdone.releasing, hdone.routes, hdone.uncalled⟩,
        fun hserves => by cases hserves⟩, fun _ => ⟨rfl, rfl⟩, fun hserves => by cases hserves⟩

end Tcpcc.Runtime

import Tcpcc.Runtime.ListenerSteps

/-!
# Starting the service

What `tcpcc_service_start` leaves when it succeeds and when it fails, on each of its ways
back. Until the worker exists nobody but the control thread works on the listener, so the ends
of the sockets of the table can be compared with those before the request.
-/

namespace Tcpcc.Runtime
open Resumption State FlaggedList
open Bridge (SockId SessionId Outcome)
open Function (update update_of_ne update_self)

variable {s s' t u : State} {sk : SockId} {e : ListenerId} {config : ServiceConfig}
  {routes : List Route} {q : Request} {i : ℕ}

/-! ## What a start leaves -/

structure ServiceKept (s t : State) : Prop where
  stopping : t.stopping = s.stopping
  task : t.task = s.task
  maxConnections : t.maxConnections = s.maxConnections
  acceptBatch : t.acceptBatch = s.acceptBatch
  entries : ∀ e ∈ s.listeners, t.listenerSock e = s.listenerSock e ∧
    t.listenerConfig e = s.listenerConfig e ∧ t.callbackInstalled e = s.callbackInstalled e ∧
    t.savedDataReady e = s.savedDataReady e

structure FailedStart (s t : State) : Prop where
  table : t.table = s.table
  allocated : t.allocated = s.allocated
  listeners : t.listeners = s.listeners
  listenerCount : t.listenerCount = s.listenerCount
  notifier : t.bridge.completionNotify = s.bridge.completionNotify
  ends : ∀ i k, s.table i = some k → SameEnd k s t
  kept : s.allocated = true → ServiceKept s t

theorem FailedStart.of_rely (h : RequestRely s t) : FailedStart s t where
  table := congrArg ControlSide.table h.side
  allocated := congrArg ControlSide.allocated h.side
  listeners := congrArg ControlSide.listeners h.side
  listenerCount := congrArg ControlSide.listenerCount h.side
  notifier := h.notifier
  ends := h.ends.tabled
  kept _ :=
    { stopping := congrArg ControlSide.stopping h.side
      task := congrArg ControlSide.task h.side
      maxConnections := congrArg ControlSide.maxConnections h.side
      acceptBatch := congrArg ControlSide.acceptBatch h.side
      entries := fun e _ => ⟨congrFun (congrArg ControlSide.listenerSock h.side) e,
        congrFun (congrArg ControlSide.listenerConfig h.side) e,
        congrFun (congrArg ControlSide.callbackInstalled h.side) e,
        congrFun (congrArg ControlSide.savedDataReady h.side) e⟩ }

theorem FailedStart.trans (h : FailedStart s t) (h' : FailedStart t u) : FailedStart s u where
  table := h'.table.trans h.table
  allocated := h'.allocated.trans h.allocated
  listeners := h'.listeners.trans h.listeners
  listenerCount := h'.listenerCount.trans h.listenerCount
  notifier := h'.notifier.trans h.notifier
  ends i k hk := (h.ends i k hk).trans (h'.ends i k ((congrFun h.table i).trans hk))
  kept hserves := by
    have hk := h.kept hserves
    have hk' := h'.kept (h.allocated.trans hserves)
    exact
      { stopping := hk'.stopping.trans hk.stopping
        task := hk'.task.trans hk.task
        maxConnections := hk'.maxConnections.trans hk.maxConnections
        acceptBatch := hk'.acceptBatch.trans hk.acceptBatch
        entries := fun e he => by
          obtain ⟨hs, hc, hi, hd⟩ := hk.entries e he
          obtain ⟨hs', hc', hi', hd'⟩ := hk'.entries e (h.listeners ▸ he)
          exact ⟨hs'.trans hs, hc'.trans hc, hi'.trans hi, hd'.trans hd⟩ }

def State.openRoutes (s : State) : List Route := s.listeners.map s.route

structure Opened (handle : ℤ) (r : Route) (s t : State) : Prop where
  table : t.table = update s.table (handle.toNat - 1) none
  opened : t.openRoutes = s.openRoutes ++ [r]
  places : PlacesKept s t
  known : ∀ e ∈ t.listeners, t.listenerSock e < t.nextSock

theorem openRoutes_congr (hside : t.toControlSide = s.toControlSide)
    (hplace : ∀ e ∈ s.listeners, t.place (s.listenerSock e) = s.place (s.listenerSock e)) :
    t.openRoutes = s.openRoutes := by
  unfold openRoutes
  rw [show t.listeners = s.listeners from congrArg ControlSide.listeners hside]
  refine List.map_congr_left fun e he => ?_
  unfold State.route routeOf
  rw [show t.listenerSock = s.listenerSock from congrArg ControlSide.listenerSock hside,
    show t.listenerConfig = s.listenerConfig from congrArg ControlSide.listenerConfig hside,
    hplace e he]

theorem Opened.stable {handle : ℤ} {r : Route} (h : Opened handle r s t) (hr : RequestRely t u) :
    Opened handle r s u where
  table := hr.side ▸ h.table
  opened := (openRoutes_congr hr.side fun e he => hr.ends.placed _ (h.known e he)).trans h.opened
  places := h.places.trans hr.places
  known e he := by
    rw [show u.listeners = t.listeners from congrArg ControlSide.listeners hr.side] at he
    rw [show u.listenerSock = t.listenerSock from congrArg ControlSide.listenerSock hr.side]
    exact Nat.lt_of_lt_of_le (h.known e he) hr.ends.grows

theorem Opened.of_rely {handle : ℤ} {r : Route} (hi : Inv s) (hr : RequestRely s t)
    (h : Opened handle r t u) : Opened handle r s u where
  table := by
    rw [h.table, show t.table = s.table from congrArg ControlSide.table hr.side]
  opened := by
    rw [h.opened, openRoutes_congr hr.side fun e he => hr.ends.placed _
      (hi.listeners.known e (List.mem_append_left _ he)).2]
  places := hr.places.trans h.places
  known := h.known

/-! ## A start that finds no service -/

structure Linked (s : State) (sk : SockId) (config : ServiceConfig) (e : ListenerId) (t : State) :
    Prop extends Attending (some e) false [] s.routes t where
  table : t.table = s.table
  allocated : t.allocated = true
  listeners : t.listeners = [e]
  sock : t.listenerSock e = sk
  config : t.listenerConfig e = config
  known : (e : ℕ) < t.nextListener
  unstopped : t.stopReturned = false

theorem Linked.of_side (h : Linked s sk config e t) (hside : u.toControlSide = t.toControlSide)
    (hcall : ¬ u.calls .control) : Linked s sk config e u where
  toAttending := h.toAttending.of_side hside hcall
  table := hside ▸ h.table
  allocated := hside ▸ h.allocated
  listeners := hside ▸ h.listeners
  sock := hside ▸ h.sock
  config := hside ▸ h.config
  known := (congrArg ControlSide.nextListener hside).symm ▸ h.known
  unstopped := hside ▸ h.unstopped

structure Unlinked (s : State) (e : ListenerId) (t : State) : Prop
    extends Attending none false [] s.routes t where
  table : t.table = s.table
  listeners : t.listeners = []
  known : (e : ℕ) < t.nextListener
  unstopped : t.stopReturned = false

theorem Unlinked.of_side (h : Unlinked s e t) (hside : u.toControlSide = t.toControlSide)
    (hcall : ¬ u.calls .control) : Unlinked s e u where
  toAttending := h.toAttending.of_side hside hcall
  table := hside ▸ h.table
  listeners := hside ▸ h.listeners
  known := (congrArg ControlSide.nextListener hside).symm ▸ h.known
  unstopped := hside ▸ h.unstopped

structure Unserved (s : State) (sk : SockId) (data : UserData) (hooks : Hooks)
    (t : State) : Prop where
  thread : t.thread ≠ .running
  fresh : t.stopped = 0
  userData : (t.bridge.sock sk).userData = data
  hooks : (t.bridge.sock sk).hooks = hooks
  others : ∀ i k, s.table i = some k → k ≠ sk → SameEnd k s t
  places : PlacesKept s t

section Unserved
variable {data : UserData} {hooks : Hooks}

theorem Unserved.stable (h : Unserved s sk data hooks t) (htable : t.table = s.table)
    (hsk : s.table i = some sk) (hr : RequestRely t u) : Unserved s sk data hooks u := by
  have hw := hr.idle h.thread
  have htab : ∀ j k, s.table j = some k → SameEnd k t u := fun j k hk =>
    hr.ends.tabled j k ((congrFun htable j).trans hk)
  have hend := htab i sk hsk
  exact
    { thread := by
        rw [show u.thread = t.thread from congrArg WorkerSide.thread hw]
        exact h.thread
      fresh := hw ▸ h.fresh
      userData := hend.userData.trans h.userData
      hooks := hend.hooks.trans h.hooks
      others := fun j k hk hne => (h.others j k hk hne).trans (htab j k hk)
      places := h.places.trans hr.places }

theorem Unserved.frame (h : Unserved s sk data hooks t) (hw : u.toWorkerSide = t.toWorkerSide)
    (hbridge : u.bridge = t.bridge) (hplace : u.place = t.place) (hnext : u.nextSock = t.nextSock) :
    Unserved s sk data hooks u where
  thread := by
    rw [show u.thread = t.thread from congrArg WorkerSide.thread hw]
    exact h.thread
  fresh := hw ▸ h.fresh
  userData := by
    rw [hbridge]
    exact h.userData
  hooks := by
    rw [hbridge]
    exact h.hooks
  others j k hk hne := by
    have hold := h.others j k hk hne
    refine ⟨(congrFun hplace k).trans hold.place, ?_, ?_⟩
    · rw [hbridge]
      exact hold.userData
    · rw [hbridge]
      exact hold.hooks
  places := ⟨hnext ▸ h.places.grows, fun k hk => (congrFun hplace k).trans (h.places.placed k hk)⟩

theorem Unserved.putBridge {b : Bridge.State} {op : Bridge.Op} {live : SessionId → Bool}
    (h : Unserved s sk data hooks t) (hi : Inv t) (htable : t.table = s.table)
    (hsk : s.table i = some sk) (hcall : t.call = some ⟨.control, op, live⟩)
    (hop : ∀ k, op ≠ .start k) (hguar : Bridge.ControlGuar live op t.bridge b) :
    Unserved s sk data hooks (t.putBridge b) := by
  have htab : ∀ j k, s.table j = some k → b.sock k = t.bridge.sock k := fun j k hk =>
    hi.tabled_opStep hcall (.inr (hop k)) hguar ((congrFun htable j).trans hk)
  have hend := htab i sk hsk
  exact
    { thread := h.thread
      fresh := h.fresh
      userData := hend ▸ h.userData
      hooks := hend ▸ h.hooks
      others := fun j k hk hne => by
        have hold := h.others j k hk hne
        have hsame := htab j k hk
        exact ⟨hold.place, hsame ▸ hold.userData, hsame ▸ hold.hooks⟩
      places := ⟨h.places.grows, h.places.placed⟩ }

end Unserved

abbrev Unhooked (s : State) (sk : SockId) : State → Prop :=
  Unserved s sk (s.bridge.sock sk).userData (s.bridge.sock sk).hooks

theorem Unserved.ends (h : Unhooked s sk t) (hlt : sk < s.nextSock) {j : ℕ} {k : SockId}
    (hk : s.table j = some k) : SameEnd k s t := by
  by_cases hne : k = sk
  · subst hne
    exact ⟨h.places.placed k hlt, h.userData, h.hooks⟩
  · exact h.others j k hk hne

theorem Inv.vacant (hi : Inv s) (hthread : s.thread ≠ .running)
    (hn : s.bridge.completionNotify ≠ none)
    (x : SessionId) : s.bridge.allocated x = false := by
  cases hx : s.bridge.allocated x with
  | false => rfl
  | true =>
    obtain ⟨-, -, hhandle, -, -, hbridges⟩ := hi.worker.idle hthread
    rcases hi.cover.covered hn x hx with ⟨b, hb, -⟩ | ⟨k, live, hcall, -⟩ | hflight
    · rw [hbridges] at hb
      cases hb
    · exact absurd (hi.call.worker _ _ hcall) hthread
    · rw [hhandle] at hflight
      cases hflight

theorem abandonStart_safe {ret : ℤ} (notifierInstalled : Bool) (hi : Inv s)
    (hdown : s.allocated = false)
    (hsk : s.table i = some sk) (hlt : sk < s.nextSock) (h : Linked s sk config e t)
    (hoff : t.callbackInstalled e = false) (hu : Unhooked s sk t)
    (hnotify : notifierInstalled = false → t.bridge.completionNotify = none) :
    Safe Inv requestContract (fun a u => a = ret ∧ FailedStart s u ∧ AtRest s.routes u)
      (abandonStart e notifierInstalled ret) t := by
  obtain ⟨hnil, -⟩ := hi.ready.dormant hdown
  have hnone := hi.no_notifier hdown
  have hlast : ∀ w, Unlinked s e w ∧ Unhooked s sk w ∧ w.bridge.completionNotify = none →
      Safe Inv requestContract (fun a u => a = ret ∧ FailedStart s u ∧ AtRest s.routes u)
        (Prog.await unlocked fun s _ =>
          (ret, freeListener e (clearReady { s with allocated := false, listenerCount := 0 })))
            w := by
    rintro w ⟨hlink, hw, hnw⟩
    refine Safe.await fun x hr hix _ _ => ?_
    have hx := hlink.of_side hr.side (hr.uncalled hlink.uncalled)
    have hux := hw.stable hlink.table hsk hr
    have hnx : x.bridge.completionNotify = none := hr.notifier.trans hnw
    have hinv : Inv (clearReady { x with allocated := false, listenerCount := 0 }) :=
      hix.abandon hux.thread hx.listeners hx.releasing hnx hx.unstopped
    have hfree := hinv.freeListener (e := e) hx.known (by
      show e ∉ x.listeners ++ x.releasing
      simp [hx.listeners, hx.releasing])
    refine ⟨hfree, controlGuar_frame rfl rfl (Bridge.ControlRely.refl _)
      ⟨.of_eq rfl, fun _ hd => hd, .inl, .off (.inr rfl)⟩, rfl, ?_, ?_⟩
    · exact
        { table := hx.table
          allocated := hdown.symm
          listeners := hx.listeners.trans hnil.symm
          listenerCount := by
            rw [hi.count, hnil]
            rfl
          notifier := hnx.trans hnone.symm
          ends := fun j k hk => by
            have hend := hux.ends hlt hk
            exact ⟨hend.place, hend.userData, hend.hooks⟩
          kept := fun hserves => absurd (hserves.symm.trans hdown) (by simp) }
    · exact ⟨⟨hx.starting, hx.locked, hx.releasing, hx.routes, hx.uncalled⟩, by
        simp [State.freeListener, clearReady]⟩
  refine Safe.seq (P := fun _ v => Unlinked s e v ∧ Unhooked s sk v ∧
    (notifierInstalled = false → v.bridge.completionNotify = none))
    (Safe.await fun v hr hi _ _ => ?_) fun _ v hv => ?_
  · have hv := h.of_side hr.side (hr.uncalled h.uncalled)
    have hoffv : v.callbackInstalled e = false := hr.side ▸ hoff
    have huv := hu.stable h.table hsk hr
    refine ⟨hi.unlinkListener (by simp [hv.listeners]) hv.starting hoffv hv.allocated,
      controlGuar_frame rfl rfl (Bridge.ControlRely.refl _)
        (.of_eq rfl), ?_, huv.frame rfl rfl rfl rfl,
      fun hoff => hr.notifier.trans (hnotify hoff)⟩
    refine ⟨⟨rfl, hv.locked, hv.releasing, hv.routes, hv.uncalled⟩, hv.table, ?_, hv.known,
      hv.unstopped⟩
    show v.listeners.erase e = []
    simp [hv.listeners]
  obtain ⟨hlink, huv, hnv⟩ := hv
  cases notifierInstalled with
  | false => exact hlast v ⟨hlink, huv, hnv rfl⟩
  | true =>
    refine Safe.seq ?_ fun _ w hw => hlast w hw
    refine controlCall_safe (F := Unhooked s sk) (V := fun _ => True) rfl huv
      (fun w w' hw hc hr => hw.stable (hc ▸ hlink.table) hsk hr)
      (fun w _ hw => hw.frame rfl rfl rfl rfl)
      (fun w b live hi hw hc hcall hguar => hw.putBridge hi
        (hc ▸ hlink.table) hsk hcall (by simp) hguar)
      (fun _ _ _ => trivial) (by simp) (by simp) ?_
    intro b a w r hi hc hw _ hcall hout hanswer _
    have hlinkw : Unlinked s e { w with call := none } := hlink.of_side hc (by simp [calls])
    have hnonew : w.bridge.completionNotify = none := by
      by_contra hne
      obtain ⟨n, hn⟩ := Option.ne_none_iff_exists'.mp hne
      have hours := (hi.cover.ours n hn).1
      subst hours
      have hclear : (∀ x, w.bridge.allocated x = false) →
          w.bridge.completionNotify ≠ some serviceNotifier := by
        cases a <;> exact hanswer.2
      exact hclear (hi.vacant hw.thread hne) hn
    exact ⟨hi.giveBack hcall hout.calm (by simp), controlGuar_giveBack hcall rfl rfl rfl, hlinkw,
      hw.frame rfl rfl rfl rfl, hnonew⟩

theorem Inv.unhook_queue (hi : Inv s) (hstart : s.starting = some e)
    (hlist : u.readyList = s.readyList)
    (hqueued : u.readyQueued = s.readyQueued) (hw : u.toWorkerSide = s.toWorkerSide) :
    QueueStep s (unhookListener e u) := by
  obtain ⟨b, heq, -⟩ := unhookListener_eq u e
  refine .withdraw e hstart ?_ ?_ ?_
  · rw [heq]
    show (if u.readyQueued e then u.readyList.erase e else u.readyList) = _
    rw [hlist, hqueued]
    split
    case isTrue => rfl
    case isFalse hq =>
      have hq' : s.readyQueued e = false := by simpa using hq
      exact (List.erase_of_not_mem (hi.ready.listed.not_mem.mpr hq')).symm
  · rw [heq]
    exact congrArg WorkerSide.entry hw
  · rw [heq]
    exact congrArg WorkerSide.accepts hw

theorem unhookListener_sides (s : State) (e : ListenerId) :
    (unhookListener e s).toWorkerSide = s.toWorkerSide ∧ (unhookListener e s).call = s.call ∧
      (unhookListener e s).place = s.place ∧ (unhookListener e s).nextSock = s.nextSock ∧
      (unhookListener e s).state = s.state ∧
      (unhookListener e s).drainReturned = s.drainReturned ∧
      (unhookListener e s).tainted = s.tainted ∧
      (unhookListener e s).acceptBatch = s.acceptBatch ∧
      Bridge.ControlRely s.bridge (unhookListener e s).bridge := by
  obtain ⟨b, heq, hb⟩ := unhookListener_eq s e
  rw [heq]
  exact ⟨rfl, rfl, rfl, rfl, rfl, rfl, rfl, rfl, hb⟩

theorem unhookListener_dialable {l : ListenerId} {k : SockId} (h : Dialable l k s) :
    Dialable l k (unhookListener e s) := by
  obtain ⟨b, heq, -⟩ := unhookListener_eq s e
  rw [heq]
  exact ⟨h.known, h.route⟩

theorem Linked.unhook (h : Linked s sk config e t) : Linked s sk config e (unhookListener e t) := by
  obtain ⟨b, heq, -⟩ := unhookListener_eq t e
  rw [heq]
  exact ⟨⟨h.starting, h.locked, h.releasing, h.routes, h.uncalled⟩, h.table,
    h.allocated, h.listeners,
    h.sock, h.config, h.known, h.unstopped⟩

theorem Inv.unclaimed (hi : Inv s) (hoff : s.callbackInstalled e = false) (hrel : s.releasing = [])
    (htaint : s.tainted = false) (k : SockId) (child : Child) (hchild : child ∈ s.acceptQueue k) :
    child.userData ≠ .listener e := by
  intro hl
  obtain ⟨-, hin | hmem⟩ := (hi.refs htaint).children k child hchild e hl
  · exact absurd (hin.symm.trans hoff) (by simp)
  · rw [hrel] at hmem
    cases hmem

theorem Inv.unhook_off (hi : Inv s) (hthread : s.thread ≠ .running) (hstart : s.starting = some e)
    (hoff : s.callbackInstalled e = false) (hrel : s.releasing = []) :
    Inv (unhookListener e s) := by
  exact hi.unhook (hi.worker.not_holding hthread e) (.inl hstart) fun htaint =>
    .inr (hi.unclaimed hoff hrel htaint)

structure Hooked (s : State) (sk : SockId) (config : ServiceConfig) (e : ListenerId)
    (t : State) : Prop
    extends Linked s sk config e t, Unserved s sk (.listener e)
      { (s.bridge.sock sk).hooks with dataReady := .service } t where
  installed : t.callbackInstalled e = true
  saved : t.savedDataReady e = (s.bridge.sock sk).hooks.dataReady
  null : (s.bridge.sock sk).userData = .null
  notified : t.bridge.completionNotify = some serviceNotifier

def NotifierSet (s : State) (sk : SockId) (config : ServiceConfig) (e : ListenerId) :
    Except ℤ ℤ → State → Prop
  | .error ret, t => ret ≠ 0 ∧ Linked s sk config e t ∧ t.callbackInstalled e = false ∧
      Unhooked s sk t ∧ t.bridge.completionNotify = none
  | .ok ret, t => (ret = 0 ∧ Hooked s sk config e t) ∨
      (ret ≠ 0 ∧ Linked s sk config e t ∧ t.callbackInstalled e = false ∧ Unhooked s sk t)

theorem Law.of_call {call : Option Call} (h : Law { s with call := call } s') : Law s s' where
  state := h.state
  drained := h.drained
  tainted ht := (h.tainted ht).imp_right fun ⟨e, hfailed, hwait⟩ =>
    ⟨e, ⟨hfailed.starting, hfailed.hooked, hfailed.unhooked⟩, hwait⟩
  queue := by
    cases h.queue with
    | keep hlist hentry haccepts => exact .keep hlist hentry haccepts
    | push l hnew hlist hentry haccepts => exact .push l hnew hlist hentry haccepts
    | pop l hnone hlist hentry haccepts => exact .pop l hnone hlist hentry haccepts
    | drop l hentry hnone hlist haccepts hwhy => exact .drop l hentry hnone hlist haccepts hwhy
    | accept l hentry hnone hlist haccepts => exact .accept l hentry hnone hlist haccepts
    | withdraw l hstart hlist hentry haccepts => exact .withdraw l hstart hlist hentry haccepts
    | off hoff => exact .off hoff

structure Harmless (s s' : State) : Prop where
  side : s'.toWorkerSide = s.toWorkerSide
  call : s'.call = s.call
  bridge : Bridge.ControlRely s.bridge s'.bridge
  batch : s'.acceptBatch = s.acceptBatch
  dial : ∀ l k, Dialable l k s → Dialable l k s'
  law : Law s s'

theorem Harmless.guar (h : Harmless s s') : requestContract.guar s s' :=
  controlGuar h.side h.call h.bridge h.batch (fun l k _ => h.dial l k) h.law

theorem Harmless.guar_return {op : Bridge.Op} {live : SessionId → Bool}
    (h : Harmless { s with call := none } s') (hcall : s.call = some ⟨.control, op, live⟩) :
    requestContract.guar s s' :=
  controlGuar_return hcall h.side h.call h.batch
    (fun l k _ hd => h.dial l k ⟨hd.known, hd.route⟩) h.law.of_call

theorem unhookListener_installed_self (s : State) (e : ListenerId) :
    (unhookListener e s).callbackInstalled e = false := by
  rw [unhookListener_installed, update_self]

theorem Inv.unhook_harmless {tainted : Bool} (hi : Inv s) (hstart : s.starting = some e)
    (hwhy : tainted = true → s.tainted = true ∨ s.callbackInstalled e = true ∧
      clonesWait e s = true) :
    Harmless s (unhookListener e { s with tainted := tainted }) := by
  obtain ⟨hside, hcall, -, -, hstate, hdrained, hsame, hbatch, hb⟩ :=
    unhookListener_sides { s with tainted := tainted } e
  have htaint : (unhookListener e { s with tainted := tainted }).tainted = true → s.tainted = true ∨
      ∃ l, WorkerFailed l s (unhookListener e { s with tainted := tainted }) ∧
        clonesWait l s = true :=
    fun ht => (hwhy (hsame.symm.trans ht)).imp_right fun ⟨hin, hwait⟩ =>
      ⟨e, ⟨hstart, hin, unhookListener_installed_self _ e⟩, hwait⟩
  exact ⟨hside, hcall, hb, hbatch, fun _ _ hd => unhookListener_dialable ⟨hd.known, hd.route⟩,
    .of_eq hstate, fun _ hd => hdrained.trans hd, htaint, hi.unhook_queue hstart rfl rfl rfl⟩

theorem Unserved.unhook_off (hu : Unhooked s sk t) (hoff : t.callbackInstalled e = false) :
    Unhooked s sk (unhookListener e t) := by
  obtain ⟨hside, -, hplace, hnext, -⟩ := unhookListener_sides t e
  exact hu.frame hside (unhookListener_off hoff) hplace hnext

theorem hookListener_spec (hi : Inv t) (h : Linked s sk config e t)
    (hoff : t.callbackInstalled e = false) (hu : Unhooked s sk t)
    (hnotify : t.bridge.completionNotify = some serviceNotifier) :
    Inv (hookListener e t).2 ∧ Harmless t (hookListener e t).2 ∧
      NotifierSet s sk config e (.ok (hookListener e t).1) (hookListener e t).2 := by
  by_cases hnull : (t.bridge.sock (t.listenerSock e)).userData = .null
  case neg =>
    have heq : hookListener e t = (-EBUSY, unhookListener e t) := by
      rw [hookListener, installListenerCallback_busy hnull]
      rfl
    rw [heq]
    exact ⟨hi.unhook_off hu.thread h.starting hoff h.releasing, hi.unhook_harmless h.starting .inl,
      .inr ⟨by show (-EBUSY : ℤ) ≠ 0; decide, h.unhook, unhookListener_installed_self t e,
        hu.unhook_off hoff⟩⟩
  case pos =>
    have hinstall := hi.installListenerCallback (by simp [h.listeners]) hnull t.routes
      (fun _ hr => hr) fun hrun => absurd hrun hu.thread
    have heq : hookListener e t = installListenerCallback e t := by
      rw [hookListener, installListenerCallback_ok hnull]
      rfl
    rw [heq]
    rw [installListenerCallback_ok hnull] at hinstall ⊢
    refine ⟨hinstall, ⟨rfl, rfl, Bridge.ControlRely.setSock (.inr rfl), rfl,
      fun _ _ hd => ⟨hd.known, hd.route⟩, .of_eq rfl⟩, .inl ⟨rfl, ?_⟩⟩
    have hsame := h.sock
    have hself := setSock_sock t (t.listenerSock e)
      { t.bridge.sock (t.listenerSock e) with
        userData := .listener e
        hooks := { (t.bridge.sock (t.listenerSock e)).hooks with dataReady := .service } }
    exact
      { starting := h.starting
        locked := h.locked
        releasing := h.releasing
        routes := h.routes
        uncalled := h.uncalled
        table := h.table
        allocated := h.allocated
        listeners := h.listeners
        sock := h.sock
        config := h.config
        known := h.known
        unstopped := h.unstopped
        thread := hu.thread
        fresh := hu.fresh
        userData := by
          refine (congrArg Sock.userData (hself sk)).trans ?_
          rw [if_pos hsame.symm]
        hooks := by
          refine (congrArg Sock.hooks (hself sk)).trans ?_
          rw [if_pos hsame.symm, hsame, hu.hooks]
        others := fun j k hk hne => by
          have hold := hu.others j k hk hne
          have hkeep : (setSock _ _ t).bridge.sock k = _ := (hself k).trans (if_neg (hsame ▸ hne))
          exact ⟨hold.place, hkeep ▸ hold.userData, hkeep ▸ hold.hooks⟩
        places := ⟨hu.places.grows, hu.places.placed⟩
        installed := update_self ..
        saved := by
          refine (update_self ..).trans ?_
          rw [hsame, hu.hooks]
        null := by
          rw [← hu.userData, ← hsame]
          exact hnull
        notified := hnotify }

theorem setNotifier_safe (hsk : s.table i = some sk) (h : Linked s sk config e t)
    (hoff : t.callbackInstalled e = false) (hu : Unhooked s sk t)
    (hnotify : t.bridge.completionNotify = none) :
    Safe Inv requestContract (NotifierSet s sk config e)
      (callBridge .control (.setCompletionNotifier serviceNotifier) fun a s _ =>
        if a.ret ≠ 0 then (Except.error a.ret, unhookListener e s)
        else let hooked := hookListener e s; (.ok hooked.1, hooked.2)) t := by
  refine controlCall_safe (F := Unhooked s sk) (V := fun b => b.completionNotify = none) rfl hu
    (fun w w' hw hc hr => hw.stable (hc ▸ h.table) hsk hr)
    (fun w _ hw => hw.frame rfl rfl rfl rfl)
    (fun w b live hi hw hc hcall hguar => hw.putBridge hi
      (hc ▸ h.table) hsk hcall (by simp) hguar)
    (fun w _ hr => hr.notifier.trans hnotify) (fun n hn => ?_) (by simp) ?_
  · exact ⟨(Bridge.Op.setCompletionNotifier.inj hn).symm, h.allocated⟩
  intro b a w r hi hc hw hnone hcall hout hanswer hrefused
  have hlink : Linked s sk config e { w with call := none } := h.of_side hc (by simp [calls])
  have hoffw : w.callbackInstalled e = false := hc ▸ hoff
  have huw : Unhooked s sk { w with call := none } := hw.frame rfl rfl rfl rfl
  have hgive : Inv { w with call := none } := hi.giveBack hcall hout.calm (by simp)
  rcases hanswer with rfl | ⟨rfl, hset, -⟩
  · have hret : (-EBUSY : ℤ) ≠ 0 := by decide
    have hnonew : w.bridge.completionNotify = none := (hrefused hret).trans hnone
    have hkeep : (unhookListener e { w with call := none }).bridge = w.bridge :=
      unhookListener_off hoffw
    refine ⟨hgive.unhook_off huw.thread hlink.starting hoffw hlink.releasing,
      (hgive.unhook_harmless hlink.starting .inl).guar_return hcall, hret, hlink.unhook,
      unhookListener_installed_self _ e, huw.unhook_off hoffw, ?_⟩
    show (unhookListener e { w with call := none }).bridge.completionNotify = none
    rw [hkeep]
    exact hnonew
  · obtain ⟨hinv, hharm, hpost⟩ := hookListener_spec hgive hlink hoffw huw hset
    exact ⟨hinv, hharm.guar_return hcall, hpost⟩

theorem Hooked.stable (h : Hooked s sk config e t) (hsk : s.table i = some sk)
    (hr : RequestRely t u) : Hooked s sk config e u where
  toLinked := h.toLinked.of_side hr.side (hr.uncalled h.uncalled)
  toUnserved := h.toUnserved.stable h.table hsk hr
  installed := hr.side ▸ h.installed
  saved := hr.side ▸ h.saved
  null := h.null
  notified := hr.notifier.trans h.notified

theorem Hooked.unhook (h : Hooked s sk config e t) : Unhooked s sk (unhookListener e t) := by
  obtain ⟨hside, -, hplace, hnext, -⟩ := unhookListener_sides t e
  have hself : (unhookListener e t).bridge.sock sk =
      { t.bridge.sock sk with
        userData := .null
        hooks := { (t.bridge.sock sk).hooks with dataReady := t.savedDataReady e } } := by
    have hdata : (t.bridge.sock (t.listenerSock e)).userData = .listener e := by
      rw [h.sock]
      exact h.userData
    have hraw := unhookListener_sock_self h.installed hdata
    rwa [h.sock] at hraw
  exact
    { thread := by
        rw [show (unhookListener e t).thread = t.thread from congrArg WorkerSide.thread hside]
        exact h.thread
      fresh := hside ▸ h.fresh
      userData := by
        rw [hself, h.null]
      hooks := by
        rw [hself, h.hooks, h.saved]
      others := fun j k hk hne => by
        have hold := h.others j k hk hne
        have hkeep := unhookListener_sock_of_ne (s := t) (e := e) (k := k) (h.sock.symm ▸ hne)
        exact ⟨(congrFun hplace k).trans hold.place, hkeep ▸ hold.userData, hkeep ▸ hold.hooks⟩
      places := ⟨hnext ▸ h.places.grows, fun k hk =>
        (congrFun hplace k).trans (h.places.placed k hk)⟩ }

structure Served (s : State) (sk : SockId) (config : ServiceConfig) (e : ListenerId)
    (t : State) : Prop
    extends Attending (some e) false [] (s.routes ++ [(s.place sk).route config]) t where
  table : t.table = s.table
  allocated : t.allocated = true
  listeners : t.listeners = [e]
  sock : t.listenerSock e = sk
  config : t.listenerConfig e = config
  installed : t.callbackInstalled e = true
  notified : t.bridge.completionNotify = some serviceNotifier
  places : PlacesKept s t

theorem Served.stable (h : Served s sk config e t) (hr : RequestRely t u) :
    Served s sk config e u where
  toAttending := h.toAttending.stable hr
  table := hr.side ▸ h.table
  allocated := hr.side ▸ h.allocated
  listeners := hr.side ▸ h.listeners
  sock := hr.side ▸ h.sock
  config := hr.side ▸ h.config
  installed := hr.side ▸ h.installed
  notified := hr.notifier.trans h.notified
  places := h.places.trans hr.places

theorem clonesWait_false (h : clonesWait e s = false) {child : Child}
    (hchild : child ∈ s.acceptQueue (s.listenerSock e)) : child.userData ≠ .listener e := by
  simpa using (List.any_eq_false.mp h) child hchild

theorem Hooked.createWorker_failed (hi : Inv t) (h : Hooked s sk config e t) {tainted : Bool}
    (htaint : tainted = (t.tainted || clonesWait e t)) :
    Inv (unhookListener e { t with tainted := tainted }) ∧
      Linked s sk config e (unhookListener e { t with tainted := tainted }) ∧
      Unhooked s sk (unhookListener e { t with tainted := tainted }) := by
  have hclean : tainted = false → t.tainted = false ∧ clonesWait e t = false := fun hf => by
    simpa using htaint.symm.trans hf
  have hinv : Inv { t with tainted := tainted } :=
    { hi with
      stop := { hi.stop with }
      refs := fun hf => hi.refs (hclean hf).1 }
  have hhook : Hooked s sk config e { t with tainted := tainted } :=
    { h with
      uncalled := h.uncalled
      others := fun j k hk hne => by
        have hold := h.others j k hk hne
        exact ⟨hold.place, hold.userData, hold.hooks⟩
      places := ⟨h.places.grows, h.places.placed⟩ }
  refine ⟨hinv.unhook (hi.worker.not_holding h.thread e) (.inl h.starting) fun hf =>
    .inr fun k child hchild hl => ?_, hhook.toLinked.unhook, hhook.unhook⟩
  have hlk := ((hi.refs (hclean hf).1).children k child hchild e hl).1
  subst hlk
  exact clonesWait_false (hclean hf).2 hchild hl

theorem Hooked.createWorker_done (hi : Inv t) (hlt : sk < s.nextSock) (h : Hooked s sk config e t) :
    Inv (openRoute e { t with thread := .running, taskShouldStop := false }) ∧
      Served s sk config e
        (openRoute e { t with thread := .running, taskShouldStop := false }) := by
  have hroute : t.route e = (s.place sk).route config := by
    unfold State.route routeOf
    rw [h.sock, h.config, h.places.placed sk hlt]
  have hinv := hi.workerCreated h.allocated h.fresh (t.routes ++ [t.route e])
    (fun r hr => List.mem_append_left _ hr) fun l hl => by
      rw [h.listeners] at hl
      rw [List.mem_singleton.mp hl]
      exact List.mem_append_right _ (List.mem_singleton_self _)
  refine ⟨hinv, ⟨h.starting, h.locked, h.releasing, ?_, h.uncalled⟩, h.table,
    h.allocated, h.listeners,
    h.sock, h.config, h.installed, h.notified, ⟨h.places.grows, h.places.placed⟩⟩
  show t.routes ++ [t.route e] = _
  rw [h.routes, hroute]

theorem createWorker_safe (hsk : s.table i = some sk) (hlt : sk < s.nextSock)
    (h : Hooked s sk config e t) :
    Safe Inv requestContract (fun ret u => (ret = 0 ∧ Served s sk config e u) ∨
      (ret ≠ 0 ∧ Linked s sk config e u ∧ u.callbackInstalled e = false ∧ Unhooked s sk u))
      (Prog.await (fun _ r => r.status) (createWorker e)) t := by
  refine Safe.await fun v hr hi r hready => ?_
  have hv := h.stable hsk hr
  unfold createWorker
  split
  case isTrue hneg =>
    obtain ⟨hinv, hlink, hun⟩ := hv.createWorker_failed hi rfl
    have hwhy : (v.tainted || clonesWait e v) = true → v.tainted = true ∨
        v.callbackInstalled e = true ∧ clonesWait e v = true := fun ht =>
      (Bool.or_eq_true_iff.mp ht).imp_right fun hwait => ⟨hv.installed, hwait⟩
    exact ⟨hinv, (hi.unhook_harmless hv.starting hwhy).guar, .inr ⟨by omega, hlink,
      unhookListener_installed_self _ e, hun⟩⟩
  case isFalse hneg =>
    obtain ⟨hinv, hserved⟩ := hv.createWorker_done hi hlt
    refine ⟨hinv, ⟨?_, .of_eq rfl⟩, .inl ⟨rfl, hserved⟩⟩
    exact
      { work := fun hrun => absurd hrun hv.thread
        batch := fun _ => rfl
        dial := fun hrun => absurd hrun hv.thread
        rest := fun _ hrest => { hrest with }
        call := fun _ => ⟨rfl, Bridge.ControlRely.refl _⟩
        uncalled := id }

/-! ## The block in which a start succeeds -/

theorem queueListener_list (s : State) (e : ListenerId) :
    (queueListener e s).readyList = s.readyList ∨
      (queueListener e s).readyList = s.readyList ++ [e] ∧ s.readyQueued e = false := by
  unfold queueListener
  dsimp only
  split
  case isTrue hq =>
    refine .inr ⟨rfl, ?_⟩
    cases hcase : s.readyQueued e with
    | false => rfl
    | true => simp [hcase] at hq
  case isFalse => exact .inl rfl

theorem QueueStep.queueListener (hlisted : Listed u.readyList u.readyQueued)
    (hold : u.readyList = s.readyList) (hlist : s'.readyList = (queueListener e u).readyList)
    (hentry : s'.entry = s.entry) (haccepts : s'.accepts = s.accepts) : QueueStep s s' := by
  rcases queueListener_list u e with hkeep | ⟨hpush, hnew⟩
  · exact .keep (hlist.trans (hkeep.trans hold)) hentry haccepts
  · have hnot := hlisted.not_mem.mpr hnew
    rw [hold] at hpush hnot
    exact .push e hnot (hlist.trans hpush) hentry haccepts

abbrev takeSocket (handle : ℤ) (sk : SockId) (s : State) : State :=
  clearHandle handle { s with served := s.served ++ [sk] }

theorem Served.finish {handle : ℤ} (hi : Inv s) (hdown : s.allocated = false) (hit : Inv t)
    (hsk : s.table (handle.toNat - 1) = some sk) (hlt : sk < s.nextSock)
    (h : Served s sk config e t) :
    Inv (startDone e (takeSocket handle sk) { t with task := true }) ∧
      requestContract.guar t (startDone e (takeSocket handle sk) { t with task := true }) ∧
      Opened handle ((s.place sk).route config) s
        (startDone e (takeSocket handle sk) { t with task := true }) ∧
      AtRest (s.routes ++ [(s.place sk).route config])
        (startDone e (takeSocket handle sk) { t with task := true }) := by
  obtain ⟨hnil, -⟩ := hi.ready.dormant hdown
  have htask : Inv { t with task := true } := { hit with stop := { hit.stop with } }
  have hlistsock : t.listenerSock e < t.nextSock := by
    rw [h.sock]
    exact Nat.lt_of_lt_of_le hlt h.places.grows
  refine ⟨htask.startDone handle (by simp [h.listeners]) h.starting h.installed h.allocated
    ((congrFun h.table _).trans hsk) h.sock, ?_, ?_, ?_⟩
  · exact controlGuar_frame rfl rfl (Bridge.ControlRely.refl _)
      ⟨.of_eq rfl, fun _ hd => hd, .inl, .queueListener hit.ready.listed rfl rfl rfl rfl⟩
  · refine ⟨?_, ?_, ⟨h.places.grows, h.places.placed⟩, fun l hl => ?_⟩
    · show update t.table _ none = _
      rw [h.table]
    · have hs : s.openRoutes = [] := by simp [openRoutes, hnil]
      show t.listeners.map t.route = _
      rw [hs, h.listeners]
      unfold State.route routeOf
      simp [h.sock, h.config, h.places.placed sk hlt]
    · have hl' : l ∈ t.listeners := hl
      rw [h.listeners] at hl'
      rw [List.mem_singleton.mp hl']
      exact hlistsock
  · exact ⟨⟨rfl, h.locked, h.releasing, h.routes, h.uncalled⟩, fun _ => h.notified⟩

def Started (handle : ℤ) (sk : SockId) (config : ServiceConfig) (s : State) (ret : ℤ)
    (t : State) : Prop :=
  (ret = 0 ∧ Opened handle ((s.place sk).route config) s t ∧
    AtRest (s.routes ++ [(s.place sk).route config]) t) ∨
  (ret ≠ 0 ∧ FailedStart s t ∧ AtRest s.routes t)

theorem startFirst_safe {handle : ℤ} (hi : Inv s) (hdown : s.allocated = false)
    (hsk : s.table (handle.toNat - 1) = some sk) (hlt : sk < s.nextSock)
    (h : Linked s sk config e t)
    (hoff : t.callbackInstalled e = false) (hu : Unhooked s sk t)
    (hnotify : t.bridge.completionNotify = none) :
    Safe Inv requestContract (Started handle sk config s)
      (startFirst e (takeSocket handle sk)) t := by
  have hback : ∀ (installed : Bool) (ret : ℤ) u, ret ≠ 0 → Linked s sk config e u →
      u.callbackInstalled e = false → Unhooked s sk u →
      (installed = false → u.bridge.completionNotify = none) →
      Safe Inv requestContract (Started handle sk config s) (abandonStart e installed ret) u :=
    fun installed ret u hret hlink hoff hu hn =>
      (abandonStart_safe installed hi hdown hsk hlt hlink hoff hu hn).mono
        fun a w ⟨ha, hfail, hrest⟩ => .inr ⟨ha ▸ hret, hfail, hrest⟩
  refine Safe.seq (setNotifier_safe hsk h hoff hu hnotify) fun a v hv => ?_
  cases a with
  | error ret =>
    obtain ⟨hret, hlink, hoffv, huv, hnv⟩ := hv
    exact hback false ret v hret hlink hoffv huv fun _ => hnv
  | ok ret =>
    rcases hv with ⟨rfl, hhook⟩ | ⟨hret, hlink, hoffv, huv⟩
    case inr =>
      show Safe _ _ _ (if ret ≠ 0 then _ else _) v
      rw [if_pos hret]
      exact hback true ret v hret hlink hoffv huv (by simp)
    show Safe _ _ _ (if (0 : ℤ) ≠ 0 then _ else _) v
    rw [if_neg (by simp)]
    refine Safe.seq (createWorker_safe hsk hlt hhook) fun ret w hw => ?_
    rcases hw with ⟨rfl, hserved⟩ | ⟨hret, hlink, hoffw, huw⟩
    case inr =>
      rw [if_pos hret]
      exact hback true ret w hret hlink hoffw huw (by simp)
    rw [if_neg (by simp)]
    refine Safe.await fun x hr hix _ _ => ?_
    obtain ⟨hinv, hguar, hopened, hrest⟩ := (hserved.stable hr).finish hi hdown hix hsk hlt
    exact ⟨hinv, hguar, .inl ⟨rfl, hopened, hrest⟩⟩

/-! ## A start that finds a service -/

theorem linkListener_dialable {l : ListenerId} {k : SockId} (sk : SockId) (config : ServiceConfig)
    (hd : Dialable l k s) : Dialable l k (linkListener sk config s).2 := by
  have hne : l ≠ s.nextListener := Nat.ne_of_lt hd.known
  have hconfig : (linkListener sk config s).2.listenerConfig l = s.listenerConfig l :=
    update_of_ne hne _ _
  refine ⟨Nat.lt_succ_of_lt hd.known, ?_⟩
  unfold routeOf
  rw [hconfig]
  exact hd.route

theorem linkListener_sock (s : State) (sk : SockId) (config : ServiceConfig) :
    (linkListener sk config s).2.listenerSock s.nextListener = sk := update_self ..

theorem linkListener_route (hne : e ≠ s.nextListener) :
    (linkListener sk config s).2.route e = s.route e := by
  have hsock : (linkListener sk config s).2.listenerSock e = s.listenerSock e :=
    update_of_ne hne _ _
  have hconfig : (linkListener sk config s).2.listenerConfig e = s.listenerConfig e :=
    update_of_ne hne _ _
  unfold State.route routeOf
  rw [hsock, hconfig]
  rfl

theorem linkListener_route_self (s : State) (sk : SockId) (config : ServiceConfig) :
    (linkListener sk config s).2.route s.nextListener = (s.place sk).route config := by
  have hconfig : (linkListener sk config s).2.listenerConfig s.nextListener = config :=
    update_self ..
  unfold State.route routeOf
  rw [linkListener_sock, hconfig]
  rfl

theorem joinService_spec {handle : ℤ} (config : ServiceConfig) (hi : Inv s) (h : AtRest routes s)
    (hserves : s.allocated = true)
    (hsk : s.table (handle.toNat - 1) = some sk) (hnull : (s.bridge.sock sk).userData = .null)
    (hu : u = startDone s.nextListener (takeSocket handle sk) (openRoute s.nextListener
      (installListenerCallback s.nextListener (linkListener sk config s).2).2)) :
    Inv u ∧ requestContract.guar s u ∧ Opened handle ((s.place sk).route config) s u ∧
      AtRest (routes ++ [(s.place sk).route config]) u := by
  have hlink := hi.linkListener hsk hserves h.starting h.releasing config
  have hmem : s.nextListener ∈ (linkListener sk config s).2.listeners :=
    List.mem_append_right _ (List.mem_singleton_self _)
  have hsock := linkListener_sock s sk config
  have hnull' : ((linkListener sk config s).2.bridge.sock
      ((linkListener sk config s).2.listenerSock s.nextListener)).userData = .null := by
    rw [hsock]
    exact hnull
  have hinstall := hlink.installListenerCallback hmem hnull'
    (s.routes ++ [(s.place sk).route config]) (fun r hr => List.mem_append_left _ hr) fun _ => by
      rw [linkListener_route_self]
      exact List.mem_append_right _ (List.mem_singleton_self _)
  have heq : openRoute s.nextListener
      (installListenerCallback s.nextListener (linkListener sk config s).2).2 =
      { (installListenerCallback s.nextListener (linkListener sk config s).2).2 with
        routes := s.routes ++ [(s.place sk).route config] } := by
    rw [installListenerCallback_ok hnull', ← linkListener_route_self s sk config]
    rfl
  have hsame : (linkListener sk config s).2.routes = s.routes := rfl
  rw [heq] at hu
  rw [installListenerCallback_ok hnull'] at hinstall hu
  have hdone := hinstall.startDone handle hmem rfl (update_self ..) hserves hsk hsock
  subst hu
  refine ⟨hdone, ?_, ⟨rfl, ?_, ⟨Nat.le_refl _, fun _ _ => rfl⟩, fun l hl =>
    (hdone.listeners.known l (List.mem_append_left _ hl)).2⟩, ?_⟩
  · refine controlGuar rfl rfl (Bridge.ControlRely.setSock (.inr rfl)) rfl (fun l k _ hd => ?_)
      ⟨.of_eq rfl, fun _ hd => hd, .inl, ?_⟩
    · obtain ⟨hknown, hroute⟩ := linkListener_dialable sk config hd
      exact ⟨hknown, List.mem_append_left _ hroute⟩
    · exact .queueListener hinstall.ready.listed rfl rfl rfl rfl
  · show (s.listeners ++ [s.nextListener]).map (linkListener sk config s).2.route = _
    rw [List.map_append, List.map_singleton, linkListener_route_self]
    refine congrArg (· ++ _) (List.map_congr_left fun l hl => linkListener_route ?_)
    exact Nat.ne_of_lt (hi.listeners.known l (List.mem_append_left _ hl)).1
  · exact ⟨⟨rfl, h.locked, h.releasing, by rw [← h.routes]; rfl, h.uncalled⟩,
      fun _ => h.notified hserves⟩

structure Busy (s : State) (e : ListenerId) (t : State) : Prop
    extends Attending (some e) false [] s.routes t where
  serves : s.allocated = true
  table : t.table = s.table
  allocated : t.allocated = s.allocated
  listeners : t.listeners = s.listeners ++ [e]
  off : t.callbackInstalled e = false
  known : (e : ℕ) < t.nextListener
  new : e ∉ s.listeners
  notifier : t.bridge.completionNotify = s.bridge.completionNotify
  ends : ∀ i k, s.table i = some k → SameEnd k s t
  kept : ServiceKept s t

theorem Busy.stable (h : Busy s e t) (hr : RequestRely t u) : Busy s e u := by
  have hserves : t.allocated = true := h.allocated.trans h.serves
  have hk := (FailedStart.of_rely hr).kept hserves
  exact
    { toAttending := h.toAttending.stable hr
      serves := h.serves
      table := hr.side ▸ h.table
      allocated := hr.side ▸ h.allocated
      listeners := hr.side ▸ h.listeners
      off := hr.side ▸ h.off
      known := (congrArg ControlSide.nextListener hr.side).symm ▸ h.known
      new := h.new
      notifier := hr.notifier.trans h.notifier
      ends := fun j k hk => (h.ends j k hk).trans
        (hr.ends.tabled j k ((congrFun h.table j).trans hk))
      kept :=
        { stopping := hk.stopping.trans h.kept.stopping
          task := hk.task.trans h.kept.task
          maxConnections := hk.maxConnections.trans h.kept.maxConnections
          acceptBatch := hk.acceptBatch.trans h.kept.acceptBatch
          entries := fun l hl => by
            obtain ⟨hs, hc, hi, hd⟩ := h.kept.entries l hl
            obtain ⟨hs', hc', hi', hd'⟩ := hk.entries l (by
              rw [h.listeners]
              exact List.mem_append_left _ hl)
            exact ⟨hs'.trans hs, hc'.trans hc, hi'.trans hi, hd'.trans hd⟩ } }

theorem refuseService_spec (config : ServiceConfig) (hi : Inv s) (h : AtRest s.routes s)
    (hserves : s.allocated = true) (hsk : s.table i = some sk)
    (hu : u = unhookListener s.nextListener (linkListener sk config s).2) :
    Inv u ∧ requestContract.guar s u ∧ Busy s s.nextListener u := by
  have hlink := hi.linkListener hsk hserves h.starting h.releasing config
  have hnew : s.nextListener ∉ s.listeners := fun hmem =>
    Nat.lt_irrefl _ (hi.listeners.known _ (List.mem_append_left _ hmem)).1
  have hoff : (linkListener sk config s).2.callbackInstalled s.nextListener = false :=
    update_self ..
  have hinv := hlink.unhook (e := s.nextListener) (fun hentry => hnew (hi.ready.popped _ hentry).1)
    (.inl rfl) fun htaint => .inr (hlink.unclaimed hoff h.releasing htaint)
  have hbridge := unhookListener_off hoff
  obtain ⟨b, heq, -⟩ := unhookListener_eq (linkListener sk config s).2 s.nextListener
  have hqueued : (linkListener sk config s).2.readyQueued s.nextListener = false := update_self ..
  rw [if_neg (by simp [hqueued])] at heq
  rw [heq] at hbridge hinv hu
  have hb : b = s.bridge := hbridge
  subst hb hu
  refine ⟨hinv, ?_, ?_⟩
  · refine controlGuar rfl rfl (Bridge.ControlRely.refl _) rfl (fun l k _ hd => ?_) (.of_eq rfl)
    obtain ⟨hknown, hroute⟩ := linkListener_dialable sk config hd
    exact ⟨hknown, hroute⟩
  · refine
      { starting := rfl
        locked := h.locked
        releasing := h.releasing
        routes := rfl
        uncalled := h.uncalled
        serves := hserves
        table := rfl
        allocated := rfl
        listeners := rfl
        off := update_self ..
        known := Nat.lt_succ_self _
        new := hnew
        notifier := rfl
        ends := fun j k hk => ⟨rfl, rfl, rfl⟩
        kept := ⟨rfl, rfl, rfl, rfl, fun l hl => ?_⟩ }
    have hne : l ≠ s.nextListener := fun he => hnew (he ▸ hl)
    exact ⟨update_of_ne hne _ _, update_of_ne hne _ _,
      (update_of_ne hne _ _).trans (update_of_ne hne _ _), rfl⟩

theorem dropEntry_safe {ret : ℤ} (hi : Inv s) (h : AtRest s.routes s) (hbusy : Busy s e t) :
    Safe Inv requestContract (fun a u => a = ret ∧ FailedStart s u ∧ AtRest s.routes u)
      (Prog.await unlocked fun s _ => (ret, freeListener e (unlinkListener e s))) t := by
  refine Safe.await fun v hr hiv _ _ => ?_
  have hv := hbusy.stable hr
  have hserves : v.allocated = true := hv.allocated.trans hv.serves
  have hlist : v.listeners.erase e = s.listeners := by
    rw [hv.listeners, List.erase_append_right _ hv.new]
    simp
  have hunlink := hiv.unlinkListener (by simp [hv.listeners]) hv.starting hv.off hserves
  have hfree := hunlink.freeListener (e := e) hv.known (by
    show e ∉ v.listeners.erase e ++ v.releasing
    rw [hlist, hv.releasing, List.append_nil]
    exact hv.new)
  refine ⟨hfree, controlGuar_frame rfl rfl (Bridge.ControlRely.refl _) (.of_eq rfl), rfl, ?_, ?_⟩
  · exact
      { table := hv.table
        allocated := hv.allocated
        listeners := hlist
        listenerCount := hfree.count.trans ((congrArg List.length hlist).trans hi.count.symm)
        notifier := hv.notifier
        ends := fun j k hk => by
          have hend := hv.ends j k hk
          exact ⟨hend.place, hend.userData, hend.hooks⟩
        kept := fun _ => ⟨hv.kept.stopping, hv.kept.task, hv.kept.maxConnections,
          hv.kept.acceptBatch, hv.kept.entries⟩ }
  · exact ⟨⟨rfl, hv.locked, hv.releasing, hv.routes, hv.uncalled⟩, fun _ =>
      hv.notifier.trans (h.notified hv.serves)⟩

/-! ## The request -/

theorem Started.of_rely {handle : ℤ} {ret : ℤ} (hi : Inv s) (hr : RequestRely s t)
    (hlt : sk < s.nextSock)
    (h : Started handle sk config t ret u) : Started handle sk config s ret u := by
  have hroutes : t.routes = s.routes := congrArg ControlSide.routes hr.side
  rcases h with ⟨hret, hopened, hrest⟩ | ⟨hret, hfail, hrest⟩
  · rw [hr.ends.placed sk hlt] at hopened hrest
    rw [hroutes] at hrest
    exact .inl ⟨hret, hopened.of_rely hi hr, hrest⟩
  · rw [hroutes] at hrest
    exact .inr ⟨hret, (FailedStart.of_rely hr).trans hfail, hrest⟩

def LinkOK (handle : ℤ) (sk : SockId) (config : ServiceConfig) (s : State) : Link → State → Prop
  | .answer ret, t => Started handle sk config s ret t
  | .first e, t => s.allocated = false ∧ Linked s sk config e t ∧ t.callbackInstalled e = false ∧
      Unhooked s sk t ∧ t.bridge.completionNotify = none
  | .busy e ret, t => ret ≠ 0 ∧ Busy s e t

theorem startAnew_spec (config : ServiceConfig) (hi : Inv s) (h : AtRest s.routes s)
    (hdown : s.allocated = false)
    (hsk : s.table i = some sk) (hu : u = (linkListener sk config (resetStart config s)).2) :
    Inv u ∧ requestContract.guar s u ∧ Linked s sk config s.nextListener u ∧
      u.callbackInstalled s.nextListener = false ∧ Unhooked s sk u ∧
      u.bridge.completionNotify = none := by
  have hthread := hi.not_worker hdown
  have hnone := hi.no_notifier hdown
  have hreset := hi.resetStart hdown h.releasing h.uncalled config
  have hlink := hreset.linkListener hsk rfl h.starting h.releasing config
  subst hu
  refine ⟨hlink, ⟨?_, fun hserves => absurd (hserves.symm.trans hdown) (by simp),
    fun hserves => absurd (hserves.symm.trans hdown) (by simp), .inl,
      .off (.inl (by simp [running, hdown]))⟩, ?_, update_self .., ?_, hnone⟩
  · exact
      { work := fun hrun => absurd hrun hthread
        batch := fun hrun => absurd hrun hthread
        dial := fun hrun => absurd hrun hthread
        rest := fun _ _ => ⟨rfl, rfl, rfl, rfl, rfl, rfl⟩
        call := fun _ => ⟨rfl, Bridge.ControlRely.refl _⟩
        uncalled := id }
  · exact ⟨⟨rfl, h.locked, h.releasing, h.routes, h.uncalled⟩, rfl, rfl, rfl, update_self ..,
      update_self .., Nat.lt_succ_self _, rfl⟩
  · exact ⟨hthread, rfl, rfl, rfl, fun _ _ _ _ => ⟨rfl, rfl, rfl⟩, ⟨Nat.le_refl _, fun _ _ => rfl⟩⟩

theorem beginStart_spec {handle : ℤ} (config : ServiceConfig) (hi : Inv s) (h : AtRest s.routes s)
    (hsk : s.table (handle.toNat - 1) = some sk) (r : Reply) :
    Inv (beginStart sk config (takeSocket handle sk) s r).2 ∧
      requestContract.guar s (beginStart sk config (takeSocket handle sk) s r).2 ∧
      LinkOK handle sk config s (beginStart sk config (takeSocket handle sk) s r).1
        (beginStart sk config (takeSocket handle sk) s r).2 := by
  have hrefused : ∀ ret : ℤ, ret ≠ 0 → Inv s ∧ requestContract.guar s s ∧
      LinkOK handle sk config s (.answer ret) s := fun ret hret =>
    ⟨hi, controlGuar_refl s, .inr ⟨hret, .of_rely (RequestRely.refl s), h⟩⟩
  unfold beginStart
  split_ifs with hmem hdown hbusy hpolicy hfull
  · exact hrefused _ (by decide)
  · have hdown' : s.allocated = false := by simpa using hdown
    obtain ⟨hinv, hguar, hlink, hoff, hu, hn⟩ := startAnew_spec config hi h hdown' hsk rfl
    exact ⟨hinv, hguar, hdown', hlink, hoff, hu, hn⟩
  · exact hrefused _ (by decide)
  · exact hrefused _ (by decide)
  · exact hrefused _ (by decide)
  · have hserves : s.allocated = true := by simpa using hdown
    have hsock := linkListener_sock s sk config
    by_cases hnull : (s.bridge.sock sk).userData = .null
    case neg =>
      have hbusy' := installListenerCallback_busy (s := (linkListener sk config s).2)
        (e := s.nextListener) (by rw [hsock]; exact hnull)
      obtain ⟨hinv, hguar, hkeep⟩ := refuseService_spec config hi h hserves hsk rfl
      simp only [show (linkListener sk config s).1 = s.nextListener from rfl, hbusy']
      exact ⟨hinv, hguar, (by decide : (-EBUSY : ℤ) ≠ 0), hkeep⟩
    case pos =>
      have hok : (installListenerCallback s.nextListener (linkListener sk config s).2).1 = 0 := by
        rw [installListenerCallback_ok (by rw [hsock]; exact hnull)]
      obtain ⟨hinv, hguar, hopened, hrest⟩ := joinService_spec config hi h hserves hsk hnull rfl
      simp only [show (linkListener sk config s).1 = s.nextListener from rfl, hok]
      exact ⟨hinv, hguar, .inl ⟨rfl, hopened, hrest⟩⟩

theorem serviceStart_safe {handle : ℤ} (hi : Inv s) (h : AtRest s.routes s)
    (hsk : s.table (handle.toNat - 1) = some sk) :
    Safe Inv requestContract (Started handle sk config s)
      (serviceStart sk config (takeSocket handle sk)) s := by
  have hown : s.owns (.slot (handle.toNat - 1)) sk := hsk
  have hlt := (hi.owners.isLive hown).1
  refine Safe.seq (P := fun _ t => RequestRely s t ∧ Inv t)
    (Safe.block fun t hr hit _ => ⟨hit, controlGuar_refl t, hr, hit⟩) fun invalid t ht => ?_
  obtain ⟨hrt, hit⟩ := ht
  have hrest : AtRest t.routes t := by
    rw [show t.routes = s.routes from congrArg ControlSide.routes hrt.side]
    exact h.stable hrt
  cases invalid with
  | true => exact .inr ⟨by decide, .of_rely hrt, h.stable hrt⟩
  | false =>
    refine Safe.seq (P := fun link u => ∃ v, RequestRely s v ∧ Inv v ∧ AtRest v.routes v ∧
      v.table (handle.toNat - 1) = some sk ∧ LinkOK handle sk config v link u) ?_ ?_
    · refine Safe.await fun v hr hiv r _ => ?_
      have hrv : RequestRely s v := hrt.trans hr
      have hrestv : AtRest v.routes v := by
        rw [show v.routes = s.routes from congrArg ControlSide.routes hrv.side]
        exact h.stable hrv
      have hskv : v.table (handle.toNat - 1) = some sk := hrv.side ▸ hsk
      obtain ⟨hinv, hguar, hlink⟩ := beginStart_spec config hiv hrestv hskv r
      exact ⟨hinv, hguar, v, hrv, hiv, hrestv, hskv, hlink⟩
    · rintro link u ⟨v, hrv, hiv, hrestv, hskv, hlink⟩
      have hltv : sk < v.nextSock := Nat.lt_of_lt_of_le hlt hrv.ends.grows
      cases link with
      | answer ret => exact Started.of_rely hi hrv hlt hlink
      | first e =>
        obtain ⟨hdown, hlinked, hoff, hu, hn⟩ := hlink
        exact (startFirst_safe hiv hdown hskv hltv hlinked hoff hu hn).mono
          fun _ _ hs => hs.of_rely hi hrv hlt
      | busy e ret =>
        obtain ⟨hret, hbusy⟩ := hlink
        refine (dropEntry_safe hiv hrestv hbusy).mono fun a w ⟨ha, hfail, hrest⟩ => ?_
        exact Started.of_rely hi hrv hlt (.inr ⟨ha ▸ hret, hfail, hrest⟩)

def StartedBy (q : Request) (s : State) (a : Answer) (t : State) : Prop :=
  (a.status = 0 ∧ ∃ sk, lookup q.handle s = some sk ∧
    Opened q.handle ((s.place sk).route q.config) s t ∧
    AtRest (s.routes ++ [(s.place sk).route q.config]) t) ∨
  (a.status ≠ 0 ∧ FailedStart s t ∧ AtRest s.routes t)

theorem controlServiceStart_safe (hi : Inv s) (h : AtRest s.routes s) :
    Safe Inv requestContract (StartedBy q s) (controlServiceStart q) s := by
  have hfailed : ∀ t ret, RequestRely s t → ret ≠ 0 → StartedBy q s (.ofStatus q ret) t :=
    fun t ret hr hret => .inr ⟨hret, .of_rely hr, h.stable hr⟩
  refine Safe.seq (P := fun a t => RequestRely s t ∧ Inv t ∧ lookup q.handle s = a)
    (Safe.block fun t hr hit _ => ⟨hit, controlGuar_refl t, hr, hit, ?_⟩) fun a t ht => ?_
  · unfold lookup
    rw [show t.table = s.table from congrArg ControlSide.table hr.side]
  obtain ⟨hrt, hit, hfound⟩ := ht
  cases a with
  | none => exact hfailed t _ hrt (by decide)
  | some sk =>
    show Safe _ _ _ (if _ then _ else _) t
    split
    case isTrue => exact hfailed t _ hrt (by decide)
    have hsk := lookup_table hfound
    have hown : s.owns (.slot (q.handle.toNat - 1)) sk := hsk
    have hlt := (hi.owners.isLive hown).1
    have hskt : t.table (q.handle.toNat - 1) = some sk := hrt.side ▸ hsk
    have hrest : AtRest t.routes t := by
      rw [show t.routes = s.routes from congrArg ControlSide.routes hrt.side]
      exact h.stable hrt
    refine Safe.seq (serviceStart_safe hit hrest hskt) fun ret u hu => ?_
    rcases Started.of_rely hi hrt hlt hu with ⟨rfl, hopened, hrestu⟩ | ⟨hret, hfail, hrestu⟩
    · exact .inl ⟨rfl, sk, hfound, hopened, hrestu⟩
    · show StartedBy q s (if ret ≠ 0 then _ else _) u
      rw [if_pos hret]
      exact .inr ⟨hret, hfail, hrestu⟩

end Tcpcc.Runtime

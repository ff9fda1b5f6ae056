import Tcpcc.Runtime.WorkerSafe

/-!
# Accepting connections

A pass of `tcpcc_service_accept_ready`: a listener is popped, a connection accepted from it,
and the accepted socket handed to a bridge or released. The assertions say what the worker
has in hand at each point, so that a connection is accounted for wherever an accept ends.
-/

namespace Tcpcc.Runtime
open Resumption State FlaggedList
open Bridge (SockId SessionId Outcome)

variable {s s' : State} {sk : SockId} {e : ListenerId} {room : ℕ}

/-! ## A popped listener -/

theorem Inv.dropEntry (hi : Inv s) (h : Working true (some e) true none none room s)
    (hnone : s.running = true → s.acceptQueue (s.listenerSock e) = []) :
    Inv { s with entry := none, admitted := false } :=
  { hi with
    ready :=
      { hi.ready with
        popped := fun l hl => hi.ready.popped l (.inr (hl.resolve_left (by simp))) }
    pending :=
      { hi.pending with
        pending := fun hrun l hl hne => by
          rcases hi.pending.pending hrun l hl hne with hq | he | hs
          · exact .inl hq
          · rw [h.entry] at he
            cases he
            exact absurd (hnone hrun) hne
          · exact .inr (.inr hs) }
    counts := { hi.counts with admitted := by simp }
    life :=
      { hi.life with
        lateAdmitted := by simp
        drainedEmpty := fun hd => by
          obtain ⟨hdrain, hzero, -⟩ := hi.life.drainedEmpty hd
          exact ⟨hdrain, hzero, rfl⟩ }
    worker := { hi.worker with idle := fun hidle => absurd h.thread hidle } }

theorem Inv.stopLooking (hi : Inv s) (hrun : s.thread = .running)
    (hawake : s.running = true → s.readyList ≠ [] →
      s.workReady ≠ 0 ∨ s.maxConnections ≠ 0 ∧ s.maxConnections ≤ s.activeConnections) :
    Inv { s with looking := false } :=
  { hi with
    pending := { hi.pending with awake := fun hon _ => hawake hon }
    counts := { hi.counts with }
    worker := { hi.worker with idle := fun hidle => absurd hrun hidle } }

theorem Inv.markFailed (hi : Inv s) (h : Working true (some e) true none none room s) (status : ℤ) :
    Inv (markFailed status s) := by
  have hstate : s.allocated = true → (if s.draining then s.state else .failed) ≠ .running ∧
      (if s.draining then s.state else .failed) ≠ .stopped := by
    intro hserves
    split
    case isTrue hd =>
      refine ⟨fun hrunning => ?_, hi.life.unstopped hserves⟩
      exact absurd (((hi.life.running hserves).mp hrunning).1.symm.trans hd) (by simp)
    case isFalse => simp
  have hstops : s.allocated = true → s.stopping = true →
      (if s.draining then s.state else .failed) = .stopping := by
    intro hserves hstop
    rw [if_pos (hi.life.stopDrains hstop)]
    exact hi.life.stops hserves hstop
  have hshut : Inv (clearReady { s with
      draining := true, state := if s.draining then s.state else .failed }) :=
    hi.shut hstate hstops id
  have hoff : (clearReady { s with
      draining := true, state := if s.draining then s.state else .failed }).running ≠ true := by
    simp [running, clearReady]
  have hdropped := hshut.dropEntry (e := e) (h.of_side rfl rfl h.uncalled) fun hon =>
    absurd hon hoff
  have hdone := hdropped.stopLooking h.thread fun hon => absurd hon hoff
  exact { hdone with }

theorem Lawful.markFailed (hi : Inv s) (status : ℤ) : Lawful s (markFailed status s) := by
  intro hserves
  show (if s.draining then s.state else .failed) = s.state ∨
    Move s.state (if s.draining then s.state else .failed)
  cases hd : s.draining with
  | true => simp
  | false =>
    have hstop : s.stopping = false := by
      cases hs : s.stopping with
      | false => rfl
      | true => exact absurd (hd.symm.trans (hi.life.stopDrains hs)) (by simp)
    rw [(hi.life.running hserves).mpr ⟨hd, hstop⟩]
    exact .inr Move.fail

theorem serviceFail_safe (status : ℤ) (h : Working true (some e) true none none room s) :
    Safe Inv workerContract (fun _ t => Working false none false none none room t)
      (serviceFail status) s := by
  refine Safe.seq (P := fun _ t => Working false none false none none room t)
    (Safe.await fun t hr hi _ _ => ?_) fun _ t ht => shutdownListeners_safe ht
  have ht := h.stable hr
  refine ⟨hi.markFailed ht status, workerGuar_own ht.thread rfl rfl rfl rfl rfl rfl
    (fun _ => rfl) id
    ⟨Lawful.markFailed hi status, fun _ hd => hd, .inl, .off (.inr ?_)⟩,
    ⟨ht.thread, rfl, rfl, rfl, ht.publicSock, ht.bridgeHandle, ht.removing, ht.room, ht.uncalled⟩⟩
  simp [Runtime.markFailed, running, clearReady]

theorem admissionAvailable_of_running (hi : Core s) (hadmitted : s.admitted = true)
    (hrun : s.running = true) : admissionAvailable s = true := by
  simp only [State.running, Bool.and_eq_true, Bool.not_eq_true'] at hrun
  have hlimit := hi.counts.admitted hadmitted
  simp only [admissionAvailable, hrun.1.2, hrun.2, Bool.not_false, Bool.true_and, Bool.or_eq_true,
    beq_iff_eq, decide_eq_true_eq]
  by_cases hmax : s.maxConnections = 0
  · exact .inl hmax
  · exact .inr (hlimit hmax)

/-! ## The accepted socket -/

theorem Core.takeAccepted (h : Core s) (hw : s.thread = .running) (huncalled : ¬ s.calls .worker)
    (hentry : s.entry = some e) (hroom : s.passAccepted + 1 ≤ s.acceptBatch)
    (accepts : ListenerId → ℕ) (k : SockId) :
    Core { State.queueListener e s with
      entry := none
      origin := some e
      publicSock := some k
      accepts := accepts
      passAccepted := s.passAccepted + 1 } := by
  have hin : s.callbackInstalled e = true := (h.ready.popped e (.inl hentry)).2
  have hq := h.queueListener e
  exact
    { hq with
      call := { hq.call with accept := fun sk live hcall => absurd ⟨_, _, hcall⟩ huncalled }
      ready :=
        { hq.ready with
          popped := fun l hl => by
            have hle : e = l := by simpa using hl
            exact hle ▸ h.ready.popped e (.inl hentry) }
      pending :=
        { hq.pending with
          pending := fun hrun l hl hne => by
            rcases hq.pending.pending hrun l hl hne with hready | he | hs
            · exact .inl hready
            · have hle : l = e := by
                have : some e = some l := hentry.symm.trans he
                exact (Option.some.inj this).symm
              subst hle
              exact .inl (queueListener_queued hin hrun)
            · exact .inr (.inr hs) }
      counts := { hq.counts with }
      batch := hroom
      worker :=
        { hq.worker with
          idle := fun hidle => absurd hw hidle
          origin := fun hnone => by cases hnone } }

theorem detachAcceptedCallback_sock (s : State) (sk k : SockId) (e : ListenerId) :
    ((detachAcceptedCallback sk e s).bridge.sock k).releases = (s.bridge.sock k).releases ∧
      ((detachAcceptedCallback sk e s).bridge.sock k).userData =
        if k = sk ∧ (s.bridge.sock sk).userData = .listener e then .null
        else (s.bridge.sock k).userData := by
  unfold State.detachAcceptedCallback
  rw [setSock_sock]
  by_cases hk : k = sk
  · subst hk
    by_cases hdata : (s.bridge.sock k).userData = .listener e
    · simp [hdata]
    · simp [hdata]
  · simp [hk]

theorem detachAcceptedCallback_of_ne (s : State) (e : ListenerId) {sk k : SockId} (hk : k ≠ sk) :
    (detachAcceptedCallback sk e s).bridge.sock k = s.bridge.sock k := by
  unfold State.detachAcceptedCallback
  rw [setSock_sock, if_neg hk]

theorem takeConnection_sock (s : State) (e : ListenerId) (k : SockId) :
    ((takeConnection e s).bridge.sock k).releases =
        ((acceptSock (s.listenerSock e) s).2.bridge.sock k).releases ∧
      ((takeConnection e s).bridge.sock k).userData =
        if k = s.nextSock ∧
          ((acceptSock (s.listenerSock e) s).2.bridge.sock s.nextSock).userData = .listener e
        then .null else ((acceptSock (s.listenerSock e) s).2.bridge.sock k).userData :=
  detachAcceptedCallback_sock _ _ _ e

theorem takeConnection_of_ne (s : State) (e : ListenerId) {k : SockId} (hk : k ≠ s.nextSock) :
    (takeConnection e s).bridge.sock k = s.bridge.sock k :=
  (detachAcceptedCallback_of_ne _ e hk).trans ((acceptSock_sock s _ k).trans (if_neg hk))

theorem takeConnection_releases (s : State) (e : ListenerId) :
    ((takeConnection e s).bridge.sock s.nextSock).releases = 0 := by
  rw [(takeConnection_sock s e _).1, acceptSock_sock, if_pos rfl]

theorem takeConnection_userData {l : ListenerId}
    (h : ((takeConnection e s).bridge.sock s.nextSock).userData = .listener l) :
    l ≠ e ∧ ∃ child ∈ s.acceptQueue (s.listenerSock e), child.userData = .listener l := by
  rw [(takeConnection_sock s e _).2, acceptSock_sock, if_pos rfl] at h
  cases hq : s.acceptQueue (s.listenerSock e) with
  | nil => simp [hq] at h
  | cons child rest =>
    simp only [hq, List.headD_cons, true_and] at h
    split at h
    case isTrue => cases h
    case isFalse hne =>
      refine ⟨?_, child, List.mem_cons_self, h⟩
      rintro rfl
      exact hne h

theorem takeConnection_place (s : State) (e : ListenerId) {k : SockId} (hk : k ≠ s.nextSock) :
    (takeConnection e s).place k = s.place k := Function.update_of_ne hk _ _

theorem Inv.clone_listener (hi : Inv s) (htaint : s.tainted = false) (he : s.entry = some e)
    {child : Child} (hchild : child ∈ s.acceptQueue (s.listenerSock e)) {l : ListenerId}
    (hl : child.userData = .listener l) : l = e := by
  obtain ⟨hmem, hin⟩ := hi.ready.popped e (.inl he)
  obtain ⟨hsock, hown⟩ := (hi.refs htaint).children _ child hchild l hl
  have hnone : s.releasing = [] := by
    by_contra hne
    rw [hi.listeners.moved hne] at hmem
    cases hmem
  rw [hnone] at hown
  have hinl : s.callbackInstalled l = true := by simpa using hown
  have hdata := (hi.listeners.hooked l (hi.listeners.owned l hinl) hinl).1
  rw [hsock, (hi.listeners.hooked e (hi.listeners.owned e hin) hin).1] at hdata
  exact (UserData.listener.inj hdata).symm

theorem Inv.takeConnection (hi : Inv s) (h : Working true (some e) true none none (room + 1) s) :
    Inv (takeConnection e s) := by
  have hroom : s.passAccepted + 1 ≤ s.acceptBatch := by
    have := h.room
    omega
  have haccepted := (hi.toCore.acceptSock (s.listenerSock e)).takeAccepted h.thread h.uncalled
    h.entry hroom (Function.update s.accepts e (s.accepts e + 1)) s.nextSock
  have hcore := haccepted.detachAcceptedCallback s.nextSock e fun l hl =>
    Nat.ne_of_lt (hi.listeners.known l hl).2
  refine ⟨hcore, hi.owners.gain (p := .accept) (k := s.nextSock) ?_ (fun j => ?_)
    (fun o ho j => ?_) (fun j => ?_), fun htaint => ⟨fun k l hl => ?_, fun k child hchild => ?_⟩,
    ⟨fun hrun l hl hin => ?_, hi.routing.dialed⟩⟩
  · exact fun hlive => Nat.lt_irrefl _ hlive.1
  · have hnone : ¬ s.owns .accept j := by
      show s.publicSock ≠ some j
      rw [h.publicSock]
      simp
    show some s.nextSock = some j ↔ _
    simp [hnone, eq_comm]
  · cases o with
    | accept => exact absurd rfl ho
    | slot | session | listener => exact Iff.rfl
  · refine unreleased_new rfl (fun k hk => ?_) (takeConnection_releases s e)
    exact congrArg Sock.releases (takeConnection_of_ne s e hk)
  · by_cases hk : k = s.nextSock
    · subst hk
      obtain ⟨hne, child, hchild, hclone⟩ := takeConnection_userData hl
      exact absurd (hi.clone_listener htaint h.entry hchild hclone) hne
    · have hdata := congrArg Sock.userData (takeConnection_of_ne s e hk)
      exact (hi.refs htaint).socks k l (hdata.symm.trans hl)
  · exact (hi.refs htaint).children k child (mem_of_mem_update_tail hchild)
  · have hne : s.listenerSock l ≠ s.nextSock :=
      Nat.ne_of_lt (hi.listeners.known l (List.mem_append_left _ hl)).2
    have hroute : (Runtime.takeConnection e s).route l = s.route l :=
      congrArg (fun p : Place => p.route (s.listenerConfig l)) (takeConnection_place s e hne)
    rw [hroute]
    exact hi.routing.listed hrun l hl hin

theorem detachAcceptedCallback_rely (s : State) (sk : SockId) (e : ListenerId) :
    Bridge.ControlRely s.bridge (detachAcceptedCallback sk e s).bridge := by
  refine Bridge.ControlRely.setSock ?_
  split
  · exact .inr rfl
  · exact .inl rfl

theorem Inv.takeConnection_ends (hi : Inv s) (e : ListenerId) :
    EndsKept s (Runtime.takeConnection e s) where
  grows := Nat.le_succ _
  placed _ hsk := takeConnection_place s e (Nat.ne_of_lt hsk)
  tabled i sk hsk := by
    have hslot : s.owns (.slot i) sk := hsk
    have hne : sk ≠ s.nextSock := Nat.ne_of_lt (hi.owners.isLive hslot).1
    have hsame := takeConnection_of_ne s e hne
    exact ⟨takeConnection_place s e hne, congrArg Sock.userData hsame, congrArg Sock.hooks hsame⟩
  refs l hl := by
    refine ⟨fun k hk => ?_,
      fun k child hchild => hl.children k child (mem_of_mem_update_tail hchild)⟩
    by_cases hnew : k = s.nextSock
    · subst hnew
      obtain ⟨-, child, hchild, hclone⟩ := takeConnection_userData hk
      exact hl.children _ child hchild hclone
    · rw [takeConnection_of_ne s e hnew] at hk
      exact hl.socks k hk

theorem Inv.takeConnection_queue (hi : Inv s) (he : s.entry = some e) :
    QueueStep s (Runtime.takeConnection e s) := by
  cases hrun : s.running with
  | false => exact .off (.inl hrun)
  | true =>
    refine .accept e he rfl ?_ rfl
    show (if (!s.readyQueued e && s.callbackInstalled e && s.allocated && !s.draining &&
      !s.stopping) = true then s.readyList ++ [e] else s.readyList) = _
    have hin := (hi.ready.popped e (.inl he)).2
    simp only [State.running, Bool.and_eq_true, Bool.not_eq_true'] at hrun
    have hmem := hi.ready.listed.mem e
    cases hq : s.readyQueued e with
    | true => simp [hmem.mpr hq]
    | false => simp [hin, hrun, hi.ready.listed.not_mem.mpr hq]

theorem Inv.takeConnection_dialable (hi : Inv s) (hrun : s.thread = .running)
    (he : s.entry = some e) (hsome : s.acceptQueue (s.listenerSock e) ≠ []) :
    Dialable e s.nextSock (Runtime.takeConnection e s) := by
  obtain ⟨hmem, hin⟩ := hi.ready.popped e (.inl he)
  refine ⟨(hi.listeners.known e (List.mem_append_left _ hmem)).1, ?_⟩
  have hplace : (Runtime.takeConnection e s).place s.nextSock = s.place (s.listenerSock e) := by
    show Function.update s.place s.nextSock _ s.nextSock = _
    rw [Function.update_self]
    obtain ⟨child, rest, hq⟩ := List.exists_cons_of_ne_nil hsome
    rw [hq]
    exact hi.queues.placed _ child (by simp [hq])
  have hroute : routeOf e s.nextSock (Runtime.takeConnection e s) = s.route e :=
    congrArg (fun p : Place => p.route (s.listenerConfig e)) hplace
  rw [hroute]
  exact hi.routing.listed hrun e hmem hin

theorem accept_safe (h : Working true (some e) true none none (room + 1) s) :
    Safe Inv workerContract
      (fun a t => match a with
        | .again => Free (room + 1) t
        | .error ret => ret < 0 ∧ Working true (some e) true none none (room + 1) t
        | .sock sk => Working true none true (some sk) none room t ∧ Dialable e sk t)
      (Prog.await (fun s r => acceptReply (s.listenerSock e) s r) (acceptFrom e)) s := by
  refine Safe.await fun t hr hi r hready => ?_
  have ht := h.stable hr
  obtain ⟨hle, hsome, hnone⟩ := of_decide_eq_true hready
  unfold Runtime.acceptFrom
  by_cases hagain : r.ret = -EAGAIN
  · simp only [hagain, if_true]
    refine ⟨hi.dropEntry ht fun _ => hnone hagain, ?_, ?_⟩
    · exact workerGuar_own ht.thread rfl rfl rfl rfl rfl rfl (fun _ => rfl) id
        ⟨.of_eq rfl, fun _ hd => hd, .inl, .drop e ht.entry rfl rfl rfl (.inr (hnone hagain))⟩
    · exact ⟨ht.thread, ht.looking, rfl, rfl, ht.publicSock, ht.bridgeHandle, ht.removing, ht.room,
        ht.uncalled⟩
  · by_cases hret : r.ret = 0
    · have hE : ¬ (0 : ℤ) = -EAGAIN := by decide
      simp only [hret, hE, ne_eq, not_true_eq_false, if_false]
      refine ⟨hi.takeConnection ht, ?_, ?_, ?_⟩
      · refine workerGuar ht.thread rfl rfl ?_ (fun _ => rfl) id (hi.takeConnection_ends e)
          ⟨.of_eq rfl, fun _ hd => hd, .inl, hi.takeConnection_queue ht.entry⟩
        have hdetach : Bridge.ControlRely (acceptSock (t.listenerSock e) t).2.bridge
            (takeConnection e t).bridge := detachAcceptedCallback_rely _ _ e
        exact (acceptSock_rely hi.queues _).trans hdetach
      · refine ⟨ht.thread, ht.looking, rfl, ht.admitted, rfl, ht.bridgeHandle, ht.removing, ?_,
          ht.uncalled⟩
        have hroom : t.passAccepted + (room + 1) ≤ t.acceptBatch := ht.room
        show t.passAccepted + 1 + room ≤ t.acceptBatch
        omega
      · exact hi.takeConnection_dialable ht.thread ht.entry (hsome hret)
    · simp only [hagain, hret, ne_eq, not_false_eq_true, if_true, if_false]
      exact ⟨hi, workerGuar_refl ht.thread, lt_of_le_of_ne hle hret, ht⟩

/-! ## The new session -/

theorem Inv.reject (hi : Inv s) (h : Working true none true (some sk) none room s) :
    Inv (sockRelease sk { s with origin := none, publicSock := none, admitted := false }) := by
  have hown : s.owns .accept sk := h.publicSock
  have hlive : s.unreleased sk := hi.owners.isLive hown
  have hdropped : Core { s with origin := none, publicSock := none, admitted := false } :=
    { hi with
      call := { hi.call with accept := fun sk live hcall => absurd ⟨_, _, hcall⟩ h.uncalled }
      ready := hi.ready.dropOrigin
      counts := { hi.counts with admitted := by simp }
      life :=
        { hi.life with
          lateAdmitted := by simp
          drainedEmpty := fun hd => by
            obtain ⟨hdrain, hzero, -⟩ := hi.life.drainedEmpty hd
            exact ⟨hdrain, hzero, rfl⟩ }
      worker :=
        { hi.worker with
          idle := fun hidle => absurd h.thread hidle
          origin := fun _ => rfl } }
  refine ⟨hdropped.sockRelease hlive, hi.owners.lose hown (fun j => ?_) (fun o ho j => ?_)
    (fun j => ?_), fun htaint => (hi.refs htaint).of_socks fun k l hl => ?_, hi.routing⟩
  · show none = some j ↔ j ≠ sk ∧ s.publicSock = some j
    rw [h.publicSock]
    simp [eq_comm]
  · cases o with
    | accept => exact absurd rfl ho
    | slot | session | listener => exact Iff.rfl
  · exact unreleased_release _ _ _
  · exact (sockRelease_ends s sk k).1.symm.trans hl

theorem rejectConnection_safe {status : ℤ} (h : Working true none true (some sk) none room s) :
    Safe Inv workerContract (fun _ t => Free room t) (rejectConnection sk status) s := by
  refine Safe.seq (P := fun _ t => Working true none true (some sk) none room t)
    (Safe.block fun t hr hi _ => ?_) fun _ t ht => ?_
  · have ht := h.stable hr
    exact ⟨hi.sockShutdown _, workerGuar ht.thread rfl rfl (sockShutdown_rely t _) (fun _ => rfl)
      id (sockShutdown_ends t _) (.of_eq rfl), ht.of_side rfl rfl ht.uncalled⟩
  refine Safe.seq (P := fun _ t => Free room t) (Safe.block fun u hr hi _ => ?_) fun _ u hu => ?_
  · have hu := ht.stable hr
    refine ⟨hi.reject hu, workerGuar hu.thread rfl rfl ?_ (fun _ => rfl) id ?_
      (.of_eq rfl), hu.thread, hu.looking, hu.entry, rfl, rfl, hu.bridgeHandle,
      hu.removing, hu.room, hu.uncalled⟩
    · exact Bridge.ControlRely.setSock (.inl rfl)
    · exact .of_same rfl rfl (sockRelease_ends u sk) fun _ _ hchild => hchild
  · refine Safe.await fun v hr hi _ hready => ?_
    have hv := hu.stable hr
    refine ⟨?_, workerGuar_own hv.thread rfl rfl rfl rfl rfl rfl (fun _ => rfl) id
      (.of_eq rfl), hv.thread, hv.looking, hv.entry, hv.admitted, hv.publicSock,
      hv.bridgeHandle, hv.removing, hv.room, hv.uncalled⟩
    exact
      { hi with
        counts := { hi.counts with rejected := congrArg (· + 1) hi.counts.rejected }
        worker := { hi.worker with idle := fun hidle => absurd hv.thread hidle } }

theorem Inv.handOver {live : SessionId → Bool} {x : SessionId} {handle : ℤ} (hi : Inv s)
    (hcall : s.call = some ⟨.worker, .start sk, live⟩) (hrun : s.thread = .running)
    (hpub : s.publicSock = some sk) (hhandle : s.bridgeHandle = none)
    (hok : Bridge.OutcomeOK (.started x handle) s.bridge)
    (hanswer : Bridge.Answered live (.start sk) (.started x handle) s.bridge) :
    Inv { s with
      call := none
      origin := none
      publicSock := none
      bridgeHandle := some handle
      started := s.started ++ [x] } := by
  obtain ⟨hcalm, ha, hname⟩ := hok
  have hflight : ∀ y, s.bridge.allocated y = true → s.inFlight y →
      InFlight none (some handle) s.bridge.handle y := by
    rintro y hy (⟨sk', live', hstart, hnot⟩ | hnone)
    · rw [hcall] at hstart
      cases hstart
      have hyx : y = x := by
        by_contra hne
        rw [hanswer.2.1, Function.update_of_ne hne, hnot] at hy
        cases hy
      exact .inr (by rw [hyx, hname])
    · rw [hhandle] at hnone
      cases hnone
  have hserves := hi.worker.serves hrun
  exact
    { hi with
      bridge := { hi.bridge with calm := fun _ => hcalm }
      call := by constructor <;> simp
      ready := hi.ready.dropOrigin
      counts := { hi.counts with }
      worker :=
        { hi.worker with
          idle := fun hidle => absurd hrun hidle
          origin := fun _ => rfl }
      cover := hi.cover.imp hflight
      cancel := hi.cancel.imp hflight
      stop :=
        { hi.stop with
          born := fun y hy => by
            rcases List.mem_append.mp hy with hy | hy
            · exact hi.stop.born y hy
            · exact (List.mem_singleton.mp hy) ▸ hi.bridge.inv.active.fresh x ha
          gone := fun hstop =>
            absurd (hserves.symm.trans (hi.stop.closed hstop).1) (by simp) }
      owners := by
        refine hi.owners_handedOver hcall hanswer (o := .accept) hpub rfl rfl rfl (by simp)
          (fun k => ?_) fun p k hp hsession => ?_
        · show none = some k ↔ k ≠ sk ∧ s.publicSock = some k
          rw [hpub]
          simp [eq_comm]
        · cases p with
          | accept => exact absurd rfl hp
          | session y => exact absurd rfl (hsession y)
          | slot | listener => exact Iff.rfl }

theorem Inv.addBridge {handle : ℤ} (hi : Inv s)
    (h : Working true none true none (some handle) room s) : Inv (addBridge handle s) := by
  have hnocall : ∀ sk live, s.call ≠ some ⟨.worker, .start sk, live⟩ := fun sk live hcall =>
    h.uncalled ⟨_, _, hcall⟩
  have hflight : s.stopping = true → ∀ x, s.inFlight x →
      (Runtime.addBridge handle s).inFlight x := by
    rintro hstop x (⟨sk, live, hcall, -⟩ | hx)
    · exact absurd hcall (hnocall sk live)
    · refine .inr ?_
      show (if s.stopping then some handle else none) = _
      rw [hstop, if_pos rfl]
      exact h.bridgeHandle.symm.trans hx
  have htold : s.stopping = true → ∀ k, s.isTold k → (Runtime.addBridge handle s).isTold k :=
    fun hstop k hk x hx hname => (hk x hx hname).imp_right (hflight hstop x)
  have hadmitted := hi.counts.admitted h.admitted
  have hactive := hi.counts.active
  have haccepted := hi.counts.accepted
  have hpeak := hi.counts.peak
  exact
    { hi with
      pending :=
        { hi.pending with
          awake := fun _ hlook => absurd (hlook.symm.trans h.looking) (by simp) }
      counts :=
        { hi.counts with
          active := by
            show s.activeConnections + 1 = (s.bridges ++ [_]).length
            rw [List.length_append, hactive]
            rfl
          accepted := by
            show s.acceptedConnections + 1 = s.completedConnections + (s.activeConnections + 1)
            omega
          peak := Nat.le_max_right _ _
          limit := fun hmax => Nat.max_le.mpr ⟨hi.counts.limit hmax, hadmitted hmax⟩
          admitted := by simp [Runtime.addBridge] }
      life :=
        { hi.life with
          late := by
            show (if s.draining then s.lateAdds + 1 else s.lateAdds) ≤ 1
            rw [hi.life.lateAdmitted h.admitted]
            split <;> omega
          lateDraining := fun hne => by
            by_contra hd
            have hlate : (Runtime.addBridge handle s).lateAdds = s.lateAdds := if_neg hd
            rw [hlate] at hne
            exact hne (hi.life.lateAdmitted h.admitted)
          lateAdmitted := by simp [Runtime.addBridge]
          drainedEmpty := fun hd =>
            absurd ((hi.life.drainedEmpty hd).2.2.symm.trans h.admitted) (by simp) }
      worker := { hi.worker with idle := fun hidle => absurd h.thread hidle }
      cover :=
        { hi.cover with
          covered := fun hn x hx => by
            rcases hi.cover.covered hn x hx with ⟨b, hb, hname⟩ | ⟨sk, live, hcall, -⟩ | hx
            · exact .inl ⟨b, List.mem_append_left _ hb, hname⟩
            · exact absurd hcall (hnocall sk live)
            · refine .inl
                ⟨⟨s.nextBridge, handle⟩, List.mem_append_right _ (List.mem_singleton.mpr rfl),
                ?_⟩
              exact Option.some.inj (h.bridgeHandle.symm.trans hx) }
      cancel :=
        { hi.cancel with
          each := fun hserves k hk =>
            htold (hi.cancel.since (.inl (List.ne_nil_of_mem hk))) k (hi.cancel.each hserves k hk)
          run := fun hserves hrun b hb => by
            have hstop := hi.cancel.since (.inr hrun)
            rcases List.mem_append.mp hb with hb | hb
            · exact htold hstop _ (hi.cancel.run hserves hrun b hb)
            · rw [List.mem_singleton] at hb
              subst hb
              intro x _ hname
              refine .inr (.inr ?_)
              show (if s.stopping then some handle else none) = _
              rw [hstop, if_pos rfl]
              exact congrArg some hname.symm } }

theorem Inv.dropHandle {handle : ℤ} (hi : Inv s)
    (h : Working true none false none (some handle) room s)
    (hlisted : ∃ b ∈ s.bridges, b.handle = handle)
    (htold : ∀ x, s.bridge.allocated x = true → s.bridge.handle x = handle →
      s.bridge.stopping x = true) : Inv { s with bridgeHandle := none } := by
  have hflight : ∀ x, s.inFlight x → handle = s.bridge.handle x := by
    rintro x (⟨sk, live, hcall, -⟩ | hx)
    · exact absurd ⟨_, _, hcall⟩ h.uncalled
    · exact Option.some.inj (h.bridgeHandle.symm.trans hx)
  have hstopped : ∀ k, s.isTold k → Told s.bridge.allocated s.bridge.handle s.bridge.stopping
      (InFlight s.call none s.bridge.handle) k := by
    intro k hk x hx hname
    rcases hk x hx hname with hstop | hx'
    · exact .inl hstop
    · exact .inl (htold x hx (hflight x hx').symm)
  exact
    { hi with
      counts := { hi.counts with }
      worker := { hi.worker with idle := fun hidle => absurd h.thread hidle }
      cover :=
        { hi.cover with
          covered := fun hn x hx => by
            rcases hi.cover.covered hn x hx with hb | hx'
            · exact .inl hb
            · obtain ⟨b, hb, hname⟩ := hlisted
              exact .inl ⟨b, hb, hname.trans (hflight x hx')⟩ }
      cancel :=
        { hi.cancel with
          each := fun hserves k hk => hstopped k (hi.cancel.each hserves k hk)
          run := fun hserves hrun b hb => hstopped _ (hi.cancel.run hserves hrun b hb) } }

structure Cancelling (handle : ℤ) (room : ℕ) (s : State) : Prop
    extends Working true none false none (some handle) room s where
  listed : ∃ b ∈ s.bridges, b.handle = handle

theorem cancelAdded_safe {handle : ℤ} (h : Cancelling handle room s) :
    Safe Inv workerContract (fun _ t => Free room t)
      (callBridge .worker (.cancelSession handle) fun _ s _ =>
        ((), { s with bridgeHandle := none }))
      s := by
  refine workerCall_safe rfl rfl h.thread (by simp) (by simp) (by simp) ?_
  intro live a t r hi hw hbatch hcall hok hanswer
  have hback : Inv { t with call := none } := hi.giveBack hcall hok.calm (by simp)
  have ht : Working true none false none (some handle) room { t with call := none } :=
    h.toWorking.of_side hw hbatch (by simp [calls])
  refine ⟨hback.dropHandle ht ?_ ?_,
    workerGuar_return hcall ht.thread rfl rfl rfl rfl rfl rfl rfl rfl
    (.of_eq rfl), ht.thread, ht.looking, ht.entry, ht.admitted, ht.publicSock, rfl,
    ht.removing, ht.room, ht.uncalled⟩
  · show ∃ b ∈ t.bridges, b.handle = handle
    rw [show t.bridges = s.bridges from congrArg WorkerSide.bridges hw]
    exact h.listed
  · cases a <;> exact hanswer

theorem chooseBackend_safe (h : Working true none true (some sk) none room s)
    (hd : Dialable e sk s) :
    Safe Inv workerContract (fun _ t => Working true none true (some sk) none room t)
      (Prog.block (chooseBackend e sk)) s := by
  refine Safe.block fun t hr hi r => ?_
  have ht := h.stable hr
  have hdt := hr.dial h.thread e sk h.publicSock hd
  unfold chooseBackend
  by_cases hret : r.ret < 0
  · simp only [hret, if_true]
    exact ⟨hi, workerGuar_refl ht.thread, ht⟩
  · simp only [hret, if_false]
    refine ⟨?_, workerGuar_own ht.thread rfl rfl rfl rfl rfl rfl (fun _ => rfl) id
      (.of_eq rfl), ht.of_side rfl rfl ht.uncalled⟩
    exact
      { hi with
        routing :=
          { hi.routing with
            dialed := fun d hd => by
              rcases List.mem_append.mp hd with hd | hd
              · exact hi.routing.dialed d hd
              · exact (List.mem_singleton.mp hd) ▸ hdt.route } }

def Offered (sk : Bridge.SockId) (room : ℕ) : Except ℤ ℤ → State → Prop
  | .error _, u => Working true none true (some sk) none room u
  | .ok handle, u => Working true none true none (some handle) room u

theorem startBridge_safe (h : Working true none true (some sk) none room s) (hd : Dialable e sk s) :
    Safe Inv workerContract (fun _ t => Free room t) (startBridge e sk) s := by
  refine Safe.seq (chooseBackend_safe h hd) fun failed t ht => ?_
  cases failed with
  | true => exact rejectConnection_safe ht
  | false =>
    refine Safe.seq (P := Offered sk room) ?_ fun a u hu => ?_
    · refine workerCall_safe rfl rfl ht.thread (by simp) (by simp) ?_ ?_
      · intro k hk
        cases hk
        exact ⟨ht.publicSock, ht.removing⟩
      intro live a u r hi hw hbatch hcall hok hanswer
      have hu : Working true none true (some sk) none room { u with call := none } :=
        ht.of_side hw hbatch (by simp [calls])
      cases a with
      | started x handle =>
        refine ⟨hi.handOver hcall hu.thread hu.publicSock hu.bridgeHandle hok hanswer,
          workerGuar_return hcall hu.thread rfl rfl rfl rfl rfl rfl rfl rfl (.of_eq rfl), ?_⟩
        exact ⟨hu.thread, hu.looking, hu.entry, hu.admitted, rfl, rfl, hu.removing, hu.room,
          hu.uncalled⟩
      | value ret =>
        exact ⟨hi.giveBack hcall hok.calm fun _ _ => hanswer.2,
          workerGuar_return hcall hu.thread rfl rfl rfl rfl rfl rfl rfl rfl (.of_eq rfl), hu⟩
      | reaped => exact hanswer.elim
    · cases a with
      | error ret => exact rejectConnection_safe hu
      | ok handle =>
        refine Safe.seq (P := fun stop v => if stop = true then Cancelling handle room v
          else Free room v) (Safe.await fun v hr hi _ hready => ?_) fun stop v hv => ?_
        · have hv := hu.stable hr
          have hlisted : ∃ b ∈ (addBridge handle v).bridges, b.handle = handle :=
            ⟨_, List.mem_append_right _ (List.mem_singleton.mpr rfl), rfl⟩
          refine ⟨hi.addBridge hv, workerGuar_own hv.thread rfl rfl rfl rfl rfl rfl
            (fun hl => absurd hl (not_locked hready)) id (.of_eq rfl), ?_⟩
          cases hstop : v.stopping with
          | true =>
            refine ⟨⟨hv.thread, hv.looking, hv.entry, rfl, hv.publicSock, ?_, hv.removing, hv.room,
              hv.uncalled⟩, hlisted⟩
            exact if_pos hstop
          | false =>
            refine ⟨hv.thread, hv.looking, hv.entry, rfl, hv.publicSock, ?_, hv.removing, hv.room,
              hv.uncalled⟩
            exact if_neg (by simp [hstop])
        · cases stop with
          | true => exact cancelAdded_safe hv
          | false => exact hv

/-! ## One pass -/

/-- How an accept ends: with a failed service, with nothing accepted, or with one connection
less to go. -/
def Accepted (room : ℕ) (ret : ℤ) (s : State) : Prop :=
  ret < 0 ∧ Working false none false none none (room + 1) s ∨ ret = 0 ∧ Free (room + 1) s ∨
    ret = 1 ∧ Free room s

theorem acceptOne_safe (h : Working true (some e) true none none (room + 1) s) :
    Safe Inv workerContract (Accepted room) (acceptOne e) s := by
  refine Safe.seq (P := fun admitted t => if admitted = true then
    Working true (some e) true none none (room + 1) t else Free (room + 1) t)
    (Safe.await fun t hr hi _ _ => ?_) fun admitted t ht => ?_
  · have ht := h.stable hr
    cases hopen : admissionAvailable t with
    | true => exact ⟨hi, workerGuar_refl ht.thread, ht⟩
    | false =>
      have hoff : t.running = true → t.acceptQueue (t.listenerSock e) = [] := fun hrun =>
        absurd ((admissionAvailable_of_running hi.toCore ht.admitted hrun).symm.trans hopen)
          (by simp)
      refine ⟨hi.dropEntry ht hoff, workerGuar_own ht.thread rfl rfl rfl rfl rfl rfl
        (fun _ => rfl) id
        ⟨.of_eq rfl, fun _ hd => hd, .inl, .drop e ht.entry rfl rfl rfl (.inl hopen)⟩, ?_⟩
      exact ⟨ht.thread, ht.looking, rfl, rfl, ht.publicSock, ht.bridgeHandle, ht.removing, ht.room,
        ht.uncalled⟩
  · cases admitted with
    | false => exact .inr (.inl ⟨rfl, ht⟩)
    | true =>
      refine Safe.seq (accept_safe ht) fun a u hu => ?_
      cases a with
      | again =>
        refine Safe.await fun v hr hi _ _ => ?_
        have hv : Free (room + 1) v := hu.stable hr
        refine ⟨?_, workerGuar_own hv.thread rfl rfl rfl rfl rfl rfl (fun _ => rfl) id
          (.of_eq rfl), .inr (.inl ⟨rfl, hv.thread, hv.looking, hv.entry, hv.admitted,
            hv.publicSock, hv.bridgeHandle, hv.removing, hv.room, hv.uncalled⟩)⟩
        exact
          { hi with
            counts := { hi.counts with }
            worker := { hi.worker with idle := fun hidle => absurd hv.thread hidle } }
      | error ret => exact Safe.seq (serviceFail_safe ret hu.2) fun _ v hv => .inl ⟨hu.1, hv⟩
      | sock sk =>
        exact Safe.seq (startBridge_safe hu.1 hu.2) fun _ v hv => .inr (.inr ⟨rfl, hv⟩)

theorem Inv.pop (hi : Inv s) (h : Free room s) (hopen : admissionAvailable s = true)
    {rest : List ListenerId} (hlist : s.readyList = e :: rest) :
    Inv { s with
      readyList := rest
      readyQueued := Function.update s.readyQueued e false
      entry := some e
      admitted := true } := by
  simp only [admissionAvailable, Bool.and_eq_true, Bool.not_eq_true', Bool.or_eq_true, beq_iff_eq,
    decide_eq_true_eq] at hopen
  obtain ⟨⟨hdrain, -⟩, hlimit⟩ := hopen
  have hqueued : s.readyQueued e = true := (hi.ready.listed.mem e).mp (by simp [hlist])
  have hmono : ∀ l, Function.update s.readyQueued e false l = true → s.readyQueued l = true := by
    intro l hl
    by_cases hle : l = e
    · simp [hle] at hl
    · simpa [hle] using hl
  exact
    { hi with
      ready :=
        { hi.ready with
          listed := (hlist ▸ hi.ready.listed).tail
          queued := fun l hl => hi.ready.queued l (hmono l hl)
          popped := fun l hl => by
            obtain ⟨⟨⟩⟩ | hl := hl
            · exact hi.ready.queued e hqueued
            · exact hi.ready.popped l (.inr hl)
          dormant := fun hd => by
            have hnil := (hi.ready.dormant hd).2
            rw [hlist] at hnil
            cases hnil
          cleared := fun hd => absurd (hdrain.symm.trans hd) (by simp) }
      pending :=
        { pending := fun hrun l hl hne => by
            by_cases hle : l = e
            · exact .inr (.inl (by rw [hle]))
            · rcases hi.pending.pending hrun l hl hne with hq | hentry | hstart
              · exact .inl (by simpa [hle] using hq)
              · rw [h.entry] at hentry
                cases hentry
              · exact .inr (.inr hstart)
          awake := fun _ hlook => absurd (hlook.symm.trans h.looking) (by simp) }
      counts :=
        { hi.counts with
          admitted := fun _ hmax => hlimit.resolve_left hmax }
      life :=
        { hi.life with
          lateAdmitted := fun _ => by
            by_contra hne
            exact absurd (hdrain.symm.trans (hi.life.lateDraining hne)) (by simp)
          drainedEmpty := fun hd =>
            absurd (hdrain.symm.trans (hi.life.drainedEmpty hd).1) (by simp) }
      worker := { hi.worker with idle := fun hidle => absurd h.thread hidle } }

theorem nextReady_safe (h : Free room s) :
    Safe Inv workerContract (fun a t => match a with
        | none => Working false none false none none room t
        | some e => Working true (some e) true none none room t)
      (Prog.await unlocked fun s _ => nextReady s) s := by
  refine Safe.await fun t hr hi _ _ => ?_
  have ht : Free room t := h.stable hr
  have hstop : Working false none false none none room { t with looking := false } :=
    ⟨ht.thread, rfl, ht.entry, ht.admitted, ht.publicSock, ht.bridgeHandle, ht.removing, ht.room,
      ht.uncalled⟩
  have hguar : workerContract.guar t { t with looking := false } :=
    workerGuar_own ht.thread rfl rfl rfl rfl rfl rfl (fun _ => rfl) id (.of_eq rfl)
  unfold nextReady
  cases hopen : admissionAvailable t with
  | false =>
    refine ⟨hi.stopLooking ht.thread fun hrun _ => .inr ?_, hguar, hstop⟩
    simp only [State.running, Bool.and_eq_true, Bool.not_eq_true'] at hrun
    simpa [admissionAvailable, hrun] using hopen
  | true =>
    simp only [if_true, popReady]
    cases hlist : t.readyList with
    | nil => exact ⟨hi.stopLooking ht.thread fun _ hne => absurd hlist hne, hguar, hstop⟩
    | cons e rest =>
      refine ⟨hi.pop ht hopen hlist, workerGuar_own ht.thread rfl rfl rfl rfl rfl rfl
        (fun _ => rfl) id
        ⟨.of_eq rfl, fun _ hd => hd, .inl, .pop e ht.entry hlist rfl rfl⟩, ?_⟩
      exact ⟨ht.thread, ht.looking, rfl, rfl, ht.publicSock, ht.bridgeHandle, ht.removing, ht.room,
        ht.uncalled⟩

def WorkerAt : WorkerPoint → State → Prop
  | .waiting, s => Resting s.toWorkerSide ∧ ¬ s.calls .worker
  | .accepting budget, s => Free budget s

theorem WorkerAt.stable (a : WorkerPoint) (s s' : State) (h : WorkerAt a s) (hr : WorkerRely s s') :
    WorkerAt a s' := by
  cases a with
  | waiting =>
    refine ⟨?_, hr.uncalled h.2⟩
    by_cases hrun : s.thread = .running
    · rw [hr.work hrun]
      exact h.1
    · exact hr.rest hrun h.1
  | accepting budget => exact Working.stable h hr

theorem Inv.completeDrained (hi : Inv s) (hdrain : s.draining = true)
    (hzero : s.activeConnections = 0) (hadmitted : s.admitted = false)
    (hrun : s.thread = .running) :
    Inv { s with drained := Completion.completeAll s.drained } :=
  { hi with
    counts := { hi.counts with }
    life :=
      { hi.life with
        drainedEmpty := fun _ => ⟨hdrain, hzero, hadmitted⟩
        drainedAll := .inr rfl
        returned := fun _ => by simp [Completion.completeAll, Completion.UINT_MAX] }
    worker := { hi.worker with idle := fun hidle => absurd hrun hidle } }

theorem Inv.workerExit (hi : Inv s) (h : Working false none false none none room s)
    (hzero : s.activeConnections = 0) :
    Inv { s with stopped := Completion.completeAll s.stopped, thread := .exited } :=
  { hi with
    call :=
      { hi.call with
        worker := fun op live hcall => absurd ⟨op, live, hcall⟩ h.uncalled }
    counts := { hi.counts with }
    worker :=
      { serves := by simp
        idle := fun _ => by
          have hlen := hi.counts.active.symm.trans hzero
          exact ⟨h.entry, h.publicSock, h.bridgeHandle, h.admitted, h.removing,
            List.length_eq_zero_iff.mp hlen⟩
        origin := hi.worker.origin
        stopped := by simp
        shouldStop := by simp }
    routing := { hi.routing with listed := by simp } }

theorem finishPass_safe (h : Working false none false none none room s) :
    Safe Inv workerContract WorkerAt finishPass s := by
  refine Safe.await fun t hr hi _ _ => ?_
  have ht := h.stable hr
  have hdrained : ∀ c, (c = t.drained ∨ c = Completion.completeAll t.drained) →
      t.drained ≠ 0 → c ≠ 0 := by
    rintro c (rfl | rfl) hne
    · exact hne
    · simp [Completion.completeAll, Completion.UINT_MAX]
  have hmark : ∃ c, (c = t.drained ∨ c = Completion.completeAll t.drained) ∧
      Inv { t with drained := c } ∧
      (if t.draining && t.activeConnections == 0 then
        { t with drained := Completion.completeAll t.drained } else t) =
          { t with drained := c } := by
    split
    case isTrue hd =>
      simp only [Bool.and_eq_true, beq_iff_eq] at hd
      exact ⟨_, .inr rfl, hi.completeDrained hd.1 hd.2 ht.admitted ht.thread, rfl⟩
    case isFalse => exact ⟨_, .inl rfl, hi, rfl⟩
  obtain ⟨c, hc, hinv, heq⟩ := hmark
  have hw : Working false none false none none room { t with drained := c } :=
    ⟨ht.thread, ht.looking, ht.entry, ht.admitted, ht.publicSock, ht.bridgeHandle, ht.removing,
      ht.room, ht.uncalled⟩
  simp only [endPass, heq]
  split
  case isTrue hexit =>
    have hzero : t.activeConnections = 0 := by
      simp only [Bool.or_eq_true, Bool.and_eq_true, beq_iff_eq] at hexit
      rcases hexit with hstop | htask
      · exact hstop.2
      · exact absurd ht.thread (hi.worker.shouldStop htask)
    refine ⟨hinv.workerExit hw hzero, workerGuar_own ht.thread rfl rfl rfl rfl rfl rfl
      (fun _ => rfl)
      (hdrained c hc) (.of_eq rfl), ?_, ht.uncalled⟩
    exact ⟨ht.entry, ht.publicSock, ht.bridgeHandle, ht.admitted, ht.removing, ht.looking⟩
  case isFalse =>
    refine ⟨hinv, workerGuar_own ht.thread rfl rfl rfl rfl rfl rfl (fun _ => rfl) (hdrained c hc)
      (.of_eq rfl), ?_, ht.uncalled⟩
    exact hw.resting

theorem Inv.budgetSpent (hi : Inv s) (hrun : s.thread = .running) : Inv (budgetSpent s) := by
  cases hempty : s.readyList.isEmpty with
  | true =>
    have heq : Runtime.budgetSpent s = { s with looking := false } := by
      simp [Runtime.budgetSpent, hempty]
    rw [heq]
    exact hi.stopLooking hrun fun _ hne => absurd (List.isEmpty_iff.mp hempty) hne
  | false =>
    have heq : Runtime.budgetSpent s =
        { s with workReady := Completion.complete s.workReady, looking := false } := by
      simp [Runtime.budgetSpent, hempty]
    rw [heq]
    exact hi.complete.stopLooking hrun fun _ _ => .inl (complete_ne_zero _)

theorem acceptReady_safe {budget : ℕ} (h : Free budget s) :
    Safe Inv workerContract WorkerAt (acceptReady budget) s := by
  cases budget with
  | zero =>
    refine Safe.seq (P := fun _ t => Working false none false none none 0 t)
      (Safe.block fun t hr hi _ => ?_) fun _ t ht => finishPass_safe ht
    have ht : Free 0 t := h.stable hr
    refine ⟨?_, workerGuar_own ht.thread rfl rfl rfl rfl rfl rfl (fun _ => rfl) id
      (.of_eq rfl), ht.thread, rfl, ht.entry, ht.admitted, ht.publicSock,
      ht.bridgeHandle, ht.removing, ht.room, ht.uncalled⟩
    exact hi.budgetSpent ht.thread
  | succ n =>
    refine Safe.seq (nextReady_safe h) fun a t ht => ?_
    cases a with
    | none => exact finishPass_safe ht
    | some e =>
      refine Safe.seq (acceptOne_safe ht) fun ret u hu => ?_
      rcases hu with ⟨hneg, hu⟩ | ⟨rfl, hu⟩ | ⟨rfl, hu⟩
      · simp only [hneg, if_true]
        exact finishPass_safe hu
      · exact hu
      · exact hu

theorem serviceThread_safe (a : WorkerPoint) (h : WorkerAt a s) :
    Safe Inv workerContract WorkerAt (serviceThread a) s := by
  cases a with
  | accepting budget => exact acceptReady_safe h
  | waiting =>
    refine Safe.seq (P := fun l t => Free 0 t ∧ l.Sublist t.bridges)
      (Safe.await fun t hr hi _ hready => ?_) fun l t ht => ?_
    · obtain ⟨hrun, -⟩ := of_decide_eq_true hready
      obtain ⟨hrest, hcall⟩ : WorkerAt .waiting t := WorkerAt.stable _ s t h hr
      refine ⟨?_, workerGuar_own hrun rfl rfl rfl rfl rfl rfl (fun _ => rfl) id
        (.of_eq rfl), ⟨hrun, rfl, hrest.entry, hrest.admitted, hrest.publicSock,
        hrest.bridgeHandle, hrest.removing, hi.batch, hcall⟩, List.Sublist.refl _⟩
      exact
        { hi with
          pending := { hi.pending with awake := by simp }
          counts := { hi.counts with }
          worker := { hi.worker with idle := fun hidle => absurd hrun hidle } }
    refine Safe.seq (serviceReap_safe l ht.1 ht.2) fun _ u hu => ?_
    refine Safe.seq (P := fun go v => if go = true then Free 0 v
      else Working false none false none none 0 v) (Safe.block fun v hr hi _ => ?_)
        fun go v hv => ?_
    · have hv : Free 0 v := hu.stable hr
      cases hon : (!v.draining && !v.stopping) with
      | true => exact ⟨hi, workerGuar_refl hv.thread, hv⟩
      | false =>
        refine ⟨hi.stopLooking hv.thread fun hrun => ?_,
          workerGuar_own hv.thread rfl rfl rfl rfl rfl rfl
          (fun _ => rfl) id (.of_eq rfl), hv.thread, rfl, hv.entry, hv.admitted,
          hv.publicSock, hv.bridgeHandle, hv.removing, hv.room, hv.uncalled⟩
        simp only [State.running, Bool.and_assoc, hon, Bool.and_false] at hrun
        cases hrun
    · cases go with
      | false => exact finishPass_safe hv
      | true =>
        refine Safe.seq (P := fun budget w => Free budget w) (Safe.await fun w hr hi _ _ => ?_)
          fun budget w hw => hw
        have hw : Free 0 w := Working.stable hv hr
        refine ⟨?_, workerGuar_own hw.thread rfl rfl rfl rfl rfl rfl (fun _ => rfl) id
          (.of_eq rfl), hw.thread, hw.looking, hw.entry, hw.admitted, hw.publicSock,
          hw.bridgeHandle, hw.removing, Nat.le_of_eq (Nat.zero_add _), hw.uncalled⟩
        exact
          { hi with
            counts := { hi.counts with }
            batch := Nat.zero_le _
            worker := { hi.worker with idle := fun hidle => absurd hw.thread hidle } }

end Tcpcc.Runtime

import Tcpcc.Runtime.ControlSafe

/-!
# Reachable states of the runtime

The environment leaves the fields of both threads alone: it runs the dispatcher of the bridge,
delivers callbacks and moves connections and sockets. With the contracts of the two threads
this gives the invariant in every configuration that is reached from boot, and the law of
every transition.
-/

namespace Tcpcc.Runtime
open Resumption State
open Bridge (SockId SessionId)

variable {s s' : State} {c c' : Config} {sk : SockId} {e : ListenerId}

/-! ## The environment -/

structure Outside (s s' : State) : Prop where
  control : s'.toControlSide = s.toControlSide
  worker : s'.toWorkerSide = s.toWorkerSide
  call : s'.call = s.call
  state : s'.state = s.state
  place : s'.place = s.place
  bridge : Bridge.ControlRely s.bridge s'.bridge
  ends : EndsKept s s'
  queue : QueueStep s s'

theorem Outside.workerRely (h : Outside s s') : WorkerRely s s' := by
  refine .of_control h.worker h.call h.bridge (congrArg ControlSide.acceptBatch h.control)
    fun e k _ hd => ⟨?_, ?_⟩
  · rw [show s'.nextListener = s.nextListener from congrArg ControlSide.nextListener h.control]
    exact hd.known
  · unfold routeOf
    rw [h.place, show s'.listenerConfig = s.listenerConfig from
      congrArg ControlSide.listenerConfig h.control, show s'.routes = s.routes from
      congrArg ControlSide.routes h.control]
    exact hd.route

theorem Outside.requestRely (h : Outside s s') : RequestRely s s' where
  side := h.control
  idle _ := h.worker
  quiet _ := ⟨h.call, h.bridge⟩
  uncalled hc := by
    rw [State.calls, h.call]
    exact hc
  notifier := congrArg Bridge.Registry.completionNotify h.bridge.registry
  bridges _ := congrArg WorkerSide.bridges h.worker
  drained hd := by
    rw [show s'.drained = s.drained from congrArg WorkerSide.drained h.worker]
    exact hd
  ends := h.ends

theorem Outside.law (h : Outside s s') : Law s s' where
  state := .of_eq h.state
  drained _ hd := h.control ▸ hd
  tainted ht := .inl ((congrArg ControlSide.tainted h.control).symm.trans ht)
  queue := h.queue

theorem Outside.background {b : Bridge.State} {p : Bridge.Thread Bridge.Segment} {n : Completion}
    (h : Background s.bridge b) :
    Outside s { s with bridge := b, dispatcher := p, workReady := n } where
  control := rfl
  worker := rfl
  call := rfl
  state := rfl
  place := rfl
  bridge := h.rely
  ends := .of_same rfl rfl (fun k => ⟨(h.socks k).userData, (h.socks k).hooks⟩) fun _ _ hc => hc
  queue := .keep rfl rfl rfl

theorem serviceWake_iterate (n : ℕ) (s : State) :
    ∃ c, serviceWake^[n] s = { s with workReady := c } := by
  induction n generalizing s with
  | zero => exact ⟨s.workReady, rfl⟩
  | succ n ih =>
    obtain ⟨c, hc⟩ := ih (serviceWake s)
    refine ⟨c, hc.trans ?_⟩
    unfold serviceWake
    split <;> rfl

theorem Inv.serviceWakes (n : ℕ) (hi : Inv s) : Inv (State.serviceWake^[n] s) := by
  induction n generalizing s with
  | zero => exact hi
  | succ n ih => exact ih hi.serviceWake

theorem SockSame.of_shutdowns {a b : Sock} (h : ∃ n, b = { a with shutdowns := n }) :
    SockSame a b := by
  obtain ⟨n, rfl⟩ := h
  exact ⟨rfl, rfl, rfl⟩

theorem dispatch_spec {ready : Bridge.State → Reply → Bool}
    {run : Bridge.State → Reply → Bridge.State}
    {next : Bridge.State → Reply → Bridge.Thread Bridge.Segment} {r : Reply} (hi : Inv s)
    (hp : s.dispatcher = .act ready run next) (hready : ready s.bridge r = true) :
    Inv (notify { s with dispatcher := next s.bridge r } (run s.bridge r)) ∧
      Outside s (notify { s with dispatcher := next s.bridge r } (run s.bridge r)) := by
  have hsafe := hi.bridge.thread
  rw [hp] at hsafe
  obtain ⟨hinv, hguar, hnext⟩ :=
    hsafe s.bridge (Bridge.DispatcherRely.refl _) hi.bridge.inv r hready
  have hback : Background s.bridge (run s.bridge r) :=
    ⟨hinv, hguar.toControlRely, fun k => .of_shutdowns (hguar.socks k)⟩
  refine ⟨(hi.background hback hnext).serviceWakes _, ?_⟩
  unfold notify
  obtain ⟨n, hn⟩ := serviceWake_iterate ((run s.bridge r).completions - s.bridge.completions)
    (State.putBridge { s with dispatcher := next s.bridge r } (run s.bridge r))
  rw [hn]
  exact .background hback

theorem bridgeEvent_spec {b : Bridge.State} (hi : Inv s) (hinv : Bridge.Inv b)
    (hd : Bridge.DispatcherRely s.bridge b) (hc : Bridge.ControlRely s.bridge b)
    (hsock : b.sock = s.bridge.sock) : Inv (s.putBridge b) ∧ Outside s (s.putBridge b) := by
  have hback : Background s.bridge b := ⟨hinv, hc, fun k => by rw [hsock]; exact .refl _⟩
  have hthread :=
    hi.bridge.thread.stable (fun a s s' h hr _ => Bridge.SegmentOK.stable a s s' h hr) hd hinv
  exact ⟨hi.background hback hthread, Outside.background hback⟩

theorem publicCallback_sock (w : Bridge.State.Wakeup) (sk : SockId) (b : Bridge.State) :
    (Bridge.State.publicCallback w sk b).sock = b.sock := by
  unfold Bridge.State.publicCallback
  split
  · split
    · unfold Bridge.State.markPublicReady
      split <;> rfl
    · rfl
  · rfl

theorem queueListener_outside (hi : Inv s) (e : ListenerId) : Outside s (queueListener e s) where
  control := rfl
  worker := rfl
  call := rfl
  state := rfl
  place := rfl
  bridge := .refl _
  ends := .of_eq rfl rfl rfl rfl
  queue := .queueListener hi.ready.listed rfl rfl rfl rfl

theorem Inv.queueListener (hi : Inv s) (e : ListenerId) : Inv (queueListener e s) :=
  { hi.toCore.queueListener e with
    owners := hi.owners.congr (fun o _ => by cases o <;> exact Iff.rfl) fun _ => Iff.rfl
    refs := hi.refs
    routing := hi.routing }

theorem socketCallback_spec (hi : Inv s) (w : Bridge.State.Wakeup) (sk : SockId) :
    Inv (socketCallback w sk s) ∧ Outside s (socketCallback w sk s) := by
  have hsame : Inv s ∧ Outside s s :=
    ⟨hi, rfl, rfl, rfl, rfl, rfl, .refl _, .refl s, .keep rfl rfl rfl⟩
  unfold socketCallback
  split
  case isTrue =>
    unfold listenerDataReady
    split
    case h_1 e _ =>
      split
      case isTrue => exact ⟨hi.queueListener e, queueListener_outside hi e⟩
      case isFalse => exact hsame
    case h_2 => exact hsame
  case isFalse =>
    obtain ⟨hinv, hd, hc⟩ := Bridge.publicCallback_spec hi.bridge.inv w sk
    exact bridgeEvent_spec hi hinv hd hc (publicCallback_sock w sk _)

theorem Inv.arrive {child : Child} (hi : Inv s) (hlt : sk < s.nextSock)
    (hstray : child.userData.isSession = false) (hplace : child.place = s.place sk)
    (hpend : s.running = true → ∀ l ∈ s.listeners, s.listenerSock l = sk →
      s.readyQueued l = true ∨ s.entry = some l ∨ s.starting = some l)
    (hrefs : s.tainted = false → ∀ l, child.userData = .listener l →
      s.listenerSock l = sk ∧ (s.callbackInstalled l = true ∨ l ∈ s.releasing)) :
    Inv { s with
      acceptQueue := Function.update s.acceptQueue sk (s.acceptQueue sk ++ [child]) } := by
  have hmem : ∀ k c, c ∈ Function.update s.acceptQueue sk (s.acceptQueue sk ++ [child]) k →
      c ∈ s.acceptQueue k ∨ k = sk ∧ c = child := by
    intro k c hc
    by_cases hk : k = sk
    · subst hk
      rw [Function.update_self] at hc
      rcases List.mem_append.mp hc with hc | hc
      · exact .inl hc
      · exact .inr ⟨rfl, List.mem_singleton.mp hc⟩
    · rw [Function.update_of_ne hk] at hc
      exact .inl hc
  exact
    { hi with
      queues :=
        { stray := fun k c hc => by
            rcases hmem k c hc with hc | ⟨-, rfl⟩
            · exact hi.queues.stray k c hc
            · exact hstray
          placed := fun k c hc => by
            rcases hmem k c hc with hc | ⟨rfl, rfl⟩
            · exact hi.queues.placed k c hc
            · exact hplace
          fresh := fun k hk => by
            have hne : k ≠ sk := fun he => absurd hk (Nat.not_le_of_gt (he ▸ hlt))
            exact (Function.update_of_ne hne _ _).trans (hi.queues.fresh k hk) }
      pending :=
        { hi.pending with
          pending := fun hrun l hl hne => by
            by_cases hk : s.listenerSock l = sk
            · exact hpend hrun l hl hk
            · refine hi.pending.pending hrun l hl ?_
              have hsame := Function.update_of_ne hk (s.acceptQueue sk ++ [child]) s.acceptQueue
              rw [← hsame]
              exact hne }
      refs := fun htaint =>
        { hi.refs htaint with
          children := fun k c hc l hl => by
            rcases hmem k c hc with hc | ⟨rfl, rfl⟩
            · exact (hi.refs htaint).children k c hc l hl
            · exact hrefs htaint l hl } }

theorem socketCallback_queue (w : Bridge.State.Wakeup) (sk : SockId) (s : State)
    (queue : SockId → List Child) :
    socketCallback w sk { s with acceptQueue := queue } =
      { socketCallback w sk s with acceptQueue := queue } := by
  unfold socketCallback
  by_cases hw : w = .dataReady ∧ (s.bridge.sock sk).hooks.dataReady = .service
  · rw [if_pos hw, if_pos hw]
    unfold listenerDataReady
    dsimp only
    split
    · split
      · rfl
      · rfl
    · rfl
  · rw [if_neg hw, if_neg hw]
    rfl

theorem socketCallback_queued (sk : SockId) (hi : Inv s) (hrun : s.running = true) {l : ListenerId}
    (hl : l ∈ s.listeners) (hsock : s.listenerSock l = sk) :
    (socketCallback .dataReady sk s).readyQueued l = true ∨ s.starting = some l := by
  rcases hi.listeners.complete l hl with hin | hstart
  · obtain ⟨hdata, hhook⟩ := hi.listeners.hooked l (List.mem_append_left _ hl) hin
    rw [hsock] at hdata hhook
    have hserves : s.allocated = true := by
      cases hcase : s.allocated with
      | true => rfl
      | false => simp [running, hcase] at hrun
    refine .inl ?_
    unfold socketCallback listenerDataReady
    rw [if_pos ⟨rfl, hhook⟩, hdata]
    simp only [hsock, hserves, and_self, if_true]
    exact queueListener_queued hin hrun
  · exact .inr hstart

theorem socketCallback_eq (w : Bridge.State.Wakeup) (sk : SockId) (s : State) :
    ∃ list queued work b, socketCallback w sk s = { s with
      readyList := list, readyQueued := queued, workReady := work, bridge := b } ∧
      b.sock = s.bridge.sock := by
  have hsame : ∃ list queued work b, s = { s with
      readyList := list, readyQueued := queued, workReady := work, bridge := b } ∧
      b.sock = s.bridge.sock := ⟨s.readyList, s.readyQueued, s.workReady, s.bridge, rfl, rfl⟩
  unfold socketCallback
  split
  case isTrue =>
    unfold listenerDataReady
    split
    case h_1 =>
      split
      case isTrue => exact ⟨_, _, _, s.bridge, rfl, rfl⟩
      case isFalse => exact hsame
    case h_2 => exact hsame
  case isFalse => exact ⟨_, _, _, _, rfl, publicCallback_sock w sk s.bridge⟩

theorem QueueStep.after {u : State} (h : QueueStep s s') (hlist : u.readyList = s'.readyList)
    (hentry : u.entry = s'.entry) (haccepts : u.accepts = s'.accepts)
    (hrun : u.running = s'.running) : QueueStep s u := by
  cases h with
  | keep hl he ha => exact .keep (hlist.trans hl) (hentry.trans he) (haccepts.trans ha)
  | push l hnew hl he ha =>
    exact .push l hnew (hlist.trans hl) (hentry.trans he) (haccepts.trans ha)
  | pop l hnone hl he ha =>
    exact .pop l hnone (hlist.symm ▸ hl) (hentry.trans he) (haccepts.trans ha)
  | drop l he hnone hl ha hwhy =>
    exact .drop l he (hentry.trans hnone) (hlist.trans hl) (haccepts.trans ha) hwhy
  | accept l he hnone hl ha =>
    exact .accept l he (hentry.trans hnone) (hlist.trans hl) (haccepts.trans ha)
  | withdraw l hstart hl he ha =>
    exact .withdraw l hstart (hlist.trans hl) (hentry.trans he) (haccepts.trans ha)
  | off hoff => exact .off (hoff.imp_right hrun.trans)

theorem arrival_spec (hi : Inv s) (hlt : sk < s.nextSock)
    (hstray : (s.bridge.sock sk).userData.isSession = false)
    (hs' : s' = socketCallback .dataReady sk
      { s with acceptQueue := Function.update s.acceptQueue sk (s.acceptQueue sk ++
        [⟨(s.bridge.sock sk).userData, (s.bridge.sock sk).hooks, s.place sk⟩]) }) :
    Inv s' ∧ Outside s s' := by
  rw [socketCallback_queue] at hs'
  obtain ⟨hcall, hout⟩ := socketCallback_spec hi .dataReady sk
  have hqueued := fun hrun l hl hsock => socketCallback_queued (l := l) sk hi hrun hl hsock
  obtain ⟨list, queued, work, b, heq, hsock⟩ := socketCallback_eq .dataReady sk s
  rw [heq] at hcall hout hqueued hs'
  subst hs'
  refine ⟨hcall.arrive hlt hstray rfl (fun hrun l hl hk => ?_) (fun htaint l hl => ?_), ?_⟩
  · rcases hqueued hrun l hl hk with hq | hs
    · exact .inl hq
    · exact .inr (.inr hs)
  · obtain ⟨hin, hlk⟩ := (hi.refs htaint).socks sk l hl
    exact ⟨hlk, .inl hin⟩
  · refine ⟨rfl, rfl, rfl, rfl, rfl, hout.bridge, ⟨Nat.le_refl _, fun _ _ => rfl, fun i k hk => ?_,
      fun l href => ⟨fun k => ?_, fun k c hc => ?_⟩⟩, ?_⟩
    · have hend := hout.ends.tabled i k hk
      exact ⟨rfl, hend.userData, hend.hooks⟩
    · exact (hout.ends.refs l href).socks k
    · by_cases hk : k = sk
      · subst hk
        have hc' : c ∈ Function.update s.acceptQueue k _ k := hc
        rw [Function.update_self] at hc'
        rcases List.mem_append.mp hc' with hc' | hc'
        · exact href.children k c hc'
        · rw [List.mem_singleton.mp hc']
          exact href.socks k
      · have hc' : c ∈ Function.update s.acceptQueue sk _ k := hc
        rw [Function.update_of_ne hk] at hc'
        exact href.children k c hc'
    · exact hout.queue.after rfl rfl rfl rfl

theorem environment_spec (ev : Event) (hi : Inv s) (h : environment s ev = some s') :
    Inv s' ∧ Outside s s' := by
  cases ev with
  | dispatch r =>
    cases hp : s.dispatcher with
    | ret segment => simp [environment, hp] at h
    | act ready run next =>
      simp only [environment, hp, Option.ite_none_right_eq_some, Option.some.injEq] at h
      obtain ⟨hready, rfl⟩ := h
      exact dispatch_spec hi hp hready
  | resumeDispatcher =>
    cases hp : s.dispatcher with
    | act ready run next => simp [environment, hp] at h
    | ret segment =>
      simp only [environment, hp, Option.some.injEq] at h
      subst h
      have hsegment := hi.bridge.thread
      rw [hp] at hsegment
      have hback : Background s.bridge s.bridge := ⟨hi.bridge.inv, .refl _, fun _ => .refl _⟩
      exact ⟨hi.background hback (Bridge.dispatcherThread_safe segment hsegment), .background hback⟩
  | callback w sk =>
    cases h
    exact socketCallback_spec hi w sk
  | hostEvent ev =>
    simp only [environment, Option.map_eq_some_iff] at h
    obtain ⟨b, hirq, rfl⟩ := h
    obtain ⟨hinv, hd, hc⟩ := Bridge.runtimeIrq_spec hi.bridge.inv ev hirq
    refine bridgeEvent_spec hi hinv hd hc ?_
    unfold Bridge.runtimeIrq at hirq
    split at hirq
    case isTrue =>
      cases hirq
      rfl
    case isFalse => cases hirq
  | arrival sk =>
    simp only [environment, Option.ite_none_right_eq_some, Option.some.injEq] at h
    obtain ⟨⟨hlt, -, hstray⟩, rfl⟩ := h
    exact arrival_spec hi hlt hstray rfl
  | abandon sk =>
    cases h
    exact ⟨hi.shrink fun _ _ => mem_of_mem_update_nil, rfl, rfl, rfl, rfl, rfl, .refl _,
      .of_same rfl rfl (fun _ => ⟨rfl, rfl⟩) fun _ _ => mem_of_mem_update_nil, .keep rfl rfl rfl⟩
  | tcpState sk state =>
    cases h
    refine ⟨hi.sameSock ⟨rfl, rfl, rfl⟩, rfl, rfl, rfl, rfl, rfl,
      Bridge.ControlRely.setSock (.inl rfl),
      .of_same rfl rfl (fun k => ?_) fun _ _ hc => hc, .keep rfl rfl rfl⟩
    rw [setSock_sock]
    split
    case isTrue hk => exact hk ▸ ⟨rfl, rfl⟩
    case isFalse => exact ⟨rfl, rfl⟩

/-! ## The system -/

theorem runtime_compatible :
    runtime.Compatible Inv workerContract requestContract WorkerAt ControlAt where
  guarA _ _ _ _ h := h.1
  guarB _ _ _ _ h := h.1
  env s ev s' hi he := by
    obtain ⟨hinv, hout⟩ := environment_spec ev hi he
    exact ⟨hinv, hout.workerRely, hout.requestRely⟩
  stableA a s s' h hr _ := WorkerAt.stable a s s' h hr
  stableB a s s' h hr _ := ControlAt.stable a h hr
  resumeA a _ p s hp _ h := by
    cases hp
    exact serviceThread_safe a h
  resumeB a g p s hp hi h := controlNext_safe hi h hp

theorem boot_sound : System.Sound Inv workerContract requestContract WorkerAt ControlAt boot := by
  refine ⟨Inv.initial, ⟨⟨rfl, rfl, rfl, rfl, rfl, rfl⟩, by simp [boot, calls]⟩,
    ⟨⟨rfl, rfl, rfl, rfl, by simp [boot, calls]⟩, by simp [boot]⟩, fun q a hlast => by cases hlast⟩

theorem reachable_sound (h : Reachable c) :
    System.Sound Inv workerContract requestContract WorkerAt ControlAt c :=
  runtime_compatible.reachable h boot_sound

theorem reachable_inv (h : Reachable c) : Inv c.state := (reachable_sound h).1

theorem reachable_law {l : Label Reply Unit ControlEvent Event} (h : Reachable c)
    (hs : runtime.step c l = some c') : Law c.state c'.state :=
  (reachable_sound h).transition Law.refl (fun _ _ hg => hg.2) (fun _ _ hg => hg.2)
    (fun _ ev _ hi he => (environment_spec ev hi he).2.law) hs

theorem reachable_control {p : ControlPoint} (h : Reachable c) (hp : c.right = .ret p) :
    ControlAt p c.state := by
  have hright := (reachable_sound h).2.2
  rw [hp] at hright
  exact hright

theorem reachable_worker {p : WorkerPoint} (h : Reachable c) (hp : c.left = .ret p) :
    WorkerAt p c.state := by
  have hleft := (reachable_sound h).2.1
  rw [hp] at hleft
  exact hleft

end Tcpcc.Runtime

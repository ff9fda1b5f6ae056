import Tcpcc.Runtime.BridgeSteps

/-!
# Steps on sockets and listeners

Sockets come into being, are shut down and released; listeners are hooked, queued and
unhooked. None of this moves a session.
-/

namespace Tcpcc.Runtime
open Resumption State FlaggedList
open Bridge (SockId SessionId)

variable {s s' : State} {sk : SockId} {v : Sock} {e : ListenerId}

/-! ## Sockets -/

theorem setSock_sock (s : State) (sk : SockId) (v : Sock) (k : SockId) :
    (setSock sk v s).bridge.sock k = if k = sk then v else s.bridge.sock k := by
  show Function.update s.bridge.sock sk v k = _
  rw [Function.update_apply]

theorem sockRelease_sock (s : State) (sk k : SockId) : (sockRelease sk s).bridge.sock k =
    if k = sk then { s.bridge.sock sk with releases := (s.bridge.sock sk).releases + 1 }
    else s.bridge.sock k := setSock_sock s sk _ k

theorem BridgeOK.setSock (h : BridgeOK s.bridge s.dispatcher s.call)
    (hv : v.userData = (s.bridge.sock sk).userData ∨ v.userData.isSession = false) :
    BridgeOK (s.bridge.setSock sk v) s.dispatcher s.call where
  inv := h.inv.setSock hv
  thread := h.thread.stable (fun a b b' hb hr _ => Bridge.SegmentOK.stable a b b' hb hr)
    (Bridge.DispatcherRely.of_sock _) (h.inv.setSock hv)
  calm hnone := (h.calm hnone).stable (Bridge.ControlRely.setSock hv)

theorem Inv.sameSock (hi : Inv s) (hv : SockSame (s.bridge.sock sk) v) : Inv (setSock sk v s) := by
  have hdata : v.userData = (s.bridge.sock sk).userData ∨ v.userData.isSession = false :=
    .inl hv.userData
  refine hi.background ⟨hi.bridge.inv.setSock hdata, Bridge.ControlRely.setSock hdata, fun k => ?_⟩
    (hi.bridge.setSock hdata).thread
  by_cases hk : k = sk
  · subst hk
    simpa [Bridge.State.setSock] using hv
  · simpa [Bridge.State.setSock, hk] using SockSame.refl _

theorem Core.shrink {q : SockId → List Child} (h : Core s)
    (hq : ∀ k, ∀ child ∈ q k, child ∈ s.acceptQueue k) : Core { s with acceptQueue := q } := by
  have hnil : ∀ k, q k ≠ [] → s.acceptQueue k ≠ [] := by
    intro k hk
    obtain ⟨child, hchild⟩ := List.exists_mem_of_ne_nil _ hk
    exact List.ne_nil_of_mem (hq k child hchild)
  exact
    { h with
      queues :=
        { stray := fun k child hchild => h.queues.stray k child (hq k child hchild)
          placed := fun k child hchild => h.queues.placed k child (hq k child hchild)
          fresh := fun k hk => by
            by_contra hne
            exact hnil k hne (h.queues.fresh k hk) }
      pending :=
        { h.pending with
          pending := fun hrun e he hne => h.pending.pending hrun e he (hnil _ hne) } }

theorem Inv.shrink {q : SockId → List Child} (hi : Inv s)
    (hq : ∀ k, ∀ child ∈ q k, child ∈ s.acceptQueue k) : Inv { s with acceptQueue := q } :=
  { hi.toCore.shrink hq with
    owners := hi.owners
    refs := fun htaint =>
      { hi.refs htaint with
        children := fun k child hchild => (hi.refs htaint).children k child (hq k child hchild) }
    routing := hi.routing }

theorem mem_of_mem_update_nil {q : SockId → List Child} {k : SockId} {child : Child}
    (h : child ∈ Function.update q sk [] k) : child ∈ q k := by
  by_cases hk : k = sk
  · simp [hk] at h
  · simpa [hk] using h

theorem Inv.sockShutdown (hi : Inv s) (sk : SockId) : Inv (sockShutdown sk s) := by
  have hshut : Inv (s.putBridge (s.bridge.sockShutdown sk)) := hi.sameSock ⟨rfl, rfl, rfl⟩
  exact hshut.shrink (q := Function.update s.acceptQueue sk []) fun _ _ => mem_of_mem_update_nil

theorem StopOK.socks {c : ControlSide} {started : List SessionId} {live : SessionId → Bool}
    {n : SessionId} {notify : Option ℕ} {sock sock' : SockId → Sock}
    (h : StopOK c started live n notify sock)
    (hother : ∀ k, (sock k).releases = 1 → (sock' k).releases = 1) :
    StopOK c started live n notify sock' where
  born := h.born
  served k hk := (h.served k hk).imp_left (hother k)
  gone := h.gone
  closed hstop := by
    obtain ⟨hdown, hnone, hserved⟩ := h.closed hstop
    exact ⟨hdown, hnone, fun k hk => hother k (hserved k hk)⟩

theorem Core.sockRelease (h : Core s) (hlive : s.unreleased sk) : Core (sockRelease sk s) := by
  have hother : ∀ k, (s.bridge.sock k).releases = 1 →
      ((State.sockRelease sk s).bridge.sock k).releases = 1 := by
    intro k hk
    rw [sockRelease_sock]
    split
    case isTrue he =>
      rw [he, hlive.2] at hk
      cases hk
    case isFalse => exact hk
  exact
    { h with
      bridge := h.bridge.setSock (.inl rfl)
      sockets :=
        { once := fun k => by
            rw [sockRelease_sock]
            split
            · simp [hlive.2]
            · exact h.sockets.once k
          fresh := fun k hk => by
            have hne : k ≠ sk := fun he => absurd hk (Nat.not_le_of_gt (he ▸ hlive.1))
            rw [sockRelease_sock, if_neg hne]
            exact h.sockets.fresh k hk
          housed := h.sockets.housed }
      listeners := h.listeners.hooked_of fun k l hl => by
        show ((State.sockRelease sk s).bridge.sock k).userData = _ ∧
          ((State.sockRelease sk s).bridge.sock k).hooks = _
        rw [sockRelease_sock]
        split
        case isTrue he =>
          subst he
          exact ⟨hl, rfl⟩
        case isFalse => exact ⟨hl, rfl⟩
      stop := h.stop.socks hother }

theorem unreleased_release (s : State) (sk k : SockId) :
    (sockRelease sk s).unreleased k ↔ k ≠ sk ∧ s.unreleased k := by
  show k < s.nextSock ∧ ((State.sockRelease sk s).bridge.sock k).releases = 0 ↔
    k ≠ sk ∧ k < s.nextSock ∧ (s.bridge.sock k).releases = 0
  rw [sockRelease_sock]
  by_cases hk : k = sk
  · simp [hk]
  · simp [hk]

variable {p : Place}

theorem newSock_sock (s : State) (v : Sock) (p : Place) (k : SockId) :
    (newSock v p s).2.bridge.sock k = if k = s.nextSock then v else s.bridge.sock k :=
  setSock_sock s s.nextSock v k

theorem newSock_place (s : State) (v : Sock) (p : Place) {k : SockId} (hk : k ≠ s.nextSock) :
    (newSock v p s).2.place k = s.place k := Function.update_of_ne hk _ _

theorem Core.newSock (h : Core s) (hdata : v.userData.isSession = false) (hrel : v.releases = 0) :
    Core (newSock v p s).2 := by
  have hother : ∀ k, (s.bridge.sock k).releases = 1 →
      ((State.newSock v p s).2.bridge.sock k).releases = 1 := by
    intro k hk
    rw [newSock_sock]
    split
    case isTrue he =>
      rw [h.sockets.fresh k (Nat.le_of_eq he.symm)] at hk
      cases hk
    case isFalse => exact hk
  exact
    { h with
      bridge := h.bridge.setSock (.inr hdata)
      call :=
        { h.call with
          start := fun who k live hcall => by
            obtain ⟨hlt, hhoused⟩ := h.call.start who k live hcall
            exact ⟨Nat.lt_succ_of_lt hlt, hhoused⟩ }
      sockets :=
        { once := fun k => by
            rw [newSock_sock]
            split
            · exact hrel ▸ Nat.zero_le 1
            · exact h.sockets.once k
          fresh := fun k hk => by
            rw [newSock_sock]
            split
            · exact hrel
            · exact h.sockets.fresh k (Nat.le_of_succ_le hk)
          housed := fun x k hx hk => Nat.lt_succ_of_lt (h.sockets.housed x k hx hk) }
      queues :=
        { stray := h.queues.stray
          placed := fun k child hchild => by
            have hne : k ≠ s.nextSock := by
              rintro rfl
              exact List.ne_nil_of_mem hchild (h.queues.fresh _ (Nat.le_refl _))
            rw [newSock_place s v p hne]
            exact h.queues.placed k child hchild
          fresh := fun k hk => h.queues.fresh k (Nat.le_of_succ_le hk) }
      listeners :=
        { h.listeners with
          known := fun e he => by
            obtain ⟨hlt, hsock⟩ := h.listeners.known e he
            exact ⟨hlt, Nat.lt_succ_of_lt hsock⟩
          hooked := fun e he hin => by
            have hne : s.listenerSock e ≠ s.nextSock := Nat.ne_of_lt (h.listeners.known e he).2
            show ((State.newSock v p s).2.bridge.sock (s.listenerSock e)).userData = _ ∧
              ((State.newSock v p s).2.bridge.sock (s.listenerSock e)).hooks.dataReady = _
            rw [newSock_sock, if_neg hne]
            exact h.listeners.hooked e he hin }
      stop := h.stop.socks hother }

theorem unreleased_new {k : SockId} (hnext : s'.nextSock = s.nextSock + 1)
    (hold : ∀ j, j ≠ s.nextSock → (s'.bridge.sock j).releases = (s.bridge.sock j).releases)
    (hnew : (s'.bridge.sock s.nextSock).releases = 0) :
    s'.unreleased k ↔ k = s.nextSock ∨ s.unreleased k := by
  unfold State.unreleased
  rw [hnext]
  by_cases hk : k = s.nextSock
  · subst hk
    simp [hnew]
  · rw [hold k hk]
    have hlt : k < s.nextSock + 1 ↔ k < s.nextSock := by
      constructor
      · intro h
        exact Nat.lt_of_le_of_ne (Nat.le_of_lt_succ h) hk
      · exact Nat.lt_succ_of_lt
    simp [hk, hlt]

/-! ## The ready queue -/

theorem Core.queueListener (h : Core s) (e : ListenerId) : Core (queueListener e s) := by
  by_cases hq : (!s.readyQueued e && s.callbackInstalled e && s.allocated && !s.draining &&
      !s.stopping) = true
  · simp only [State.queueListener, hq, if_true]
    simp only [Bool.and_eq_true, Bool.not_eq_true'] at hq
    obtain ⟨⟨⟨⟨hnot, hin⟩, hserves⟩, hdrain⟩, -⟩ := hq
    have hmem : e ∈ s.listeners := by
      rcases List.mem_append.mp (h.listeners.owned e hin) with hmem | hmem
      · exact hmem
      · have hleaving := h.ready.leaving (List.ne_nil_of_mem hmem)
        rw [hdrain] at hleaving
        cases hleaving
    exact
      { h with
        ready :=
          { h.ready with
            listed := h.ready.listed.append hnot
            queued := fun e' he' => by
              by_cases heq : e' = e
              · subst heq
                exact ⟨hmem, hin⟩
              · exact h.ready.queued e' (by simpa [heq] using he')
            dormant := fun hdown => absurd (hserves.symm.trans hdown) (by simp)
            cleared := fun hd => absurd (hdrain.symm.trans hd) (by simp) }
        pending :=
          { pending := fun hrun e' he' hne => by
              rcases h.pending.pending hrun e' he' hne with hr | hrest
              · refine .inl ?_
                by_cases heq : e' = e
                · simp [heq]
                · simpa [heq] using hr
              · exact .inr hrest
            awake := fun _ _ _ => .inl (complete_ne_zero _) } }
  · simp only [State.queueListener, hq, if_false, Bool.false_eq_true]
    exact h

theorem queueListener_queued (hin : s.callbackInstalled e = true) (hrun : s.running = true) :
    (queueListener e s).readyQueued e = true := by
  simp only [State.running, Bool.and_eq_true, Bool.not_eq_true'] at hrun
  obtain ⟨⟨hserves, hdrain⟩, hstop⟩ := hrun
  cases hq : s.readyQueued e with
  | true => simp [State.queueListener, hq]
  | false => simp [State.queueListener, hq, hin, hserves, hdrain, hstop]

theorem Core.removeReadyListener (h : Core s) (hoff : s.starting = some e ∨ s.running = false) :
    Core (removeReadyListener e s) := by
  have hmono : ∀ e', Function.update s.readyQueued e false e' = true → s.readyQueued e' = true := by
    intro e' he'
    by_cases heq : e' = e
    · simp [heq] at he'
    · simpa [heq] using he'
  have hnil : s.readyList = [] → (State.removeReadyListener e s).readyList = [] := by
    intro hl
    simp [State.removeReadyListener, hl]
  exact
    { h with
      ready :=
        { h.ready with
          listed := h.ready.listed.remove e
          queued := fun e' he' => h.ready.queued e' (hmono e' he')
          dormant := fun hd => ⟨(h.ready.dormant hd).1, hnil (h.ready.dormant hd).2⟩
          cleared := fun hd => hnil (h.ready.cleared hd) }
      pending :=
        { pending := fun hrun e' he' hne => by
            rcases hoff with hstart | hoff
            · by_cases heq : e' = e
              · exact .inr (.inr (heq ▸ hstart))
              · rcases h.pending.pending hrun e' he' hne with hq | hrest
                · exact .inl (by simpa [State.removeReadyListener, heq] using hq)
                · exact .inr hrest
            · exact absurd (hrun.symm.trans hoff) (by simp)
          awake := fun hrun hlook hne => h.pending.awake hrun hlook (mt hnil hne) } }

section Groups
variable {readyList : List ListenerId} {readyQueued : ListenerId → Bool}
  {entry origin starting : Option ListenerId} {listeners releasing : List ListenerId}
  {installed : ListenerId → Bool} {allocated draining : Bool}

theorem ReadyOK.clear {allocated' draining' : Bool}
    (h : ReadyOK readyList readyQueued entry origin listeners releasing installed allocated
      draining)
    (hleaving : releasing ≠ [] → draining' = true) (hdown : allocated' = false → listeners = []) :
    ReadyOK [] (fun e => readyQueued e && !readyList.contains e) entry origin listeners releasing
      installed allocated' draining' := by
  have hnone : ∀ e, (readyQueued e && !readyList.contains e) = false := fun e => by
    cases hq : readyQueued e with
    | false => rfl
    | true => simp [(h.listed.mem e).mpr hq]
  exact
    { listed := ⟨List.nodup_nil, fun e => by
        rw [hnone e]
        simp⟩
      queued := fun e he => by
        rw [hnone e] at he
        cases he
      popped := h.popped
      dormant := fun hd => ⟨hdown hd, rfl⟩
      cleared := fun _ => rfl
      leaving := hleaving }

theorem ReadyOK.dropOrigin
    (h : ReadyOK readyList readyQueued entry origin listeners releasing installed allocated
      draining) :
    ReadyOK readyList readyQueued entry none listeners releasing installed allocated draining :=
  { h with popped := fun e he => h.popped e (.inl (he.resolve_right (by simp))) }

theorem PendingOK.off {running : Bool} {listenerSock : ListenerId → SockId}
    {acceptQueue : SockId → List Child} {looking : Bool} {workReady : Completion}
    {maxConnections activeConnections : ℕ} (hoff : running = false) :
    PendingOK running listeners starting entry listenerSock acceptQueue readyList readyQueued
      looking workReady maxConnections activeConnections := by
  constructor <;> simp [hoff]

end Groups

theorem Inv.shut {state : ServiceState} {stopping : Bool} (hi : Inv s)
    (hstate : s.allocated = true → state ≠ .running ∧ state ≠ .stopped)
    (hstops : s.allocated = true → stopping = true → state = .stopping)
    (hstop : s.stopping = true → stopping = true) :
    Inv (clearReady { s with draining := true, stopping := stopping, state := state }) :=
  { hi with
    ready := hi.ready.clear (fun _ => rfl) fun hdown => (hi.ready.dormant hdown).1
    pending := PendingOK.off (by simp [running, clearReady])
    life :=
      { hi.life with
        running := fun hserves => by simp [clearReady, (hstate hserves).1]
        unstopped := fun hserves => (hstate hserves).2
        stops := hstops
        stopDrains := fun _ => rfl
        lateDraining := fun _ => rfl
        drainedEmpty := fun hd => ⟨rfl, (hi.life.drainedEmpty hd).2⟩ }
    cancel := { hi.cancel with since := fun h => hstop (hi.cancel.since h) }
    stop := { hi.stop with } }

/-! ## Listener callbacks -/

theorem Core.rehook (h : Core s) (installed : ListenerId → Bool) (saved : ListenerId → Callback)
    (hdata : v.userData = (s.bridge.sock sk).userData ∨ v.userData.isSession = false)
    (hrel : v.releases = (s.bridge.sock sk).releases)
    (hl : ListenersOK s.listeners s.releasing s.starting s.nextListener s.listenerSock installed
      (setSock sk v s).bridge.sock s.nextSock)
    (hr : ReadyOK s.readyList s.readyQueued s.entry s.origin s.listeners s.releasing installed
      s.allocated s.draining) :
    Core (setSock sk v { s with callbackInstalled := installed, savedDataReady := saved }) := by
  have hsame : ∀ k, ((setSock sk v s).bridge.sock k).releases = (s.bridge.sock k).releases := by
    intro k
    rw [setSock_sock]
    split
    case isTrue he => rw [hrel, he]
    case isFalse => rfl
  exact
    { h with
      bridge := h.bridge.setSock hdata
      sockets :=
        { once := fun k => (Nat.le_of_eq (hsame k)).trans (h.sockets.once k)
          fresh := fun k hk => (hsame k).trans (h.sockets.fresh k hk)
          housed := h.sockets.housed }
      listeners := hl
      ready := hr
      stop := { h.stop.socks fun k hone => (hsame k).trans hone with } }

theorem ListenersOK.sock_ne (h : Core s) {e e' : ListenerId} (he : e ∈ s.listeners ++ s.releasing)
    (hin : s.callbackInstalled e = true)
    (hother : (s.bridge.sock (s.listenerSock e')).userData ≠ .listener e) :
    s.listenerSock e ≠ s.listenerSock e' := fun heq =>
  hother (heq ▸ (h.listeners.hooked e he hin).1)

theorem Core.installListenerCallback (h : Core s) (he : e ∈ s.listeners)
    (hnull : (s.bridge.sock (s.listenerSock e)).userData = .null) :
    Core (installListenerCallback e s).2 := by
  simp only [State.installListenerCallback, hnull, ne_eq, not_true_eq_false, if_false]
  refine h.rehook _ _ (.inr rfl) rfl ?_ ?_
  · refine { h.listeners with hooked := ?_, complete := ?_, owned := ?_ }
    · intro e' he' hin'
      by_cases heq : e' = e
      · subst heq
        rw [setSock_sock, if_pos rfl]
        exact ⟨rfl, rfl⟩
      · have hin : s.callbackInstalled e' = true := by simpa [heq] using hin'
        have hne : s.listenerSock e' ≠ s.listenerSock e :=
          ListenersOK.sock_ne h he' hin (by simp [hnull])
        rw [setSock_sock, if_neg hne]
        exact h.listeners.hooked e' he' hin
    · intro e' he'
      by_cases heq : e' = e
      · simp [heq]
      · simpa [heq] using h.listeners.complete e' he'
    · intro e' hin'
      by_cases heq : e' = e
      · exact heq ▸ List.mem_append_left _ he
      · exact h.listeners.owned e' (by simpa [heq] using hin')
  · have hmono : ∀ e', s.callbackInstalled e' = true →
        Function.update s.callbackInstalled e true e' = true := by
      intro e' hin
      by_cases heq : e' = e
      · simp [heq]
      · simpa [heq] using hin
    exact
      { h.ready with
        queued := fun e' hq => ⟨(h.ready.queued e' hq).1, hmono e' (h.ready.queued e' hq).2⟩
        popped := fun e' hp => ⟨(h.ready.popped e' hp).1, hmono e' (h.ready.popped e' hp).2⟩ }

theorem installListenerCallback_busy
    (hdata : (s.bridge.sock (s.listenerSock e)).userData ≠ .null) :
    installListenerCallback e s = (-EBUSY, s) := by
  simp [State.installListenerCallback, hdata]

theorem removeReadyListener_queued (s : State) (e : ListenerId) :
    (removeReadyListener e s).readyQueued e = false := by
  simp [State.removeReadyListener]

theorem Core.unhook (h : Core s) (hentry : ¬ (s.entry = some e ∨ s.origin = some e))
    (hoff : s.starting = some e ∨ e ∉ s.listeners ∧ s.running = false) :
    Core (unhookListener e s) := by
  have hremoved := h.removeReadyListener (e := e) (hoff.imp_right And.right)
  by_cases hin : s.callbackInstalled e = true
  · have hhook := (h.listeners.hooked e (h.listeners.owned e hin) hin).1
    simp only [unhookListener, State.restoreListenerCallback, hin, hhook, if_true]
    have hne : ∀ e', e' ≠ e → e' ∈ s.listeners ++ s.releasing → s.callbackInstalled e' = true →
        s.listenerSock e' ≠ s.listenerSock e := by
      intro e' heq he' hin'
      exact ListenersOK.sock_ne h he' hin' (by simpa [hhook] using Ne.symm heq)
    refine hremoved.rehook (Function.update s.callbackInstalled e false) s.savedDataReady (.inr rfl)
      rfl ?_ ?_
    · refine { hremoved.listeners with hooked := ?_, complete := ?_, owned := ?_ }
      · intro e' he' hin'
        by_cases heq : e' = e
        · simp [heq] at hin'
        · have hin : s.callbackInstalled e' = true := by simpa [heq] using hin'
          show ((setSock _ _ _).bridge.sock (s.listenerSock e')).userData = _ ∧
            ((setSock _ _ _).bridge.sock (s.listenerSock e')).hooks.dataReady = _
          rw [setSock_sock, if_neg (hne e' heq he' hin)]
          exact h.listeners.hooked e' he' hin
      · intro e' he'
        by_cases heq : e' = e
        · subst heq
          rcases hoff with hstart | ⟨hnot, -⟩
          · exact .inr hstart
          · exact absurd he' hnot
        · rw [Function.update_of_ne heq]
          exact h.listeners.complete e' he'
      · intro e' hin'
        by_cases heq : e' = e
        · simp [heq] at hin'
        · exact h.listeners.owned e' (by simpa [heq] using hin')
    · have hkeep : ∀ e', e' ≠ e → s.callbackInstalled e' = true →
          Function.update s.callbackInstalled e false e' = true := by
        intro e' heq hin
        simpa [heq] using hin
      exact
        { hremoved.ready with
          queued := fun e' hq => by
            have heq : e' ≠ e := by
              rintro rfl
              rw [removeReadyListener_queued] at hq
              cases hq
            obtain ⟨hmem, hin⟩ := hremoved.ready.queued e' hq
            exact ⟨hmem, hkeep e' heq hin⟩
          popped := fun e' hp => by
            have heq : e' ≠ e := by
              rintro rfl
              exact hentry hp
            obtain ⟨hmem, hin⟩ := h.ready.popped e' hp
            exact ⟨hmem, hkeep e' heq hin⟩ }
  · simp only [unhookListener, State.restoreListenerCallback, hin, if_false, Bool.false_eq_true]
    exact hremoved

/-! ## Accepting -/

theorem isSession_headD (h : QueuesOK s.acceptQueue s.place s.nextSock) (sk : SockId) :
    ((s.acceptQueue sk).headD {}).userData.isSession = false := by
  cases hq : s.acceptQueue sk with
  | nil => rfl
  | cons child rest => exact h.stray sk child (by simp [hq])

theorem mem_of_mem_update_tail {q : SockId → List Child} {k : SockId} {child : Child}
    (h : child ∈ Function.update q sk (q sk).tail k) : child ∈ q k := by
  by_cases hk : k = sk
  · subst hk
    exact List.mem_of_mem_tail (by simpa using h)
  · simpa [hk] using h

theorem acceptSock_sock (s : State) (sk k : SockId) : (acceptSock sk s).2.bridge.sock k =
    if k = s.nextSock then
      { state := .established
        userData := ((s.acceptQueue sk).headD {}).userData
        hooks := ((s.acceptQueue sk).headD {}).hooks }
    else s.bridge.sock k := setSock_sock _ _ _ k

theorem acceptSock_rely (h : QueuesOK s.acceptQueue s.place s.nextSock) (sk : SockId) :
    Bridge.ControlRely s.bridge (acceptSock sk s).2.bridge :=
  Bridge.ControlRely.setSock (.inr (isSession_headD h sk))

theorem Core.acceptSock (h : Core s) (sk : SockId) : Core (acceptSock sk s).2 :=
  (h.shrink fun _ _ => mem_of_mem_update_tail).newSock (isSession_headD h.queues sk) rfl

theorem Core.detachAcceptedCallback (sk : SockId) (e : ListenerId) (h : Core s)
    (hnew : ∀ l ∈ s.listeners ++ s.releasing, s.listenerSock l ≠ sk) :
    Core (detachAcceptedCallback sk e s) := by
  have hcase : ∀ v : Sock, v.userData = (s.bridge.sock sk).userData ∨ v.userData.isSession = false →
      v.releases = (s.bridge.sock sk).releases → Core (setSock sk v s) := by
    intro v hdata hrel
    refine h.rehook s.callbackInstalled s.savedDataReady hdata hrel
      { h.listeners with hooked := fun l hl hin => ?_ } h.ready
    rw [setSock_sock, if_neg (hnew l hl)]
    exact h.listeners.hooked l hl hin
  unfold State.detachAcceptedCallback
  refine hcase _ ?_ ?_
  · split
    · exact .inr rfl
    · exact .inl rfl
  · split <;> rfl

end Tcpcc.Runtime

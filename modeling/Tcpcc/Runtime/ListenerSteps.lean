import Tcpcc.Runtime.RequestSafe

/-!
# The entry of a listener

A listener that is being added is `starting`: it is on the list, but its socket still belongs
to the table. This module follows the entry through the calls of `tcpcc_service_start` that
reset the manager and link, hook, unhook and unlink it, up to the block in which the listener
takes its socket over.
-/

namespace Tcpcc.Runtime
open Resumption State FlaggedList
open Bridge (SockId SessionId Outcome)
open Function (update update_eq_self update_of_ne update_self)

variable {s s' t u : State} {sk : SockId} {e : ListenerId} {config : ServiceConfig}
  {routes : List Route} {q : Request} {i : ℕ}

theorem Inv.not_worker (hi : Inv s) (hdown : s.allocated = false) : s.thread ≠ .running :=
  fun hrun =>
  absurd ((hi.worker.serves hrun).symm.trans hdown) (by simp)

theorem Inv.resetStart (hi : Inv s) (hdown : s.allocated = false) (hrel : s.releasing = [])
    (huncalled : ¬ s.calls .control) (config : ServiceConfig) : Inv (resetStart config s) := by
  have hthread := hi.not_worker hdown
  obtain ⟨hentry, hsock, hhandle, -, -, -⟩ := hi.worker.idle hthread
  obtain ⟨hnil, hlist⟩ := hi.ready.dormant hdown
  have hnone := hi.no_notifier hdown
  have hflight : ∀ x, ¬ (Runtime.resetStart config s).inFlight x := by
    rintro x (⟨sk, live, hcall, -⟩ | hx)
    · exact hthread (hi.call.worker _ _ hcall)
    · cases hx
  exact
    { slots := hi.slots
      bridge := hi.bridge
      call :=
        { start := hi.call.start
          control := fun sk live hcall => absurd ⟨_, _, hcall⟩ huncalled
          worker := hi.call.worker
          accept := fun sk live hcall => absurd (hi.call.worker _ _ hcall) hthread }
      sockets := hi.sockets
      queues := hi.queues
      listeners :=
        { nodup := by
            show ([] ++ s.releasing).Nodup
            simp [hrel]
          known := fun e he => hi.listeners.known e (List.mem_append_right _ he)
          hooked := fun e he => hi.listeners.hooked e (List.mem_append_right _ he)
          complete := by simp [Runtime.resetStart]
          owned := fun e hin => by
            have hmem := hi.listeners.owned e hin
            rwa [hnil] at hmem
          moved := fun _ => rfl }
      count := rfl
      freed :=
        { known := hi.freed.known
          apart := fun e he hmem => hi.freed.apart e he (List.mem_append_right _ hmem) }
      ready :=
        { listed := by
            show Listed [] s.readyQueued
            rw [← hlist]
            exact hi.ready.listed
          queued := fun e he => by
            have hmem := (hi.ready.listed.mem e).mpr he
            rw [hlist] at hmem
            cases hmem
          popped := by simp [Runtime.resetStart]
          dormant := by simp [Runtime.resetStart]
          cleared := fun _ => rfl
          leaving := fun hne => absurd hrel hne }
      pending := ⟨by simp [Runtime.resetStart], by simp [Runtime.resetStart]⟩
      counts := by constructor <;> simp [Runtime.resetStart]
      batch := Nat.zero_le _
      life := by constructor <;> simp [Runtime.resetStart]
      worker :=
        { serves := fun hrun => absurd hrun hthread
          idle := fun _ => ⟨rfl, rfl, rfl, rfl, rfl, rfl⟩
          origin := fun _ => rfl
          stopped := fun hne => absurd rfl hne
          shouldStop := hi.worker.shouldStop }
      cover :=
        { ours := fun n hn => absurd (hnone.symm.trans hn) (by simp)
          covered := fun hne => absurd hnone hne
          removed := by simp [Runtime.resetStart] }
      cancel := by constructor <;> simp [Runtime.resetStart]
      stop := by constructor <;> simp [Runtime.resetStart]
      owners := by
        refine hi.owners.congr (fun o k => ?_) fun k => Iff.rfl
        cases o with
        | slot | session => exact Iff.rfl
        | listener l =>
          show (l ∈ [] ∨ l ∈ s.releasing) ∧ _ ↔ (l ∈ s.listeners ∨ l ∈ s.releasing) ∧ _
          rw [hnil]
          exact Iff.rfl
        | accept =>
          show none = some k ↔ s.publicSock = some k
          rw [hsock]
      refs := hi.refs
      routing := { hi.routing with listed := fun hrun => absurd hrun hthread } }

/-! ## Linking

The new entry is the one of the next number, so that it is in no list and no field speaks of it. -/

section Link
variable {listeners releasing readyList : List ListenerId} {entry origin : Option ListenerId}
  {n l : ListenerId} {listenerSock : ListenerId → SockId}
  {installed readyQueued : ListenerId → Bool}
  {acceptQueue : SockId → List Child} {sock : SockId → Sock} {nextSock : SockId}

theorem installed_of_update (h : update installed n false l = true) :
    l ≠ n ∧ installed l = true := by
  by_cases hne : l = n
  · simp [hne] at h
  · exact ⟨hne, by simpa [hne] using h⟩

theorem mem_of_mem_link (hl : l ∈ (listeners ++ [n]) ++ releasing) (hne : l ≠ n) :
    l ∈ listeners ++ releasing := by
  simpa [hne] using hl

theorem ListenersOK.ne_next {starting : Option ListenerId}
    (h : ListenersOK listeners releasing starting n listenerSock installed sock nextSock)
    (hl : l ∈ listeners ++ releasing) : l ≠ n :=
  Nat.ne_of_lt (h.known l hl).1

theorem ListenersOK.link {starting : Option ListenerId}
    (h : ListenersOK listeners releasing starting n listenerSock installed sock nextSock)
    (hstart : starting = none) (hrel : releasing = []) (hsk : sk < nextSock) :
    ListenersOK (listeners ++ [n]) releasing (some n) (n + 1) (update listenerSock n sk)
      (update installed n false) sock nextSock where
  nodup := by
    rw [List.append_assoc]
    exact List.perm_middle.nodup_iff.mpr (List.nodup_cons.mpr ⟨fun hn => h.ne_next hn rfl, h.nodup⟩)
  known l hl := by
    by_cases hne : l = n
    · rw [hne, update_self]
      exact ⟨Nat.lt_succ_self _, hsk⟩
    · obtain ⟨hlt, hlive⟩ := h.known l (mem_of_mem_link hl hne)
      rw [update_of_ne hne]
      exact ⟨Nat.lt_succ_of_lt hlt, hlive⟩
  hooked l hl hin := by
    obtain ⟨hne, hin⟩ := installed_of_update hin
    rw [update_of_ne hne]
    exact h.hooked l (mem_of_mem_link hl hne) hin
  complete l hl := by
    obtain hl | hl := List.mem_append.mp hl
    · rw [update_of_ne (h.ne_next (List.mem_append_left _ hl))]
      exact (h.complete l hl).imp_right fun hs => absurd (hs.symm.trans hstart) (by simp)
    · exact .inr (by rw [List.mem_singleton.mp hl])
  owned l hin := by
    have hmem := h.owned l (installed_of_update hin).2
    exact (List.mem_append.mp hmem).elim (fun hl => by simp [hl]) fun hl => by simp [hl]
  moved hne := absurd hrel hne

theorem ReadyOK.link {allocated draining : Bool}
    (h : ReadyOK readyList readyQueued entry origin listeners releasing installed allocated
      draining)
    (hnew : n ∉ listeners) (hserves : allocated = true) :
    ReadyOK readyList (update readyQueued n false) entry origin (listeners ++ [n]) releasing
      (update installed n false) allocated draining where
  listed := by
    have hq : readyQueued n = false := Bool.eq_false_iff.mpr fun hq => hnew (h.queued n hq).1
    rw [← hq, update_eq_self]
    exact h.listed
  queued l hl := by
    obtain ⟨hne, hq⟩ := installed_of_update hl
    rw [update_of_ne hne]
    exact (h.queued l hq).imp_left (List.mem_append_left _)
  popped l hl := by
    obtain ⟨hmem, hin⟩ := h.popped l hl
    rw [update_of_ne (ne_of_mem_of_not_mem hmem hnew)]
    exact ⟨List.mem_append_left _ hmem, hin⟩
  dormant hdown := absurd (hserves.symm.trans hdown) (by simp)
  cleared := h.cleared
  leaving := h.leaving

theorem PendingOK.link {running looking : Bool} {starting : Option ListenerId}
    {workReady : Completion} {maxConnections activeConnections : ℕ}
    (h : PendingOK running listeners starting entry listenerSock acceptQueue readyList readyQueued
      looking workReady maxConnections activeConnections)
    (hnew : n ∉ listeners) (hstart : starting = none) :
    PendingOK running (listeners ++ [n]) (some n) entry (update listenerSock n sk) acceptQueue
      readyList (update readyQueued n false) looking workReady maxConnections
        activeConnections where
  pending hrun l hl hwait := by
    obtain hl | hl := List.mem_append.mp hl
    · have hne := ne_of_mem_of_not_mem hl hnew
      rw [update_of_ne hne] at hwait ⊢
      refine (h.pending hrun l hl hwait).imp_right (.imp_right fun hs => ?_)
      exact absurd (hs.symm.trans hstart) (by simp)
    · exact .inr (.inr (by rw [List.mem_singleton.mp hl]))
  awake := h.awake

theorem RefsOK.link (h : RefsOK sock acceptQueue installed listenerSock releasing)
    (hin : installed n = false) (hrel : releasing = []) :
    RefsOK sock acceptQueue (update installed n false) (update listenerSock n sk) releasing where
  socks k l hl := by
    obtain ⟨hl, hlk⟩ := h.socks k l hl
    have hne : l ≠ n := by
      rintro rfl
      exact absurd (hl.symm.trans hin) (by simp)
    rw [update_of_ne hne, update_of_ne hne]
    exact ⟨hl, hlk⟩
  children k child hchild l hl := by
    obtain ⟨hlk, hl⟩ := h.children k child hchild l hl
    have hl : installed l = true := hl.resolve_right (by simp [hrel])
    have hne : l ≠ n := by
      rintro rfl
      exact absurd (hl.symm.trans hin) (by simp)
    rw [update_of_ne hne, update_of_ne hne]
    exact ⟨hlk, .inl hl⟩

end Link

theorem owns_linkListener (hnew : s.nextListener ∉ s.listeners ++ s.releasing)
    (hstart : s.starting = none) (config : ServiceConfig) (o : Owner) (k : SockId) :
    (linkListener sk config s).2.owns o k ↔ s.owns o k := by
  cases o with
  | slot | session | accept => exact Iff.rfl
  | listener l =>
    show (l ∈ s.listeners ++ [s.nextListener] ∨ l ∈ s.releasing) ∧ some s.nextListener ≠ some l ∧
      update s.listenerSock s.nextListener sk l = k ↔
      (l ∈ s.listeners ∨ l ∈ s.releasing) ∧ s.starting ≠ some l ∧ s.listenerSock l = k
    by_cases hne : l = s.nextListener
    · subst hne
      simp [mt List.mem_append.mpr hnew]
    · simp [hne, hstart, eq_comm]

theorem route_linkListener {l : ListenerId} (hne : l ≠ s.nextListener) (sk : SockId)
    (config : ServiceConfig) : (linkListener sk config s).2.route l = s.route l := by
  show (s.place (update s.listenerSock s.nextListener sk l)).route
    (update s.listenerConfig s.nextListener config l) = _
  rw [update_of_ne hne, update_of_ne hne]
  rfl

theorem Inv.linkListener (hi : Inv s) (hsk : s.table i = some sk) (hserves : s.allocated = true)
    (hstart : s.starting = none) (hrel : s.releasing = []) (config : ServiceConfig) :
    Inv (linkListener sk config s).2 := by
  have hslot : s.owns (.slot i) sk := hsk
  have hnew : s.nextListener ∉ s.listeners ++ s.releasing := fun hmem =>
    hi.listeners.ne_next hmem rfl
  have hunlisted : s.nextListener ∉ s.listeners := fun hmem => hnew (List.mem_append_left _ hmem)
  have hbare : s.callbackInstalled s.nextListener = false :=
    Bool.eq_false_iff.mpr fun hin => hnew (hi.listeners.owned _ hin)
  exact
    { hi with
      listeners := hi.listeners.link hstart hrel (hi.owners.isLive hslot).1
      count := by
        show s.listenerCount + 1 = (s.listeners ++ [_]).length
        rw [List.length_append, hi.count]
        rfl
      freed :=
        { known := fun l hl => Nat.lt_succ_of_lt (hi.freed.known l hl)
          apart := fun l hl hmem => hi.freed.apart l hl
            (mem_of_mem_link hmem (Nat.ne_of_lt (hi.freed.known l hl))) }
      ready := hi.ready.link hunlisted hserves
      pending := hi.pending.link hunlisted hstart
      stop :=
        { hi.stop with
          served := fun k hk => (hi.stop.served k hk).imp_right
            (Exists.imp fun l => (owns_linkListener hnew hstart config (.listener l) k).mpr) }
      owners := hi.owners.congr (owns_linkListener hnew hstart config) fun k => Iff.rfl
      refs := fun htaint => (hi.refs htaint).link hbare hrel
      routing :=
        { hi.routing with
          listed := fun hrun l hl hin => by
            obtain ⟨hne, hin⟩ := installed_of_update hin
            have hmem : l ∈ s.listeners := by simpa [Runtime.linkListener, hne] using hl
            rw [route_linkListener hne]
            exact hi.routing.listed hrun l hmem hin } }

theorem installListenerCallback_ok (hnull : (s.bridge.sock (s.listenerSock e)).userData = .null) :
    installListenerCallback e s = (0, setSock (s.listenerSock e)
      { s.bridge.sock (s.listenerSock e) with
        userData := .listener e
        hooks := { (s.bridge.sock (s.listenerSock e)).hooks with dataReady := .service } }
      { s with
        savedDataReady := update s.savedDataReady e
          (s.bridge.sock (s.listenerSock e)).hooks.dataReady
        callbackInstalled := update s.callbackInstalled e true }) := by
  simp [installListenerCallback, hnull]

theorem Inv.installListenerCallback (hi : Inv s) (he : e ∈ s.listeners)
    (hnull : (s.bridge.sock (s.listenerSock e)).userData = .null) (routes : List Route)
    (hold : ∀ r ∈ s.routes, r ∈ routes) (hroute : s.thread = .running → s.route e ∈ routes) :
    Inv { (installListenerCallback e s).2 with routes := routes } := by
  have hcore := hi.toCore.installListenerCallback he hnull
  rw [installListenerCallback_ok hnull] at hcore ⊢
  have hmono : ∀ l, s.callbackInstalled l = true →
      update s.callbackInstalled e true l = true := by
    intro l hin
    by_cases hle : l = e
    · simp [hle]
    · simpa [hle] using hin
  refine ⟨{ hcore with stop := { hcore.stop with } }, hi.owners.congr (fun o k => ?_) (fun k => ?_),
    fun htaint => ⟨fun k l hl => ?_, fun k child hchild l hl => ?_⟩, ⟨fun hrun l hl hin => ?_,
      fun d hd => hold d (hi.routing.dialed d hd)⟩⟩
  · cases o <;> exact Iff.rfl
  · have hsame : ((setSock (s.listenerSock e)
        { s.bridge.sock (s.listenerSock e) with
          userData := .listener e
          hooks := { (s.bridge.sock (s.listenerSock e)).hooks with dataReady := .service } }
        s).bridge.sock k).releases = (s.bridge.sock k).releases := by
      rw [setSock_sock]
      split
      case isTrue hk => rw [hk]
      case isFalse => rfl
    show k < s.nextSock ∧ ((setSock _ _ _).bridge.sock k).releases = 0 ↔ _
    exact and_congr_right fun _ => by rw [← hsame]; exact Iff.rfl
  · have hl' : ((setSock (s.listenerSock e) _ s).bridge.sock k).userData = .listener l := hl
    rw [setSock_sock] at hl'
    by_cases hk : k = s.listenerSock e
    · rw [if_pos hk] at hl'
      cases hl'
      exact ⟨by simp [setSock, putBridge], hk.symm⟩
    · rw [if_neg hk] at hl'
      obtain ⟨hin, hlk⟩ := (hi.refs htaint).socks k l hl'
      exact ⟨hmono l hin, hlk⟩
  · obtain ⟨hlk, hown⟩ := (hi.refs htaint).children k child hchild l hl
    exact ⟨hlk, hown.imp_left (hmono l)⟩
  · by_cases hle : l = e
    · subst hle
      exact hroute hrun
    · have hin' : s.callbackInstalled l = true := by
        simpa [setSock, putBridge, hle] using hin
      exact hold _ (hi.routing.listed hrun l hl hin')

theorem unhookListener_sock_of_ne {k : SockId} (hk : k ≠ s.listenerSock e) :
    (unhookListener e s).bridge.sock k = s.bridge.sock k := by
  unfold unhookListener restoreListenerCallback
  split
  · show (setSock _ _ _).bridge.sock k = _
    rw [setSock_sock, if_neg hk]
  · rfl

theorem unhookListener_sock_self (hin : s.callbackInstalled e = true)
    (hdata : (s.bridge.sock (s.listenerSock e)).userData = .listener e) :
    (unhookListener e s).bridge.sock (s.listenerSock e) =
      { s.bridge.sock (s.listenerSock e) with
        userData := .null
        hooks := { (s.bridge.sock (s.listenerSock e)).hooks with dataReady := s.savedDataReady e }
          } := by
  unfold unhookListener restoreListenerCallback
  rw [if_pos hin]
  show (setSock _ _ _).bridge.sock _ = _
  rw [setSock_sock, if_pos rfl, if_pos hdata]

theorem unhookListener_off (hin : s.callbackInstalled e = false) :
    (unhookListener e s).bridge = s.bridge := by
  unfold unhookListener restoreListenerCallback
  rw [if_neg (by simp [hin])]
  rfl

theorem unhookListener_releases (s : State) (e : ListenerId) (k : SockId) :
    ((unhookListener e s).bridge.sock k).releases = (s.bridge.sock k).releases := by
  unfold unhookListener restoreListenerCallback
  split
  · show ((setSock _ _ _).bridge.sock k).releases = _
    rw [setSock_sock]
    split
    case isTrue hk =>
      subst hk
      split <;> rfl
    case isFalse => rfl
  · rfl

theorem unhookListener_installed (s : State) (e : ListenerId) :
    (unhookListener e s).callbackInstalled = update s.callbackInstalled e false := by
  unfold unhookListener restoreListenerCallback
  split
  · rfl
  case isFalse hin =>
    have hoff : s.callbackInstalled e = false := by simpa using hin
    show s.callbackInstalled = _
    rw [← hoff, update_eq_self]

theorem unhookListener_eq (s : State) (e : ListenerId) : ∃ b,
    unhookListener e s = { s with
      callbackInstalled := update s.callbackInstalled e false
      readyList := if s.readyQueued e then s.readyList.erase e else s.readyList
      readyQueued := update s.readyQueued e false
      bridge := b } ∧ Bridge.ControlRely s.bridge b := by
  have hinstalled := unhookListener_installed s e
  unfold unhookListener restoreListenerCallback at *
  split at hinstalled
  case isTrue hin =>
    refine ⟨_, by rw [if_pos hin]; rfl, ?_⟩
    refine Bridge.ControlRely.setSock ?_
    split
    · exact .inr rfl
    · exact .inl rfl
  case isFalse hin =>
    refine ⟨s.bridge, ?_, Bridge.ControlRely.refl _⟩
    rw [if_neg hin, ← hinstalled]
    rfl

/-- A listener that leaves is unhooked. No waiting connection may refer to it, unless its socket
is about to be shut down. -/
theorem Inv.unhook (hi : Inv s) (hentry : ¬ (s.entry = some e ∨ s.origin = some e))
    (hoff : s.starting = some e ∨ e ∉ s.listeners ∧ s.running = false)
    (hclean : s.tainted = false → e ∈ s.releasing ∨
      ∀ k, ∀ child ∈ s.acceptQueue k, child.userData ≠ .listener e) : Inv (unhookListener e s) := by
  have hcore := hi.toCore.unhook hentry hoff
  have hflag : ∀ l, (unhookListener e s).callbackInstalled l = true →
      l ≠ e ∧ s.callbackInstalled l = true := by
    intro l hl
    rw [unhookListener_installed] at hl
    exact installed_of_update hl
  have hkeep : ∀ l, l ≠ e → s.callbackInstalled l = true →
      (unhookListener e s).callbackInstalled l = true := by
    intro l hle hin
    rw [unhookListener_installed, update_of_ne hle]
    exact hin
  have hsocks : s.tainted = false → ∀ k l,
      ((unhookListener e s).bridge.sock k).userData = .listener l →
      (s.bridge.sock k).userData = .listener l ∧ l ≠ e := by
    intro htaint k l hl
    cases hin : s.callbackInstalled e with
    | false =>
      rw [unhookListener_off hin] at hl
      refine ⟨hl, ?_⟩
      rintro rfl
      exact absurd (((hi.refs htaint).socks k l hl).1.symm.trans hin) (by simp)
    | true =>
      have hdata := (hi.listeners.hooked e (hi.listeners.owned e hin) hin).1
      by_cases hk : k = s.listenerSock e
      · rw [hk, unhookListener_sock_self hin hdata] at hl
        cases hl
      · rw [unhookListener_sock_of_ne hk] at hl
        refine ⟨hl, ?_⟩
        rintro rfl
        exact hk ((hi.refs htaint).socks k l hl).2.symm
  obtain ⟨b, heq, hb⟩ := unhookListener_eq s e
  refine ⟨hcore, hi.owners.congr (fun o k => ?_) (fun k => ?_), fun htaint => ?_, ?_⟩
  · rw [heq]
    cases o with
    | session x =>
      simp only [owns, congrArg Bridge.Registry.allocated hb.registry,
        congrArg Bridge.Registry.publicSock hb.registry]
    | slot | listener | accept => exact Iff.rfl
  · unfold unreleased
    rw [unhookListener_releases, heq]
  · have htaint' : s.tainted = false := by
      rw [heq] at htaint
      exact htaint
    have hrefs := hi.refs htaint'
    refine ⟨fun k l hl => ?_, fun k child hchild l hl => ?_⟩
    · obtain ⟨hold, hne⟩ := hsocks htaint' k l hl
      obtain ⟨hin, hlk⟩ := hrefs.socks k l hold
      rw [show (unhookListener e s).listenerSock = s.listenerSock by rw [heq]]
      exact ⟨hkeep l hne hin, hlk⟩
    · rw [show (unhookListener e s).acceptQueue = s.acceptQueue by rw [heq]] at hchild
      rw [show (unhookListener e s).listenerSock = s.listenerSock by rw [heq],
        show (unhookListener e s).releasing = s.releasing by rw [heq]]
      obtain ⟨hlk, hown⟩ := hrefs.children k child hchild l hl
      refine ⟨hlk, ?_⟩
      by_cases hle : l = e
      · subst hle
        rcases hclean htaint' with hrel | hnone
        · exact .inr hrel
        · exact absurd hl (hnone k child hchild)
      · exact hown.imp_left (hkeep l hle)
  · refine ⟨fun hrun l hl hin => ?_, ?_⟩
    · obtain ⟨-, hin⟩ := hflag l hin
      rw [heq] at hrun hl ⊢
      exact hi.routing.listed hrun l hl hin
    · rw [heq]
      exact hi.routing.dialed

theorem Inv.unlinkListener (hi : Inv s) (he : e ∈ s.listeners) (hstart : s.starting = some e)
    (hoff : s.callbackInstalled e = false) (hserves : s.allocated = true) :
    Inv (unlinkListener e s) := by
  have hnodup : s.listeners.Nodup := (List.nodup_append.mp hi.listeners.nodup).1
  have hmem : ∀ l, l ∈ s.listeners.erase e ↔ l ≠ e ∧ l ∈ s.listeners := fun l =>
    hnodup.mem_erase_iff
  have hsub : ∀ l, l ∈ s.listeners.erase e ++ s.releasing → l ∈ s.listeners ++ s.releasing := by
    intro l hl
    rcases List.mem_append.mp hl with hl | hl
    · exact List.mem_append_left _ ((hmem l).mp hl).2
    · exact List.mem_append_right _ hl
  have hne : ∀ l, s.callbackInstalled l = true → l ≠ e := by
    rintro l hin rfl
    exact absurd (hin.symm.trans hoff) (by simp)
  have howns : ∀ o k, (Runtime.unlinkListener e s).owns o k ↔ s.owns o k := by
    intro o k
    cases o with
    | slot | session | accept => exact Iff.rfl
    | listener l =>
      show (l ∈ s.listeners.erase e ∨ l ∈ s.releasing) ∧ none ≠ some l ∧ s.listenerSock l = k ↔
        (l ∈ s.listeners ∨ l ∈ s.releasing) ∧ s.starting ≠ some l ∧ s.listenerSock l = k
      rw [hstart, hmem]
      by_cases hle : l = e
      · subst hle
        have hnot : l ∉ s.releasing := fun hrel =>
          (List.nodup_append.mp hi.listeners.nodup).2.2 l he l hrel rfl
        simp [hnot]
      · simp [hle, Ne.symm hle]
  exact
    { hi with
      listeners :=
        { nodup := hi.listeners.nodup.sublist ((List.erase_sublist).append_right _)
          known := fun l hl => hi.listeners.known l (hsub l hl)
          hooked := fun l hl => hi.listeners.hooked l (hsub l hl)
          complete := fun l hl => by
            obtain ⟨hle, hl⟩ := (hmem l).mp hl
            rcases hi.listeners.complete l hl with hin | hs
            · exact .inl hin
            · rw [hstart] at hs
              exact absurd (Option.some.inj hs).symm hle
          owned := fun l hin => by
            rcases List.mem_append.mp (hi.listeners.owned l hin) with hl | hl
            · exact List.mem_append_left _ ((hmem l).mpr ⟨hne l hin, hl⟩)
            · exact List.mem_append_right _ hl
          moved := fun hrel => by
            rw [hi.listeners.moved hrel] at he
            cases he }
      count := by
        show (if s.listeners.contains e then s.listenerCount - 1 else s.listenerCount) =
          (s.listeners.erase e).length
        rw [if_pos (by simpa using he), List.length_erase_of_mem he, hi.count]
      freed :=
        { hi.freed with apart := fun l hl hin => hi.freed.apart l hl (hsub l hin) }
      ready :=
        { hi.ready with
          queued := fun l hl => by
            obtain ⟨hl, hin⟩ := hi.ready.queued l hl
            exact ⟨(hmem l).mpr ⟨hne l hin, hl⟩, hin⟩
          popped := fun l hl => by
            obtain ⟨hl, hin⟩ := hi.ready.popped l hl
            exact ⟨(hmem l).mpr ⟨hne l hin, hl⟩, hin⟩
          dormant := fun hdown => absurd (hserves.symm.trans hdown) (by simp) }
      pending :=
        { hi.pending with
          pending := fun hrun l hl hwait => by
            obtain ⟨hle, hl⟩ := (hmem l).mp hl
            rcases hi.pending.pending hrun l hl hwait with hq | hentry | hs
            · exact .inl hq
            · exact .inr (.inl hentry)
            · rw [hstart] at hs
              exact absurd (Option.some.inj hs).symm hle }
      stop :=
        { hi.stop with
          served := fun k hk => (hi.stop.served k hk).imp_right
            (Exists.imp fun l => (howns (.listener l) k).mpr) }
      owners := hi.owners.congr howns fun k => Iff.rfl
      routing :=
        { hi.routing with
          listed := fun hrun l hl hin => hi.routing.listed hrun l ((hmem l).mp hl).2 hin } }

theorem Inv.freeListener (hi : Inv s) (hlt : (e : ℕ) < s.nextListener)
    (hnot : e ∉ s.listeners ++ s.releasing) : Inv (freeListener e s) :=
  { hi with
    freed :=
      { known := fun l hl => by
          rcases List.mem_append.mp hl with hl | hl
          · exact hi.freed.known l hl
          · exact (List.mem_singleton.mp hl) ▸ hlt
        apart := fun l hl => by
          rcases List.mem_append.mp hl with hl | hl
          · exact hi.freed.apart l hl
          · exact (List.mem_singleton.mp hl) ▸ hnot }
    stop := { hi.stop with } }

theorem Inv.abandon (hi : Inv s) (hthread : s.thread ≠ .running) (hnil : s.listeners = [])
    (hrel : s.releasing = []) (hnone : s.bridge.completionNotify = none)
    (hstop : s.stopReturned = false) :
    Inv (clearReady { s with allocated := false, listenerCount := 0 }) :=
  { hi with
    call := { hi.call with control := fun _ _ _ => rfl }
    count := by
      show 0 = s.listeners.length
      rw [hnil]
      rfl
    ready := hi.ready.clear (fun hne => absurd hrel hne) fun _ => hnil
    pending := PendingOK.off (by simp [running, clearReady])
    life :=
      { hi.life with
        running := by simp [clearReady]
        unstopped := by simp [clearReady]
        stops := by simp [clearReady] }
    worker := { hi.worker with serves := fun hrun => absurd hrun hthread }
    cover := { hi.cover with ours := fun n hn => absurd (hnone.symm.trans hn) (by simp) }
    cancel :=
      { hi.cancel with
        each := by simp [clearReady]
        run := by simp [clearReady] }
    stop :=
      { hi.stop with
        closed := fun hstopped => by
          have hstopped' : s.stopReturned = true := hstopped
          rw [hstop] at hstopped'
          cases hstopped' } }

theorem Inv.workerCreated (hi : Inv s) (hserves : s.allocated = true) (hzero : s.stopped = 0)
    (routes : List Route) (hold : ∀ r ∈ s.routes, r ∈ routes)
    (hroute : ∀ l ∈ s.listeners, s.route l ∈ routes) :
    Inv { s with thread := .running, taskShouldStop := false, routes := routes } :=
  { hi with
    call := { hi.call with worker := fun _ _ _ => rfl }
    counts := { hi.counts with }
    worker :=
      { serves := fun _ => hserves
        idle := by simp
        origin := hi.worker.origin
        stopped := fun hne => absurd hzero hne
        shouldStop := by simp }
    stop := { hi.stop with }
    routing :=
      { listed := fun _ l hl _ => hroute l hl
        dialed := fun d hd => hold d (hi.routing.dialed d hd) } }

theorem Inv.startDone (handle : ℤ) (hi : Inv s) (he : e ∈ s.listeners)
    (hstart : s.starting = some e)
    (hin : s.callbackInstalled e = true) (hserves : s.allocated = true)
    (hsk : s.table (handle.toNat - 1) = some sk) (hsock : s.listenerSock e = sk) :
    Inv (startDone e (fun s => clearHandle handle { s with served := s.served ++ [sk] }) s) := by
  have hq := hi.toCore.queueListener e
  have hrel : e ∉ s.releasing := fun hrel =>
    (List.nodup_append.mp hi.listeners.nodup).2.2 e he e hrel rfl
  have hstarting : (queueListener e s).starting = s.starting := rfl
  refine ⟨?_, ?_, hi.refs, hi.routing⟩
  · exact
      { hq with
        slots := slots_clear hi.slots _
        listeners :=
          { hq.listeners with
            complete := fun l hl => by
              rcases hq.listeners.complete l hl with hl | hl
              · exact .inl hl
              · have hle : some e = some l := hstart.symm.trans hl
                exact .inl ((Option.some.inj hle) ▸ hin) }
        pending :=
          { hq.pending with
            pending := fun hrun l hl hwait => by
              rcases hq.pending.pending hrun l hl hwait with hl | hl | hl
              · exact .inl hl
              · exact .inr (.inl hl)
              · have hle : some e = some l := hstart.symm.trans hl
                exact .inl ((Option.some.inj hle) ▸ queueListener_queued hin hrun) }
        stop :=
          { hq.stop with
            served := fun k hk => by
              rcases List.mem_append.mp hk with hk | hk
              · rcases hi.stop.served k hk with hone | ⟨l, hl, -, hlk⟩
                · exact .inl hone
                · exact .inr ⟨l, hl, by simp [Runtime.startDone, clearHandle], hlk⟩
              · refine .inr ⟨e, .inl he, by simp [Runtime.startDone, clearHandle], ?_⟩
                exact hsock.trans (List.mem_singleton.mp hk).symm
            closed := fun hstop =>
              absurd (hserves.symm.trans (hi.stop.closed hstop).1) (by simp) } }
  · have hown : s.owns (.slot (handle.toNat - 1)) sk := hsk
    refine hi.owners.transfer hown (q := .listener e) (by simp) (fun j => ?_) (fun j => ?_)
      (fun o ho hne j => ?_) fun j => Iff.rfl
    · show update s.table _ none _ = some j ↔ j ≠ sk ∧ s.table _ = some j
      rw [update_self, hsk]
      simp [eq_comm]
    · show (e ∈ s.listeners ∨ e ∈ s.releasing) ∧ none ≠ some e ∧ s.listenerSock e = j ↔
        j = sk ∨ (e ∈ s.listeners ∨ e ∈ s.releasing) ∧ s.starting ≠ some e ∧ s.listenerSock e = j
      simp [he, hstart, hsock, eq_comm]
    · cases o with
      | slot j' =>
        have hne' : j' ≠ handle.toNat - 1 := fun he => ho (by rw [he])
        show update s.table _ none j' = some j ↔ s.table j' = some j
        rw [update_of_ne hne']
      | session | accept => exact Iff.rfl
      | listener l =>
        have hle : l ≠ e := fun he => hne (by rw [he])
        show (l ∈ s.listeners ∨ l ∈ s.releasing) ∧ none ≠ some l ∧ s.listenerSock l = j ↔
          (l ∈ s.listeners ∨ l ∈ s.releasing) ∧ s.starting ≠ some l ∧ s.listenerSock l = j
        rw [hstart]
        simp [Ne.symm hle]

end Tcpcc.Runtime

import Tcpcc.Runtime.Contracts

/-!
# Steps of the bridge inside the runtime

A block of a bridge operation moves sessions and sockets only as `Bridge.Tenure` says; a
block of the dispatcher, a callback or an interrupt moves none. Either keeps the invariant
of the runtime, and so a call of the bridge can be reasoned about with the rules of the
bridge alone.
-/

namespace Tcpcc.Runtime
open Resumption State
open Bridge (SockId SessionId)

variable {s s' : State} {t : Bridge.State} {who : Caller} {op : Bridge.Op}
  {live : SessionId → Bool} {x : SessionId}

/-! ## A block of an operation -/

theorem BridgeOK.opStep (h : BridgeOK s.bridge s.dispatcher s.call)
    (hcall : s.call = some ⟨who, op, live⟩) (ht : Bridge.Inv t)
    (hguar : Bridge.ControlGuar live op s.bridge t) : BridgeOK t s.dispatcher s.call where
  inv := ht
  thread := h.thread.stable (fun a b b' hb hr _ => Bridge.SegmentOK.stable a b b' hb hr)
    hguar.toDispatcherRely ht
  calm hnone := by
    rw [hcall] at hnone
    cases hnone

theorem Inv.call_opStep (hi : Inv s) (hcall : s.call = some ⟨who, op, live⟩)
    (hguar : Bridge.ControlGuar live op s.bridge t) :
    CallOK s.call t.allocated t.publicSock s.nextSock s.allocated s.thread s.publicSock
      s.removing := by
  refine { hi.call with start := fun who' sk old hold => ?_ }
  obtain ⟨hlt, hhoused⟩ := hi.call.start who' sk old hold
  refine ⟨hlt, fun x hx => ?_⟩
  obtain ⟨ha, hpub⟩ := hhoused x hx
  rw [hcall] at hold
  cases hold
  have hres := hguar.tenure.bystander hi.bridge.inv.unseen.1 hx ha
  rw [hres.allocated, hres.publicSock]
  exact ⟨ha, hpub⟩

theorem owns_session_opStep (hcall : s.call = some ⟨who, op, live⟩) (hi : Inv s)
    (htenure : Bridge.Tenure live op s.bridge t)
    (hkeep : ∀ k, (t.sock k).releases = (s.bridge.sock k).releases) (sk : SockId) :
    (s.putBridge t).owns (.session x) sk ↔ s.owns (.session x) sk := by
  have hres : Bridge.Resident x s.bridge t →
      ((s.putBridge t).owns (.session x) sk ↔ s.owns (.session x) sk) := fun hres => by
    simp only [owns, putBridge, hres.allocated, hres.publicSock]
  cases htenure with
  | keep _ hres' _ => exact hres (hres' x)
  | enter k hop hlive _ hres' _ hpub _ =>
    by_cases hx : x = s.bridge.nextSession
    · subst hx
      have hstarts : startsOn s.call k := ⟨who, live, by rw [hcall, hop]⟩
      simp only [owns, putBridge, hi.bridge.inv.unseen.1, hpub, Option.some.injEq,
        Bool.false_eq_true, false_and, iff_false, not_and, not_not]
      rintro - rfl
      exact hstarts
    · exact hres (hres' x hx)
  | drop y k hop hpub _ _ hres' hgone _ =>
    by_cases hx : x = y
    · subst hx
      have hstarts : startsOn s.call k := ⟨who, live, by rw [hcall, hop]⟩
      simp only [owns, putBridge, hgone, hpub, Option.some.injEq, Bool.false_eq_true, false_and,
        false_iff, not_and, not_not]
      rintro - rfl
      exact hstarts
    · exact hres (hres' x hx)
  | reap y k _ _ _ _ _ _ _ hsock =>
    have hk := hsock k
    rw [hkeep k, if_pos rfl] at hk
    omega

theorem Inv.owners_opStep (hi : Inv s) (hcall : s.call = some ⟨who, op, live⟩)
    (hguar : Bridge.ControlGuar live op s.bridge t) :
    Ownership.Linear (s.putBridge t).owns (s.putBridge t).unreleased := by
  rcases hguar.tenure.releases with hkeep | ⟨x, sk, hop, ha, hpub, hgone, hres, hsock⟩
  · refine hi.owners.congr (fun o k => ?_) fun k => ?_
    · cases o with
      | session x => exact owns_session_opStep hcall hi hguar.tenure hkeep k
      | slot | listener | accept => exact Iff.rfl
    · simp only [unreleased, putBridge, hkeep]
  · have hown : s.owns (.session x) sk := by
      refine ⟨ha, hpub, ?_⟩
      rintro ⟨who', old, hstart⟩
      rw [hcall] at hstart
      cases hstart
      exact hop sk rfl
    refine hi.owners.lose hown (fun k => ?_) (fun o ho k => ?_) fun k => ?_
    · simp only [owns, putBridge, hgone, hpub, Option.some.injEq, Bool.false_eq_true,
        false_and, false_iff, not_and]
      intro hk _ hsk
      exact absurd hsk.symm hk
    · cases o with
      | session y =>
        have hy := hres y fun he => ho (by rw [he])
        simp only [owns, putBridge, hy.allocated, hy.publicSock]
      | slot | listener | accept => exact Iff.rfl
    · simp only [unreleased, putBridge, hsock]
      by_cases hk : k = sk
      · simp [hk]
      · simp [hk]

theorem Inv.sockets_opStep (hi : Inv s) (hcall : s.call = some ⟨who, op, live⟩)
    (hguar : Bridge.ControlGuar live op s.bridge t) :
    SocketsOK t.sock s.nextSock t.allocated t.publicSock where
  once k := by
    rcases hguar.tenure.releases with hkeep | ⟨x, sk, hop, ha, hpub, -, -, hsock⟩
    · rw [hkeep]
      exact hi.sockets.once k
    · have hown : s.owns (.session x) sk := by
        refine ⟨ha, hpub, ?_⟩
        rintro ⟨who', old, hstart⟩
        rw [hcall] at hstart
        cases hstart
        exact hop sk rfl
      rw [hsock]
      split
      case isTrue hk =>
        have hzero := (hi.owners.isLive hown).2
        rw [hk, hzero]
      case isFalse => exact hi.sockets.once k
  fresh k hk := by
    rcases hguar.tenure.releases with hkeep | ⟨x, sk, hop, ha, hpub, -, -, hsock⟩
    · rw [hkeep]
      exact hi.sockets.fresh k hk
    · have hlt := hi.sockets.housed x sk ha hpub
      have hne : k ≠ sk := fun he => absurd hk (Nat.not_le_of_gt (he ▸ hlt))
      rw [hsock, if_neg hne]
      exact hi.sockets.fresh k hk
  housed x sk hx hpub := by
    rcases hguar.tenure.survivor hx with ⟨ha, hres⟩ | ⟨k, hop, -, -, hnew⟩
    · exact hi.sockets.housed x sk ha (hres.publicSock.symm.trans hpub)
    · rw [hpub] at hnew
      cases hnew
      exact (hi.call.start who sk live (by rw [hcall, hop])).1

theorem ListenersOK.hooked_of {sock sock' : SockId → Sock} {listeners releasing : List ListenerId}
    {starting : Option ListenerId} {nextListener : ListenerId} {nextSock : SockId}
    {listenerSock : ListenerId → SockId} {installed : ListenerId → Bool}
    (h : ListenersOK listeners releasing starting nextListener listenerSock installed sock nextSock)
    (hsock : ∀ sk l, (sock sk).userData = .listener l →
      (sock' sk).userData = .listener l ∧ (sock' sk).hooks = (sock sk).hooks) :
    ListenersOK listeners releasing starting nextListener listenerSock installed sock' nextSock :=
  { h with
    hooked := fun e he hin => by
      obtain ⟨hdata, hhook⟩ := h.hooked e he hin
      obtain ⟨hdata', hhooks⟩ := hsock _ _ hdata
      exact ⟨hdata', by rw [hhooks]; exact hhook⟩ }

/-- A session of the bridge after the block: one that stayed, or the one that the worker is
starting, unless there is no service. -/
theorem Inv.survivor (hi : Inv s) (hcall : s.call = some ⟨who, op, live⟩)
    (hguar : Bridge.ControlGuar live op s.bridge t) (hx : t.allocated x = true) :
    (s.bridge.allocated x = true ∧ Bridge.Resident x s.bridge t) ∨
      (s.putBridge t).inFlight x ∧ s.removing = none ∨ s.allocated = false := by
  rcases hguar.tenure.survivor hx with hold | ⟨sk, hop, hlive, hnew, -⟩
  · exact .inl hold
  · subst hop
    cases who with
    | worker =>
      have hfresh : live x = false := by
        rw [← hlive, hnew]
        exact hi.bridge.inv.unseen.1
      exact .inr (.inl ⟨.inl ⟨sk, live, hcall, hfresh⟩, (hi.call.accept sk live hcall).2⟩)
    | control => exact .inr (.inr (hi.call.control sk live hcall))

theorem inFlight_resident (hres : Bridge.Resident x s.bridge t) :
    (s.putBridge t).inFlight x ↔ s.inFlight x := by
  simp only [inFlight, InFlight, putBridge, hres.handle]

theorem Inv.cover_opStep (hi : Inv s) (hcall : s.call = some ⟨who, op, live⟩)
    (hguar : Bridge.ControlGuar live op s.bridge t)
    (hset : ∀ n, op = .setCompletionNotifier n → n = serviceNotifier ∧ s.allocated = true) :
    CoverOK t.completionNotify s.allocated t.allocated t.handle s.bridges
      (s.putBridge t).inFlight s.removing where
  ours n hn := by
    rcases hguar.notifier with hsame | ⟨m, hop, hm, -⟩ | ⟨m, -, hm⟩
    · exact hi.cover.ours n (hsame.symm.trans hn)
    · rw [hm] at hn
      cases hn
      exact hset n hop
    · rw [hm] at hn
      cases hn
  covered hn x hx := by
    rcases hguar.notifier with hsame | ⟨m, -, -, hvacant⟩ | ⟨m, -, hm⟩
    · rw [hsame] at hn
      rcases hi.survivor hcall hguar hx with ⟨ha, hres⟩ | ⟨hflight, -⟩ | hdown
      · rw [hres.handle, inFlight_resident hres]
        exact hi.cover.covered hn x ha
      · exact .inr hflight
      · exact absurd (hi.no_notifier hdown) hn
    · exact absurd (hx.symm.trans (hvacant x)) (by simp)
    · exact absurd hm hn
  removed h hh x hx := by
    rcases hi.survivor hcall hguar hx with ⟨ha, hres⟩ | ⟨-, hnone⟩ | hdown
    · rw [hres.handle]
      exact hi.cover.removed h hh x ha
    · rw [hnone] at hh
      cases hh
    · have hrun : s.thread = .running := by
        by_contra hne
        rw [(hi.worker.idle hne).2.2.2.2.1] at hh
        cases hh
      exact absurd ((hi.worker.serves hrun).symm.trans hdown) (by simp)

theorem Inv.isTold_opStep (hi : Inv s) (hcall : s.call = some ⟨who, op, live⟩)
    (hguar : Bridge.ControlGuar live op s.bridge t) (hserves : s.allocated = true) {h : ℤ}
    (hh : s.isTold h) : (s.putBridge t).isTold h := by
  intro x hx hname
  rcases hi.survivor hcall hguar hx with ⟨ha, hres⟩ | ⟨hflight, -⟩ | hdown
  · rw [inFlight_resident hres]
    rcases hh x ha (hres.handle.symm.trans hname) with hstop | hflight
    · exact .inl (hres.stopping hstop)
    · exact .inr hflight
  · exact .inr hflight
  · exact absurd (hserves.symm.trans hdown) (by simp)

theorem Inv.stop_opStep (hi : Inv s) (hcall : s.call = some ⟨who, op, live⟩)
    (hguar : Bridge.ControlGuar live op s.bridge t)
    (hset : ∀ n, op = .setCompletionNotifier n → n = serviceNotifier ∧ s.allocated = true) :
    StopOK s.toControlSide s.started t.allocated t.nextSession t.completionNotify t.sock := by
  -- a socket that has been released once is not released again
  have hreleased : ∀ sk, (s.bridge.sock sk).releases = 1 → (t.sock sk).releases = 1 := by
    intro sk hsk
    have honce := (hi.sockets_opStep hcall hguar).once sk
    rcases hguar.tenure.releases with hkeep | ⟨_, _, -, -, -, -, -, hsock⟩
    · rw [hkeep]
      exact hsk
    · rw [hsock] at honce ⊢
      split
      case isTrue hk =>
        rw [if_pos hk, hsk] at honce
        exact absurd honce (by decide)
      case isFalse => exact hsk
  exact
    { born := fun x hx => Nat.lt_of_lt_of_le (hi.stop.born x hx) hguar.tenure.next_le
      served := fun sk hsk => (hi.stop.served sk hsk).imp_left (hreleased sk)
      gone := fun hstop x hx => by
        cases hgone : t.allocated x with
        | false => rfl
        | true =>
          rcases hguar.tenure.survivor hgone with ⟨ha, -⟩ | ⟨-, -, -, hnew, -⟩
          · exact absurd ((hi.stop.gone hstop x hx).symm.trans ha) (by simp)
          · exact absurd (hnew ▸ hi.stop.born x hx) (Nat.lt_irrefl _)
      closed := fun hstop => by
        obtain ⟨hdown, hnone, hserved⟩ := hi.stop.closed hstop
        refine ⟨hdown, ?_, fun sk hsk => hreleased sk (hserved sk hsk)⟩
        rcases hguar.notifier with hsame | ⟨m, hop, -, -⟩ | ⟨m, -, hm⟩
        · rw [hsame]
          exact hnone
        · exact absurd ((hset m hop).2.symm.trans hdown) (by simp)
        · exact hm }

theorem RefsOK.of_socks {sock sock' : SockId → Sock} {acceptQueue : SockId → List Child}
    {installed : ListenerId → Bool} {listenerSock : ListenerId → SockId}
    {releasing : List ListenerId} (h : RefsOK sock acceptQueue installed listenerSock releasing)
    (hsock : ∀ sk l, (sock' sk).userData = .listener l → (sock sk).userData = .listener l) :
    RefsOK sock' acceptQueue installed listenerSock releasing :=
  { h with socks := fun sk l hl => h.socks sk l (hsock sk l hl) }

theorem Inv.tabled_opStep (hi : Inv s) (hcall : s.call = some ⟨who, op, live⟩) {sk : SockId}
    (hstart : who = .worker ∨ op ≠ .start sk) (hguar : Bridge.ControlGuar live op s.bridge t)
    {i : ℕ} (hsk : s.table i = some sk) : t.sock sk = s.bridge.sock sk := by
  have hslot : s.owns (.slot i) sk := hsk
  refine hguar.bystander sk fun x hx => ?_
  cases ha : s.bridge.allocated x with
  | false =>
    rw [hi.bridge.inv.tenants.vacated x ha] at hx
    cases hx
  | true =>
    by_cases hstarts : startsOn s.call sk
    · obtain ⟨who', old, hold⟩ := hstarts
      rw [hcall] at hold
      cases hold
      cases hstart.resolve_right fun hne => hne rfl
      have haccept : s.owns .accept sk := (hi.call.accept sk live hcall).1
      cases hi.owners.unique hslot haccept
    · have hown : s.owns (.session x) sk := ⟨ha, hx, hstarts⟩
      cases hi.owners.unique hslot hown

theorem Inv.ends_opStep (hi : Inv s) (hcall : s.call = some ⟨.worker, op, live⟩)
    (hguar : Bridge.ControlGuar live op s.bridge t) : EndsKept s (s.putBridge t) where
  grows := Nat.le_refl _
  placed _ _ := rfl
  tabled i sk hsk := by
    have hsame := hi.tabled_opStep hcall (.inl rfl) hguar hsk
    exact ⟨rfl, congrArg Sock.userData hsame, congrArg Sock.hooks hsame⟩
  refs _ h := ⟨fun sk hl => h.socks sk (hguar.foreign sk _ hl), h.children⟩

theorem Inv.opStep (hi : Inv s) (hcall : s.call = some ⟨who, op, live⟩) (ht : Bridge.Inv t)
    (hguar : Bridge.ControlGuar live op s.bridge t)
    (hset : ∀ n, op = .setCompletionNotifier n → n = serviceNotifier ∧ s.allocated = true) :
    Inv (s.putBridge t) :=
  { hi with
    bridge := hi.bridge.opStep hcall ht hguar
    call := hi.call_opStep hcall hguar
    owners := hi.owners_opStep hcall hguar
    sockets := hi.sockets_opStep hcall hguar
    listeners := hi.listeners.hooked_of hguar.listener
    cover := hi.cover_opStep hcall hguar hset
    cancel :=
      { hi.cancel with
        each := fun hserves h hh => hi.isTold_opStep hcall hguar hserves
          (hi.cancel.each hserves h hh)
        run := fun hserves hrun b hb =>
          hi.isTold_opStep hcall hguar hserves (hi.cancel.run hserves hrun b hb) }
    stop := hi.stop_opStep hcall hguar hset
    refs := fun htaint => (hi.refs htaint).of_socks hguar.foreign }

/-! ## What runs beside the operations -/

structure SockSame (a b : Sock) : Prop where
  releases : b.releases = a.releases
  userData : b.userData = a.userData
  hooks : b.hooks = a.hooks

theorem SockSame.refl (a : Sock) : SockSame a a := ⟨rfl, rfl, rfl⟩

structure Background (b t : Bridge.State) : Prop where
  inv : Bridge.Inv t
  rely : Bridge.ControlRely b t
  socks : ∀ sk, SockSame (b.sock sk) (t.sock sk)

theorem Inv.background {p : Bridge.Thread Bridge.Segment} (hi : Inv s)
    (h : Background s.bridge t)
    (hthread : Safe Bridge.Inv Bridge.dispatcherContract Bridge.SegmentOK p t) :
    Inv { s with bridge := t, dispatcher := p } := by
  have ha : t.allocated = s.bridge.allocated := congrArg Bridge.Registry.allocated h.rely.registry
  have hp : t.publicSock = s.bridge.publicSock :=
    congrArg Bridge.Registry.publicSock h.rely.registry
  have hh : t.handle = s.bridge.handle := congrArg Bridge.Registry.handle h.rely.registry
  have hn : t.completionNotify = s.bridge.completionNotify :=
    congrArg Bridge.Registry.completionNotify h.rely.registry
  have hx : t.nextSession = s.bridge.nextSession :=
    congrArg Bridge.Registry.nextSession h.rely.registry
  have hrel : ∀ sk, (t.sock sk).releases = (s.bridge.sock sk).releases := fun sk =>
    (h.socks sk).releases
  have htold : ∀ k, s.isTold k →
      Told t.allocated t.handle t.stopping (InFlight s.call s.bridgeHandle t.handle) k := by
    intro k hk x hx hname
    rw [ha] at hx
    rw [hh] at hname ⊢
    exact (hk x hx hname).imp_left (h.rely.stopping x)
  exact
    { hi with
      bridge := ⟨h.inv, hthread, fun hnone => (hi.bridge.calm hnone).stable h.rely⟩
      call := by rw [ha, hp]; exact hi.call
      owners := by
        refine hi.owners.congr (fun o k => ?_) fun k => ?_
        · cases o with
          | session x => simp only [owns, ha, hp]
          | slot | listener | accept => exact Iff.rfl
        · simp only [unreleased, hrel]
      sockets :=
        { once := fun sk => by rw [hrel]; exact hi.sockets.once sk
          fresh := fun sk hsk => by rw [hrel]; exact hi.sockets.fresh sk hsk
          housed := by rw [ha, hp]; exact hi.sockets.housed }
      listeners := hi.listeners.hooked_of fun sk l hl =>
        ⟨(h.socks sk).userData.trans hl, (h.socks sk).hooks⟩
      cover := by
        show CoverOK t.completionNotify s.allocated t.allocated t.handle s.bridges
          (InFlight s.call s.bridgeHandle t.handle) s.removing
        rw [ha, hh, hn]
        exact hi.cover
      cancel :=
        { hi.cancel with
          each := fun hserves k hk => htold k (hi.cancel.each hserves k hk)
          run := fun hserves hrun b hb => htold b.handle (hi.cancel.run hserves hrun b hb) }
      stop := by
        rw [ha, hn, hx]
        exact
          { born := hi.stop.born
            served := fun sk hsk => by rw [hrel]; exact hi.stop.served sk hsk
            gone := hi.stop.gone
            closed := fun hstop => by
              obtain ⟨hdown, hnone, hserved⟩ := hi.stop.closed hstop
              exact ⟨hdown, hnone, fun sk hsk => by rw [hrel]; exact hserved sk hsk⟩ }
      refs := fun htaint => (hi.refs htaint).of_socks fun sk _ hl =>
        (h.socks sk).userData.symm.trans hl }

theorem complete_ne_zero (c : Completion) : Completion.complete c ≠ 0 := by
  unfold Completion.complete
  split
  case isTrue h => exact h ▸ by decide
  case isFalse => exact Nat.succ_ne_zero c

theorem Inv.complete (hi : Inv s) : Inv { s with workReady := Completion.complete s.workReady } :=
  { hi with
    pending := { hi.pending with awake := fun _ _ _ => .inl (complete_ne_zero _) } }

theorem Inv.serviceWake (hi : Inv s) : Inv (serviceWake s) := by
  unfold State.serviceWake
  split
  · exact hi.complete
  · exact hi

/-! ## Taking and giving back the lock of the bridge -/

def startOwned (s : State) (who : Caller) (op : Bridge.Op) : Prop :=
  ∀ sk, op = .start sk → match who with
    | .worker => s.publicSock = some sk ∧ s.removing = none
    | .control => (∃ i, s.table i = some sk) ∧ s.allocated = false

theorem startOwned.owner {sk : SockId} (h : startOwned s who (.start sk)) :
    ∃ o, s.owns o sk ∧ ∀ x, o ≠ .session x := by
  cases who with
  | worker => exact ⟨.accept, (h sk rfl).1, by simp⟩
  | control =>
    obtain ⟨⟨i, hi⟩, -⟩ := h sk rfl
    exact ⟨.slot i, hi, by simp⟩

theorem CoverOK.imp {notify : Option ℕ} {allocated : Bool} {bridgeAllocated : SessionId → Bool}
    {handle : SessionId → ℤ} {bridges : List ServiceBridge} {flight flight' : SessionId → Prop}
    {removing : Option ℤ}
    (h : CoverOK notify allocated bridgeAllocated handle bridges flight removing)
    (himp : ∀ x, bridgeAllocated x = true → flight x → flight' x) :
    CoverOK notify allocated bridgeAllocated handle bridges flight' removing :=
  { h with covered := fun hn x hx => (h.covered hn x hx).imp_right (himp x hx) }

theorem CancelOK.imp {allocated stopping cancelRun : Bool} {told : List ℤ}
    {bridges : List ServiceBridge} {bridgeAllocated bridgeStopping : SessionId → Bool}
    {handle : SessionId → ℤ} {flight flight' : SessionId → Prop}
    (h : CancelOK allocated stopping told cancelRun bridges
      (Told bridgeAllocated handle bridgeStopping flight))
    (himp : ∀ x, bridgeAllocated x = true → flight x → flight' x) :
    CancelOK allocated stopping told cancelRun bridges
      (Told bridgeAllocated handle bridgeStopping flight') where
  each hserves k hk x hx hname := (h.each hserves k hk x hx hname).imp_right (himp x hx)
  run hserves hrun b hb x hx hname := (h.run hserves hrun b hb x hx hname).imp_right (himp x hx)
  since := h.since

theorem owns_session_idle (hfree : s.call = none) (sk : SockId) : s.owns (.session x) sk ↔
    s.bridge.allocated x = true ∧ s.bridge.publicSock x = some sk := by
  simp only [owns, startsOn, hfree, reduceCtorEq, exists_false, not_false_eq_true, and_true]

/-- A session that was there before the call owns its socket during the call. -/
theorem Inv.owns_session_call (hi : Inv s) (hcall : s.call = some ⟨who, op, live⟩)
    (hlive : ∀ sk, op = .start sk → s.bridge.allocated x = true → live x = true) (sk : SockId) :
    s.owns (.session x) sk ↔
      s.bridge.allocated x = true ∧ s.bridge.publicSock x = some sk := by
  refine ⟨fun h => ⟨h.1, h.2.1⟩, fun h => ⟨h.1, h.2, ?_⟩⟩
  rintro ⟨who', old, hstart⟩
  obtain ⟨-, hhoused⟩ := hi.call.start who' sk old hstart
  rw [hcall] at hstart
  cases hstart
  exact (hhoused x (hlive sk rfl h.1)).2 h.2

/-- The session that a call has started takes the socket over from its owner. -/
theorem Inv.owners_handedOver {handle : ℤ} {sk : SockId} {o : Owner} (hi : Inv s)
    (hcall : s.call = some ⟨who, .start sk, live⟩)
    (hanswer : Bridge.Answered live (.start sk) (.started x handle) s.bridge)
    (hown : s.owns o sk) (hbridge : s'.bridge = s.bridge) (hnext : s'.nextSock = s.nextSock)
    (hfree : s'.call = none) (ho : ∀ y, o ≠ .session y)
    (hloses : ∀ k, s'.owns o k ↔ k ≠ sk ∧ s.owns o k)
    (hothers : ∀ p k, p ≠ o → (∀ y, p ≠ .session y) → (s'.owns p k ↔ s.owns p k)) :
    Ownership.Linear s'.owns s'.unreleased := by
  obtain ⟨hnew, halloc, hsock⟩ := hanswer
  have hx : s.bridge.allocated x = true := by rw [halloc, Function.update_self]
  refine hi.owners.transfer hown (q := .session x) (ho x) hloses (fun k => ?_)
    (fun p hp hne k => ?_) fun k => ?_
  · have hstarts : startsOn s.call sk := ⟨who, live, hcall⟩
    rw [owns_session_idle hfree, hbridge, hx, hsock]
    simp only [owns, hx, hsock, Option.some.injEq, true_and]
    exact ⟨fun hk => .inl hk.symm, fun hk => hk.elim Eq.symm And.left⟩
  · cases p with
    | session y =>
      have hyx : y ≠ x := fun he => hne (by rw [he])
      rw [owns_session_idle hfree, hbridge]
      refine (hi.owns_session_call hcall (fun _ _ hy => ?_) k).symm
      rwa [halloc, Function.update_of_ne hyx] at hy
    | _ => exact hothers _ k hp (by simp)
  · simp only [unreleased, hbridge, hnext]

theorem Inv.acquire (hi : Inv s) (hfree : s.call = none) (howned : startOwned s who op)
    (hrun : who = .worker → s.thread = .running) :
    Inv { s with call := some ⟨who, op, s.bridge.allocated⟩ } := by
  have hhoused : ∀ sk, op = .start sk → ∀ x, s.bridge.allocated x = true →
      s.bridge.publicSock x ≠ some sk := by
    rintro sk rfl x hx hpub
    obtain ⟨o, ho, hne⟩ := howned.owner
    exact hne x (hi.owners.unique ho ((owns_session_idle hfree sk).mpr ⟨hx, hpub⟩))
  have hflight : ∀ x, s.bridge.allocated x = true → s.inFlight x →
      InFlight (some ⟨who, op, s.bridge.allocated⟩) s.bridgeHandle s.bridge.handle x := by
    rintro x - (⟨sk, live, hcall, -⟩ | hx)
    · rw [hfree] at hcall
      cases hcall
    · exact .inr hx
  exact
    { hi with
      bridge := { hi.bridge with calm := by simp }
      call :=
        { start := by
            rintro who' sk live heq
            cases heq
            obtain ⟨o, ho, -⟩ := howned.owner
            exact ⟨(hi.owners.isLive ho).1, fun x hx => ⟨hx, hhoused sk rfl x hx⟩⟩
          control := by
            rintro sk live heq
            cases heq
            exact (howned sk rfl).2
          worker := by
            rintro op' live heq
            cases heq
            exact hrun rfl
          accept := by
            rintro sk live heq
            cases heq
            exact howned sk rfl }
      owners := by
        refine hi.owners.congr (fun o k => ?_) fun k => Iff.rfl
        cases o with
        | session x =>
          rw [owns_session_idle hfree]
          refine ⟨fun h => ⟨h.1, h.2.1⟩, fun h => ⟨h.1, h.2, ?_⟩⟩
          rintro ⟨who', live, hstart⟩
          cases hstart
          exact hhoused k rfl x h.1 h.2
        | slot | listener | accept => exact Iff.rfl
      cover := hi.cover.imp hflight
      cancel := hi.cancel.imp hflight }

theorem Inv.giveBack (hi : Inv s) (hcall : s.call = some ⟨who, op, live⟩)
    (hcalm : Bridge.Calm s.bridge)
    (hlive : ∀ sk, op = .start sk → s.bridge.allocated = live) : Inv { s with call := none } := by
  have hflight : ∀ x, s.bridge.allocated x = true → s.inFlight x →
      InFlight none s.bridgeHandle s.bridge.handle x := by
    rintro x hx (⟨sk, old, hstart, hnew⟩ | hx')
    · rw [hcall] at hstart
      cases hstart
      rw [hlive sk rfl, hnew] at hx
      cases hx
    · exact .inr hx'
  exact
    { hi with
      bridge := { hi.bridge with calm := fun _ => hcalm }
      call := by constructor <;> simp
      owners := by
        refine hi.owners.congr (fun o k => ?_) fun k => Iff.rfl
        cases o with
        | session x =>
          rw [owns_session_idle rfl]
          exact (hi.owns_session_call hcall (fun sk hop hx => hlive sk hop ▸ hx) k).symm
        | slot | listener | accept => exact Iff.rfl
      cover := hi.cover.imp hflight
      cancel := hi.cancel.imp hflight }

/-! ## Calls of the two threads -/

/-- A call of the bridge under a contract `C`, in a frame `F` of facts that the other threads and
the bridge leave alone; `V` is what is known of the bridge when the call gets the lock. -/
theorem call_safe {α : Type} {Q : α → State → Prop} {C : Contract State} {F : State → Prop}
    {V : Bridge.State → Prop} {k : Bridge.Outcome → State → Reply → α × State} (hF : F s)
    (hrely : ∀ t t', F t → C.rely t t' → F t')
    (hquiet : ∀ t t' live, t.call = some ⟨who, op, live⟩ → C.rely t t' →
      t'.call = t.call ∧ Bridge.ControlRely t.bridge t'.bridge)
    (htake : ∀ t u, Inv t → F t → C.rely s t → t.call = none →
      u = { t with call := some ⟨who, op, t.bridge.allocated⟩ } →
      Inv u ∧ C.guar t u ∧ F u ∧ V t.bridge)
    (hstep : ∀ t b live, Inv t → F t → t.call = some ⟨who, op, live⟩ → Bridge.Inv b →
      Bridge.ControlGuar live op t.bridge b →
      Inv (t.putBridge b) ∧ C.guar t (t.putBridge b) ∧ F (t.putBridge b))
    (hk : ∀ b a t r, Inv t → F t → V b → t.call = some ⟨who, op, b.allocated⟩ →
      Bridge.OutcomeOK a t.bridge → Bridge.Answered b.allocated op a t.bridge →
      Bridge.Refused b.completionNotify op a t.bridge →
      Inv (k a { t with call := none } r).2 ∧ C.guar t (k a { t with call := none } r).2 ∧
        Q (k a { t with call := none } r).1 (k a { t with call := none } r).2) :
    Safe Inv C Q (callBridge who op k) s := by
  have hacquire : Safe Inv C
      (fun _ t => F t ∧ V t.bridge ∧ t.call = some ⟨who, op, t.bridge.allocated⟩ ∧
        Bridge.Calm t.bridge)
      (Prog.await (fun s (_ : Reply) => s.call.isNone) fun s _ =>
        ((), { s with call := some ⟨who, op, s.bridge.allocated⟩ })) s := by
    refine Safe.await fun t hr hi _ hready => ?_
    have hfree : t.call = none := by simpa using hready
    obtain ⟨hinv, hguar, hFu, hV⟩ := htake t _ hi (hrely s t hF hr) hr hfree rfl
    exact ⟨hinv, hguar, hFu, hV, rfl, hi.bridge.calm hfree⟩
  refine Safe.seq hacquire fun _ u hu => ?_
  obtain ⟨hFu, hV, hcall, hcalm⟩ := hu
  have hlift := Safe.lift (I := Inv) (C := C)
    (F := fun t => F t ∧ t.call = some ⟨who, op, u.bridge.allocated⟩)
    (fun _ _ => rfl) (fun t ht => ht.bridge.inv)
    (fun t t' hFt hr _ => by
      obtain ⟨hcall', hbridge⟩ := hquiet t t' _ hFt.2 hr
      exact ⟨⟨hrely t t' hFt.1 hr, hcall'.trans hFt.2⟩, hbridge⟩)
    (fun t b hi hFt hb hguar => by
      obtain ⟨hinv, hg, hFb⟩ := hstep t b _ hi hFt.1 hFt.2 hb hguar
      exact ⟨hinv, hg, hFb, hFt.2⟩)
    ⟨hFu, hcall⟩ (Bridge.program_refused op hcalm)
  refine Safe.seq hlift fun a t ht => ?_
  obtain ⟨hFt, hok, hanswer, hrefused⟩ := ht
  refine Safe.block fun t' hr hi r => ?_
  obtain ⟨hcall', hbridge⟩ := hquiet t t' _ hFt.2 hr
  exact hk u.bridge a t' r hi (hrely t t' hFt.1 hr) hV (hcall'.trans hFt.2)
    (Bridge.OutcomeOK.stable a _ _ hok hbridge) (Bridge.Answered.stable a hanswer hbridge)
    (hrefused.stable hbridge)

theorem workerCall_safe {α : Type} {Q : α → State → Prop} {w : WorkerSide} {n : ℕ}
    {k : Bridge.Outcome → State → Reply → α × State} (hw : s.toWorkerSide = w)
    (hbatch : s.acceptBatch = n) (hrun : w.thread = .running)
    (hset : ∀ n, op ≠ .setCompletionNotifier n)
    (hclear : ∀ n, op ≠ .clearCompletionNotifier n)
    (hstart : ∀ sk, op = .start sk → w.publicSock = some sk ∧ w.removing = none)
    (hk : ∀ live a t r, Inv t → t.toWorkerSide = w → t.acceptBatch = n →
      t.call = some ⟨.worker, op, live⟩ →
      Bridge.OutcomeOK a t.bridge → Bridge.Answered live op a t.bridge →
      Inv (k a { t with call := none } r).2 ∧
        workerContract.guar t (k a { t with call := none } r).2 ∧
        Q (k a { t with call := none } r).1 (k a { t with call := none } r).2) :
    Safe Inv workerContract Q (callBridge .worker op k) s := by
  have hmine : ∀ t : State, t.toWorkerSide = w →
      (∀ op live, t.call ≠ some ⟨.control, op, live⟩) → ¬ t.controlled := by
    rintro t ht hcall (⟨op, live, hop⟩ | ⟨hidle, -⟩)
    · exact hcall op live hop
    · exact hidle (ht ▸ hrun)
  refine call_safe (F := fun t => t.toWorkerSide = w ∧ t.acceptBatch = n) (V := fun _ => True)
    ⟨hw, hbatch⟩ ?_ (fun t t' live hcall hr => hr.call ⟨_, _, hcall⟩) ?_ ?_ ?_
  · intro t t' ht hr
    have hthread : t.thread = .running := ht.1 ▸ hrun
    exact ⟨(hr.work hthread).trans ht.1, (hr.batch hthread).trans ht.2⟩
  · rintro t _ hi ⟨ht, hn⟩ - hfree rfl
    have hthread : t.thread = .running := ht ▸ hrun
    refine ⟨hi.acquire hfree (fun sk hsk => ?_) fun _ => hthread, ⟨?_, .of_eq rfl⟩,
      ⟨ht, hn⟩, trivial⟩
    · obtain ⟨hsock, hremoving⟩ := hstart sk hsk
      exact ⟨ht ▸ hsock, ht ▸ hremoving⟩
    · exact
        { RequestRely.refl t with
          idle := fun hidle => absurd hthread hidle
          quiet := fun hc => absurd hc (hmine t ht (by simp [hfree]))
          uncalled := fun _ => by simp [calls]
          ends := .of_eq rfl rfl rfl rfl }
  · intro t b live hi hF hcall hb hguar
    have hnotifier : b.completionNotify = t.bridge.completionNotify := by
      rcases hguar.notifier with hsame | ⟨n, hn, -⟩ | ⟨n, hn, -⟩
      · exact hsame
      · exact absurd hn (hset n)
      · exact absurd hn (hclear n)
    refine ⟨hi.opStep hcall hb hguar fun n hn => absurd hn (hset n), ⟨?_, .of_eq rfl⟩, hF⟩
    exact
      { RequestRely.refl t with
        idle := fun hidle => absurd (hF.1 ▸ hrun) hidle
        quiet := fun hc => absurd hc (hmine t hF.1 (by simp [hcall]))
        notifier := hnotifier
        ends := hi.ends_opStep hcall hguar }
  · intro b a t r hi hF _ hcall hok hanswer _
    exact hk b.allocated a t r hi hF.1 hF.2 hcall hok hanswer

theorem controlCall_safe {α : Type} {Q : α → State → Prop} {c : ControlSide} {F : State → Prop}
    {V : Bridge.State → Prop} {k : Bridge.Outcome → State → Reply → α × State}
    (hc : s.toControlSide = c) (hF : F s)
    (hrely : ∀ t t', F t → t.toControlSide = c → RequestRely t t' → F t')
    (hcalled : ∀ t call, F t → F { t with call := call })
    (hput : ∀ t b live, Inv t → F t → t.toControlSide = c → t.call = some ⟨.control, op, live⟩ →
      Bridge.ControlGuar live op t.bridge b → F (t.putBridge b))
    (hV : ∀ t, Inv t → RequestRely s t → V t.bridge)
    (hset : ∀ n, op = .setCompletionNotifier n → n = serviceNotifier ∧ c.allocated = true)
    (hstart : ∀ sk, op = .start sk → (∃ i, c.table i = some sk) ∧ c.allocated = false)
    (hk : ∀ b a t r, Inv t → t.toControlSide = c → F t → V b →
      t.call = some ⟨.control, op, b.allocated⟩ →
      Bridge.OutcomeOK a t.bridge → Bridge.Answered b.allocated op a t.bridge →
      Bridge.Refused b.completionNotify op a t.bridge →
      Inv (k a { t with call := none } r).2 ∧
        requestContract.guar t (k a { t with call := none } r).2 ∧
        Q (k a { t with call := none } r).1 (k a { t with call := none } r).2) :
    Safe Inv requestContract Q (callBridge .control op k) s := by
  refine call_safe (F := fun t => t.toControlSide = c ∧ F t) (V := V) ⟨hc, hF⟩
    (fun t t' hFt hr => ⟨hr.side.trans hFt.1, hrely t t' hFt.2 hFt.1 hr⟩)
    (fun t t' live hcall hr => hr.quiet (.inl ⟨_, _, hcall⟩)) ?_ ?_ ?_
  · rintro t _ hi ⟨ht, hFt⟩ hr hfree rfl
    refine ⟨hi.acquire hfree (fun sk hsk => ?_) (by simp), ⟨?_, .of_eq rfl⟩,
      ⟨ht, hcalled t _ hFt⟩, hV t hi hr⟩
    · obtain ⟨⟨i, hi⟩, hdown⟩ := hstart sk hsk
      exact ⟨⟨i, ht ▸ hi⟩, ht ▸ hdown⟩
    · exact
        { WorkerRely.refl t with
          dial := fun _ _ _ _ h => ⟨h.known, h.route⟩
          call := fun hcall => absurd hcall (by simp [calls, hfree])
          uncalled := fun _ => by simp [calls] }
  · intro t b live hi hFt hcall hb hguar
    refine ⟨hi.opStep hcall hb hguar fun n hn => ?_, ⟨?_, .of_eq rfl⟩, hFt.1,
      hput t b _ hi hFt.2 hFt.1 hcall hguar⟩
    · obtain ⟨hours, hserves⟩ := hset n hn
      exact ⟨hours, hFt.1 ▸ hserves⟩
    · exact
        { WorkerRely.refl t with
          dial := fun _ _ _ _ h => ⟨h.known, h.route⟩
          call := fun hcall' => absurd hcall' (by simp [calls, hcall]) }
  · intro b a t r hi hFt hVb hcall hok hanswer hrefused
    exact hk b a t r hi hFt.1 hFt.2 hVb hcall hok hanswer hrefused

end Tcpcc.Runtime

import Tcpcc.Runtime.AcceptSafe

/-!
# Requests on sockets and bridges

`Attending` is what the control thread knows between two blocks. Each request keeps the
invariant; what it leaves is compared with the state in which it was called, of which the
worker changes neither the table nor the places of sockets.
-/

namespace Tcpcc.Runtime
open Resumption State
open Bridge (SockId SessionId Outcome)
open Function (update update_of_ne update_self)

variable {s s' t u : State} {sk : SockId} {v : Sock} {p : Place} {starting : Option ListenerId}
  {locked : Bool} {releasing : List ListenerId} {routes : List Route} {q : Request} {i : ℕ}

structure Attending (starting : Option ListenerId) (locked : Bool) (releasing : List ListenerId)
    (routes : List Route) (s : State) : Prop where
  starting : s.starting = starting
  locked : s.locked = locked
  releasing : s.releasing = releasing
  routes : s.routes = routes
  uncalled : ¬ s.calls .control

structure AtRest (routes : List Route) (s : State) : Prop extends
    Attending none false [] routes s where
  notified : s.allocated = true → s.bridge.completionNotify = some serviceNotifier

theorem Attending.of_side (h : Attending starting locked releasing routes s)
    (hside : s'.toControlSide = s.toControlSide) (hcall : ¬ s'.calls .control) :
    Attending starting locked releasing routes s' where
  starting := hside ▸ h.starting
  locked := hside ▸ h.locked
  releasing := hside ▸ h.releasing
  routes := hside ▸ h.routes
  uncalled := hcall

theorem Attending.stable (h : Attending starting locked releasing routes s)
    (hr : RequestRely s s') : Attending starting locked releasing routes s' :=
  h.of_side hr.side (hr.uncalled h.uncalled)

theorem AtRest.of_side (h : AtRest routes s) (hside : s'.toControlSide = s.toControlSide)
    (hcall : ¬ s'.calls .control)
    (hnotify : s'.bridge.completionNotify = s.bridge.completionNotify) : AtRest routes s' where
  toAttending := h.toAttending.of_side hside hcall
  notified hserves := by
    rw [hnotify]
    exact h.notified ((congrArg ControlSide.allocated hside).symm.trans hserves)

theorem AtRest.stable (h : AtRest routes s) (hr : RequestRely s s') : AtRest routes s' :=
  h.of_side hr.side (hr.uncalled h.uncalled) hr.notifier

structure PlacesKept (s t : State) : Prop where
  grows : s.nextSock ≤ t.nextSock
  placed : ∀ k, k < s.nextSock → t.place k = s.place k

theorem PlacesKept.trans (h : PlacesKept s t) (h' : PlacesKept t u) : PlacesKept s u where
  grows := Nat.le_trans h.grows h'.grows
  placed k hk := (h'.placed k (Nat.lt_of_lt_of_le hk h.grows)).trans (h.placed k hk)

theorem RequestRely.places (h : RequestRely s t) : PlacesKept s t := ⟨h.ends.grows, h.ends.placed⟩

theorem controlGuar (hside : s'.toWorkerSide = s.toWorkerSide) (hcall : s'.call = s.call)
    (hbridge : Bridge.ControlRely s.bridge s'.bridge) (hbatch : s'.acceptBatch = s.acceptBatch)
    (hdial : ∀ e k, s.publicSock = some k → Dialable e k s → Dialable e k s') (hlaw : Law s s') :
    requestContract.guar s s' :=
  ⟨WorkerRely.of_control hside hcall hbridge hbatch hdial, hlaw⟩

theorem controlGuar_refl (s : State) : requestContract.guar s s := ⟨WorkerRely.refl s, Law.refl s⟩

/-- What the worker and the connections in its hands depend on. -/
def State.dialing (s : State) :=
  (s.toWorkerSide, s.acceptBatch, s.nextListener, s.routes, s.place, s.listenerConfig)

theorem Dialable.frame {e : ListenerId} (hframe : s'.dialing = s.dialing) (h : Dialable e sk s) :
    Dialable e sk s' := by
  simp only [State.dialing, Prod.mk.injEq] at hframe
  obtain ⟨-, -, hnext, hroutes, hplace, hconfig⟩ := hframe
  refine ⟨hnext ▸ h.known, ?_⟩
  rw [routeOf, hplace, hconfig, hroutes]
  exact h.route

theorem controlGuar_frame (hframe : s'.dialing = s.dialing) (hcall : s'.call = s.call)
    (hbridge : Bridge.ControlRely s.bridge s'.bridge) (hlaw : Law s s') :
    requestContract.guar s s' :=
  controlGuar (congrArg Prod.fst hframe) hcall hbridge
    (congrArg (fun frame => frame.2.1) hframe) (fun _ _ _ => .frame hframe) hlaw

theorem controlGuar_return {op : Bridge.Op} {live : SessionId → Bool}
    (hcall : s.call = some ⟨.control, op, live⟩) (hside : s'.toWorkerSide = s.toWorkerSide)
    (hnone : s'.call = none) (hbatch : s'.acceptBatch = s.acceptBatch)
    (hdial : ∀ e k, s.publicSock = some k → Dialable e k s → Dialable e k s') (hlaw : Law s s') :
    requestContract.guar s s' := by
  refine ⟨?_, hlaw⟩
  exact
    { work := fun _ => hside
      batch := fun _ => hbatch
      dial := fun _ => hdial
      rest := fun _ h => by
        rw [hside]
        exact h
      call := fun hc => absurd hc (by simp [calls, hcall])
      uncalled := fun _ => by simp [calls, hnone] }

theorem controlGuar_giveBack {op : Bridge.Op} {live : SessionId → Bool}
    (hcall : s.call = some ⟨.control, op, live⟩) (hnone : s'.call = none)
    (hframe : s'.dialing = s.dialing) (hlaw : s'.watched = s.watched) :
    requestContract.guar s s' :=
  controlGuar_return hcall (congrArg Prod.fst hframe) hnone
    (congrArg (fun frame => frame.2.1) hframe) (fun _ _ _ => .frame hframe) (.of_eq hlaw)

/-! ## New sockets -/

theorem freeSlot_some (h : freeSlot s = some i) : s.table i = none ∧ i < maxSockets := by
  have hnone := List.find?_some h
  have hmem := List.mem_of_find?_eq_some h
  exact ⟨by simpa using hnone, List.mem_range.mp hmem⟩

theorem slots_clear {table : ℕ → Option SockId} (h : ∀ j, maxSockets ≤ j → table j = none) (i j : ℕ)
    (hj : maxSockets ≤ j) : update table i none j = none := by
  by_cases he : j = i
  · rw [he, update_self]
  · rw [update_of_ne he]
    exact h j hj

theorem Inv.dialable_new (hi : Inv s) {e : ListenerId} {k : SockId} (hk : s.publicSock = some k)
    (hd : Dialable e k s) (hplace : ∀ j, j ≠ s.nextSock → s'.place j = s.place j)
    (hside : s'.listenerConfig = s.listenerConfig) (hnext : s'.nextListener = s.nextListener)
    (hroutes : s'.routes = s.routes) : Dialable e k s' := by
  have hown : s.owns .accept k := hk
  have hne : k ≠ s.nextSock := Nat.ne_of_lt (hi.owners.isLive hown).1
  refine ⟨hnext ▸ hd.known, ?_⟩
  rw [hroutes, routeOf, hplace k hne, hside]
  exact hd.route

section NewSocket
variable {queue : SockId → List Child}

theorem RefsOK.newSock (hi : Inv s) (htaint : s.tainted = false)
    (hq : ∀ k, ∀ child ∈ queue k, child ∈ s.acceptQueue k)
    (hclone : ∀ l, v.userData ≠ .listener l) :
    RefsOK (newSock v p { s with acceptQueue := queue }).2.bridge.sock queue s.callbackInstalled
      s.listenerSock s.releasing where
  socks k l hl := by
    rw [newSock_sock] at hl
    by_cases hk : k = s.nextSock
    · rw [if_pos hk] at hl
      exact absurd hl (hclone l)
    · rw [if_neg hk] at hl
      exact (hi.refs htaint).socks k l hl
  children k child hchild := (hi.refs htaint).children k child (hq k child hchild)

theorem RoutesOK.newSock (hi : Inv s) :
    RoutesOK s.thread s.listeners s.callbackInstalled
      (newSock v p { s with acceptQueue := queue }).2.route s.routes s.dials where
  listed hrun l hl hin := by
    have hne : s.listenerSock l ≠ s.nextSock :=
      Nat.ne_of_lt (hi.listeners.known l (List.mem_append_left _ hl)).2
    have hroute : (State.newSock v p { s with acceptQueue := queue }).2.route l = s.route l :=
      congrArg (fun p : Place => p.route (s.listenerConfig l)) (update_of_ne hne _ _)
    rw [hroute]
    exact hi.routing.listed hrun l hl hin
  dialed := hi.routing.dialed

theorem Inv.installNew (queue : SockId → List Child) (hi : Inv s)
    (hq : ∀ k, ∀ child ∈ queue k, child ∈ s.acceptQueue k)
    (hdata : v.userData.isSession = false) (hrel : v.releases = 0)
    (hclone : s.tainted = false → ∀ l, v.userData ≠ .listener l) :
    Inv (installSocket s.nextSock (newSock v p { s with acceptQueue := queue }).2).2 := by
  have hcore : Core (newSock v p { s with acceptQueue := queue }).2 :=
    (hi.toCore.shrink hq).newSock hdata hrel
  have hnew : ¬ s.unreleased s.nextSock := fun hlive => Nat.lt_irrefl _ hlive.1
  have hsock : ∀ j, ((newSock v p { s with acceptQueue := queue }).2.bridge.sock j).releases =
      if j = s.nextSock then 0 else (s.bridge.sock j).releases := by
    intro j
    rw [newSock_sock]
    show (if j = s.nextSock then v else s.bridge.sock j).releases = _
    split
    · exact hrel
    · rfl
  have hlive : ∀ j, (newSock v p { s with acceptQueue := queue }).2.unreleased j ↔
      j = s.nextSock ∨ s.unreleased j := fun j =>
    unreleased_new rfl (fun k hk => by rw [hsock, if_neg hk]) (by rw [hsock, if_pos rfl])
  have hrefs : s.tainted = false → RefsOK
      (newSock v p { s with acceptQueue := queue }).2.bridge.sock queue s.callbackInstalled
      s.listenerSock s.releasing := fun htaint => .newSock hi htaint hq (hclone htaint)
  have hrouting : RoutesOK s.thread s.listeners s.callbackInstalled
      (newSock v p { s with acceptQueue := queue }).2.route s.routes s.dials := .newSock hi
  unfold installSocket
  rw [show freeSlot (newSock v p { s with acceptQueue := queue }).2 = freeSlot s from rfl]
  cases hfree : freeSlot s with
  | some i =>
    obtain ⟨hnone, hlt⟩ := freeSlot_some hfree
    have hslots : ∀ j, maxSockets ≤ j → update s.table i (some s.nextSock) j = none := by
      intro j hj
      rw [update_of_ne (by omega)]
      exact hi.slots j hj
    refine ⟨{ hcore with slots := hslots, stop := { hcore.stop with } },
      hi.owners.gain (p := .slot i) (k := s.nextSock) hnew (fun j => ?_) (fun o ho j => ?_) hlive,
      hrefs, hrouting⟩
    · show update s.table i (some s.nextSock) i = some j ↔ j = s.nextSock ∨ s.table i = some j
      rw [update_self, hnone]
      simp [eq_comm]
    · cases o with
      | slot j' =>
        have hne : j' ≠ i := fun he => ho (by rw [he])
        show update s.table i (some s.nextSock) j' = some j ↔ s.table j' = some j
        rw [update_of_ne hne]
      | accept | session | listener => exact Iff.rfl
  | none =>
    have hborn : (newSock v p { s with acceptQueue := queue }).2.unreleased s.nextSock :=
      (hlive _).mpr (.inl rfl)
    refine ⟨hcore.sockRelease hborn, hi.owners.congr (fun o j => ?_) (fun j => ?_),
      fun htaint => (hrefs htaint).of_socks fun k l hl => ?_, hrouting⟩
    · cases o <;> exact Iff.rfl
    · rw [unreleased_release, hlive]
      constructor
      · rintro ⟨hne, hj | hj⟩
        · exact absurd hj hne
        · exact hj
      · intro hj
        exact ⟨fun he => hnew (he ▸ hj), .inr hj⟩
    · exact (sockRelease_ends _ s.nextSock k).1.symm.trans hl

theorem installSocket_eq (sk : SockId) (s : State) :
    ∃ table b, (installSocket sk s).2 = { s with table := table, bridge := b } ∧
      Bridge.ControlRely s.bridge b := by
  unfold installSocket
  cases freeSlot s with
  | some i => exact ⟨_, s.bridge, rfl, Bridge.ControlRely.refl _⟩
  | none => exact ⟨s.table, _, rfl, Bridge.ControlRely.setSock (.inl rfl)⟩

theorem Inv.installNew_guar (queue : SockId → List Child) (hi : Inv s)
    (hdata : v.userData.isSession = false) :
    requestContract.guar s
      (installSocket s.nextSock (newSock v p { s with acceptQueue := queue }).2).2 := by
  obtain ⟨table, b, heq, hb⟩ :=
    installSocket_eq s.nextSock (newSock v p { s with acceptQueue := queue }).2
  have hborn : Bridge.ControlRely s.bridge
      (newSock v p { s with acceptQueue := queue }).2.bridge :=
    Bridge.ControlRely.setSock (.inr hdata)
  rw [heq]
  exact controlGuar rfl rfl (hborn.trans hb) rfl
    (fun e k hk hd => hi.dialable_new hk hd (fun j hj => update_of_ne hj _ _) rfl rfl rfl)
    (.of_eq rfl)

theorem installNew_rest (h : AtRest routes s) :
    AtRest routes (installSocket s.nextSock (newSock v p { s with acceptQueue := queue }).2).2 := by
  obtain ⟨table, b, heq, hb⟩ :=
    installSocket_eq s.nextSock (newSock v p { s with acceptQueue := queue }).2
  rw [heq]
  refine ⟨⟨h.starting, h.locked, h.releasing, h.routes, h.uncalled⟩, fun hserves => ?_⟩
  exact (congrArg Bridge.Registry.completionNotify hb.registry).trans (h.notified hserves)

end NewSocket

structure Installed (place : Place) (handle : ℤ) (s t : State) : Prop where
  slot : ∃ (i : ℕ) (sk : SockId), handle = i + 1 ∧ s.nextSock ≤ sk ∧
    sk < t.nextSock ∧ t.place sk = place ∧
    t.toControlSide = { s.toControlSide with table := update s.table i (some sk) }
  places : PlacesKept s t

theorem Installed.stable {handle : ℤ} (h : Installed p handle s t) (hr : RequestRely t u) :
    Installed p handle s u where
  slot := by
    obtain ⟨i, sk, hhandle, hold, hlt, hplace, hside⟩ := h.slot
    exact ⟨i, sk, hhandle, hold, Nat.lt_of_lt_of_le hlt hr.ends.grows,
      (hr.ends.placed sk hlt).trans hplace, hr.side.trans hside⟩
  places := h.places.trans hr.places

theorem ofStatus_ne (q : Request) {ret : ℤ} (h : ret ≠ 0) : (Answer.ofStatus q ret).status ≠ 0 := h

theorem ofHandle_status (q : Request) {handle : ℤ} (h : (Answer.ofHandle q handle).status = 0) :
    0 ≤ handle ∧ (Answer.ofHandle q handle).handle = handle := by
  unfold Answer.ofHandle at h ⊢
  split at h
  case isTrue hneg =>
    have hzero : handle = 0 := h
    omega
  case isFalse hpos =>
    rw [if_neg hpos]
    exact ⟨not_lt.mp hpos, rfl⟩

theorem installSocket_installed (hr : RequestRely s t)
    (h : (Answer.ofHandle q (installSocket t.nextSock (newSock v p t).2).1).status = 0) :
    Installed p (Answer.ofHandle q (installSocket t.nextSock (newSock v p t).2).1).handle s
      (installSocket t.nextSock (newSock v p t).2).2 := by
  obtain ⟨hpos, hhandle⟩ := ofHandle_status q h
  rw [hhandle]
  have hfree : freeSlot (newSock v p t).2 = freeSlot t := rfl
  unfold installSocket at hpos ⊢
  rw [hfree] at hpos ⊢
  cases hslot : freeSlot t with
  | none =>
    rw [hslot] at hpos
    have hneg : (0 : ℤ) ≤ -EMFILE := hpos
    exact absurd hneg (by decide)
  | some i =>
    refine ⟨⟨i, t.nextSock, rfl, hr.ends.grows, Nat.lt_succ_self _, update_self .., ?_⟩, ?_⟩
    · rw [← hr.side]
      rfl
    · refine ⟨Nat.le_succ_of_le hr.ends.grows, fun k hk => ?_⟩
      have hne : k ≠ t.nextSock := Nat.ne_of_lt (Nat.lt_of_lt_of_le hk hr.ends.grows)
      exact (update_of_ne hne _ _).trans (hr.ends.placed k hk)

theorem socketFamily_safe (family : IpVersion) (h : AtRest routes s) :
    Safe Inv requestContract (fun a t => AtRest routes t ∧
      (a.status = 0 → Installed { family := family } a.handle s t)) (socketFamily q family) s := by
  refine Safe.await fun t hr hi r hready => ?_
  have ht := h.stable hr
  by_cases hret : r.ret = 0
  · simp only [hret, ne_eq, not_true_eq_false, if_false]
    have hinv : Inv (installSocket t.nextSock (newSock {} { family := family } t).2).2 :=
      hi.installNew t.acceptQueue (fun _ _ hchild => hchild) rfl rfl (by simp)
    exact ⟨hinv, hi.installNew_guar t.acceptQueue rfl, installNew_rest ht, fun hzero =>
      installSocket_installed hr hzero⟩
  · simp only [hret, ne_eq, not_false_eq_true, if_true]
    exact ⟨hi, controlGuar_refl t, ht, fun hzero => absurd hzero hret⟩

def Request.family (q : Request) : IpVersion := if q.arg0 = 4 then .v4 else .v6

theorem controlSocketIp_safe (h : AtRest routes s) :
    Safe Inv requestContract (fun a t => AtRest routes t ∧ (a.status = 0 →
      Installed { family := q.family } a.handle s t)) (controlSocketIp q) s := by
  unfold controlSocketIp
  split
  case isTrue => exact ⟨h, fun hzero => absurd hzero (ofStatus_ne q (by decide))⟩
  case isFalse =>
    split
    case isTrue hfour =>
      have hfamily : q.family = .v4 := if_pos hfour
      rw [hfamily]
      exact socketFamily_safe .v4 h
    case isFalse hfour =>
      have hfamily : q.family = .v6 := if_neg hfour
      rw [hfamily]
      split
      case isTrue => exact socketFamily_safe .v6 h
      case isFalse => exact ⟨h, fun hzero => absurd hzero (ofStatus_ne q (by decide))⟩

/-! ## Sockets of the table -/

theorem lookup_table {handle : ℤ} (h : lookup handle s = some sk) :
    s.table (handle.toNat - 1) = some sk := by
  unfold lookup at h
  split at h
  case isTrue => cases h
  case isFalse => exact h

theorem Inv.tabled_listener (hi : Inv s) (hstart : s.starting = none) (hsk : s.table i = some sk)
    {e : ListenerId} (he : e ∈ s.listeners ++ s.releasing) : s.listenerSock e ≠ sk := by
  rintro rfl
  have hslot : s.owns (.slot i) (s.listenerSock e) := hsk
  have hown : s.owns (.listener e) (s.listenerSock e) :=
    ⟨List.mem_append.mp he, by simp [hstart], rfl⟩
  cases hi.owners.unique hslot hown

theorem Inv.bind (hi : Inv s) (hstart : s.starting = none) (hsk : s.table i = some sk)
    (hq : s.acceptQueue sk = []) (p : Place) :
    Inv { s with place := update s.place sk p } :=
  { hi with
    queues :=
      { hi.queues with
        placed := fun k child hchild => by
          have hne : k ≠ sk := by
            rintro rfl
            rw [hq] at hchild
            cases hchild
          exact (hi.queues.placed k child hchild).trans (update_of_ne hne _ _).symm }
    routing :=
      { hi.routing with
        listed := fun hrun e he hin => by
          have hne := hi.tabled_listener hstart hsk (List.mem_append_left _ he)
          have hroute : State.route { s with place := update s.place sk p } e = s.route e :=
            congrArg (fun p : Place => p.route (s.listenerConfig e)) (update_of_ne hne _ _)
          rw [hroute]
          exact hi.routing.listed hrun e he hin } }

structure Bound (sk : SockId) (endpoint : Endpoint) (s t : State) : Prop where
  side : t.toControlSide = s.toControlSide
  place : t.place sk = { s.place sk with bound := some endpoint }
  other : ∀ k, k < s.nextSock → k ≠ sk → t.place k = s.place k
  grows : s.nextSock ≤ t.nextSock
  known : sk < s.nextSock

theorem Bound.stable {endpoint : Endpoint} (h : Bound sk endpoint s t) (hr : RequestRely t u) :
    Bound sk endpoint s u where
  side := hr.side.trans h.side
  place := (hr.ends.placed sk (Nat.lt_of_lt_of_le h.known h.grows)).trans h.place
  other k hk hne := (hr.ends.placed k (Nat.lt_of_lt_of_le hk h.grows)).trans (h.other k hk hne)
  grows := Nat.le_trans h.grows hr.ends.grows
  known := h.known

theorem bindSock_safe {version : IpVersion} {endpoint : Reply → Endpoint} (hlt : sk < s.nextSock)
    (hsk : s.table i = some sk) (h : AtRest routes s) :
    Safe Inv requestContract (fun a t => AtRest routes t ∧
      (a.status = 0 → ∃ r, Bound sk (endpoint r) s t)) (bindSock q sk version endpoint) s := by
  refine Safe.await fun t hr hi r hready => ?_
  have ht := h.stable hr
  have hskt : t.table i = some sk := hr.side ▸ hsk
  obtain ⟨-, hok⟩ := of_decide_eq_true hready
  by_cases hret : r.ret = 0
  · obtain ⟨-, -, hq⟩ := hok hret
    simp only [hret, if_true]
    have hplace : ∀ k, k ≠ sk → update t.place sk
        { t.place sk with bound := some (endpoint r) } k = t.place k := fun k hk =>
      update_of_ne hk _ _
    refine ⟨hi.bind ht.starting hskt hq _, ?_, ?_, fun _ => ⟨r, ?_⟩⟩
    · refine controlGuar rfl rfl (Bridge.ControlRely.refl _) rfl (fun e k hk hd => ⟨hd.known, ?_⟩)
        (.of_eq rfl)
      have hslot : t.owns (.slot i) sk := hskt
      have haccept : t.owns .accept k := hk
      have hne : k ≠ sk := by
        rintro rfl
        cases hi.owners.unique hslot haccept
      have hroute := hd.route
      rw [routeOf, ← hplace k hne] at hroute
      exact hroute
    · exact ⟨⟨ht.starting, ht.locked, ht.releasing, ht.routes, ht.uncalled⟩, ht.notified⟩
    · exact
        { side := hr.side
          place := by
            show update t.place sk _ sk = _
            rw [update_self, hr.ends.placed sk hlt]
          other := fun k hk hne => (hplace k hne).trans (hr.ends.placed k hk)
          grows := hr.ends.grows
          known := hlt }
  · simp only [hret, if_false]
    exact ⟨hi, controlGuar_refl t, ht, fun hzero => absurd hzero hret⟩

theorem lookup_safe (h : AtRest routes s) :
    Safe Inv requestContract (fun a t => AtRest routes t ∧ RequestRely s t ∧ ∀ sk, a = some sk →
        t.table (q.handle.toNat - 1) = some sk ∧ sk < t.nextSock)
      (Prog.block fun s (_ : Reply) => (lookup q.handle s, s)) s := by
  refine Safe.block fun t hr hi _ => ⟨hi, controlGuar_refl t, h.stable hr, hr, fun sk hsk => ?_⟩
  have hslot : t.owns (.slot (q.handle.toNat - 1)) sk := lookup_table hsk
  exact ⟨hslot, (hi.owners.isLive hslot).1⟩

theorem controlBind_safe (h : AtRest routes s) :
    Safe Inv requestContract (fun _ t => AtRest routes t) (controlBind q) s := by
  refine Safe.seq (lookup_safe h) fun a t ht => ?_
  obtain ⟨hrest, -, hfound⟩ := ht
  cases a with
  | none => exact hrest
  | some sk =>
    obtain ⟨hsk, hlt⟩ := hfound sk rfl
    show Safe _ _ _ (if q.arg1 > 0xffff then _ else _) t
    split
    case isTrue => exact hrest
    case isFalse => exact (bindSock_safe hlt hsk hrest).mono fun _ _ h => h.1

def Request.bindTo (q : Request) : Endpoint where
  version := if q.endpoint.version = 4 then .v4 else .v6
  address := if q.endpoint.version = 4 then q.endpoint.bytes / 2 ^ 96 else q.endpoint.bytes
  port := q.endpoint.port

theorem bindIpCheck_ok {sk : SockId} {endpoint : Endpoint}
    (h : bindIpCheck q s = .ok (sk, endpoint)) :
    lookup q.handle s = some sk ∧ endpoint = q.bindTo := by
  unfold bindIpCheck at h
  cases hsk : lookup q.handle s with
  | none => simp [hsk] at h
  | some k =>
    simp only [hsk] at h
    split at h
    case isTrue => cases h
    split at h
    case isTrue => cases h
    split at h
    case isTrue hfour =>
      split at h
      case isTrue => cases h
      cases h
      exact ⟨rfl, by simp [Request.bindTo, hfour]⟩
    case isFalse hfour =>
      split at h
      case isFalse => cases h
      split at h
      case isTrue => cases h
      cases h
      exact ⟨rfl, by simp [Request.bindTo, hfour]⟩

theorem bindIpCheck_error {ret : ℤ} (h : bindIpCheck q s = .error ret) : ret ≠ 0 := by
  unfold bindIpCheck at h
  cases hsk : lookup q.handle s with
  | none =>
    simp only [hsk, Except.error.injEq] at h
    exact h ▸ by decide
  | some k =>
    simp only [hsk] at h
    split at h
    case isTrue => cases h; decide
    split at h
    case isTrue => cases h; decide
    split at h
    · split at h
      case isTrue => cases h; decide
      case isFalse => cases h
    · split at h
      case isFalse => cases h; decide
      split at h
      case isTrue => cases h; decide
      case isFalse => cases h

def BoundBy (q : Request) (s t : State) : Prop :=
  ∃ sk, s.table (q.handle.toNat - 1) = some sk ∧ Bound sk q.bindTo s t

theorem BoundBy.stable (h : BoundBy q s t) (hr : RequestRely t u) : BoundBy q s u := by
  obtain ⟨sk, hsk, hb⟩ := h
  exact ⟨sk, hsk, hb.stable hr⟩

theorem Bound.of_rely {endpoint : Endpoint} (hr : RequestRely s t) (hlt : sk < s.nextSock)
    (h : Bound sk endpoint t u) : Bound sk endpoint s u where
  side := h.side.trans hr.side
  place := by
    rw [h.place, hr.ends.placed sk hlt]
  other k hk hne :=
    (h.other k (Nat.lt_of_lt_of_le hk hr.ends.grows) hne).trans (hr.ends.placed k hk)
  grows := Nat.le_trans hr.ends.grows h.grows
  known := hlt

theorem controlBindIp_safe (hi : Inv s) (h : AtRest routes s) :
    Safe Inv requestContract (fun a t => AtRest routes t ∧ (a.status = 0 → BoundBy q s t))
      (controlBindIp q) s := by
  refine Safe.seq (P := fun a t => AtRest routes t ∧ RequestRely s t ∧ (∀ sk endpoint,
    a = .ok (sk, endpoint) → t.table (q.handle.toNat - 1) = some sk ∧ endpoint = q.bindTo ∧
      sk < t.nextSock) ∧ ∀ ret, a = .error ret → ret ≠ 0) (Safe.block fun t hr hi _ => ?_)
    fun a t ht => ?_
  · refine ⟨hi, controlGuar_refl t, h.stable hr, hr, fun sk endpoint hok => ?_,
      fun ret => bindIpCheck_error⟩
    obtain ⟨hsk, hendpoint⟩ := bindIpCheck_ok hok
    have hslot : t.owns (.slot (q.handle.toNat - 1)) sk := lookup_table hsk
    exact ⟨hslot, hendpoint, (hi.owners.isLive hslot).1⟩
  · obtain ⟨hrest, hr, hfound, herror⟩ := ht
    cases a with
    | error ret => exact ⟨hrest, fun hzero => absurd hzero (ofStatus_ne q (herror ret rfl))⟩
    | ok found =>
      obtain ⟨sk, endpoint⟩ := found
      obtain ⟨hsk, rfl, hlt⟩ := hfound sk _ rfl
      have hsks : s.table (q.handle.toNat - 1) = some sk :=
        (congrFun (congrArg ControlSide.table hr.side) _).symm.trans hsk
      have hslot : s.owns (.slot (q.handle.toNat - 1)) sk := hsks
      have hold : sk < s.nextSock := (hi.owners.isLive hslot).1
      refine (bindSock_safe hlt hsk hrest).mono fun a u hu => ⟨hu.1, fun hzero => ?_⟩
      obtain ⟨-, hb⟩ := hu.2 hzero
      exact ⟨sk, hsks, hb.of_rely hr hold⟩

structure Unmoved (s t : State) : Prop where
  side : t.toControlSide = s.toControlSide
  places : PlacesKept s t

theorem Unmoved.stable (h : Unmoved s t) (hr : RequestRely t u) : Unmoved s u :=
  ⟨hr.side.trans h.side, h.places.trans hr.places⟩

theorem RequestRely.unmoved (h : RequestRely s t) : Unmoved s t := ⟨h.side, h.places⟩

theorem controlListen_safe (h : AtRest routes s) :
    Safe Inv requestContract (fun _ t => AtRest routes t ∧ Unmoved s t) (controlListen q) s := by
  refine Safe.seq (lookup_safe h) fun a t ht => ?_
  obtain ⟨hrest, hr, hfound⟩ := ht
  cases a with
  | none => exact ⟨hrest, hr.unmoved⟩
  | some sk =>
    show Safe _ _ _ (if q.arg0 = 0 ∨ q.arg0 > somaxconn then _ else _) t
    split
    case isTrue => exact ⟨hrest, hr.unmoved⟩
    case isFalse =>
      refine Safe.await fun u hr' hi r _ => ?_
      have hu := hrest.stable hr'
      have hmoved := hr.unmoved.stable hr'
      by_cases hret : r.ret = 0
      · simp only [hret, if_true]
        refine ⟨hi.sameSock ⟨rfl, rfl, rfl⟩, ?_, ?_, hmoved.side, hmoved.places.grows,
          hmoved.places.placed⟩
        · exact controlGuar_frame rfl rfl (Bridge.ControlRely.setSock (.inl rfl)) (.of_eq rfl)
        · exact ⟨⟨hu.starting, hu.locked, hu.releasing, hu.routes, hu.uncalled⟩, hu.notified⟩
      · simp only [hret, if_false]
        exact ⟨hi, controlGuar_refl u, hu, hmoved⟩

theorem Inv.tabled_clone (hi : Inv s) (hstart : s.starting = none) (htaint : s.tainted = false)
    (hsk : s.table i = some sk) (l : ListenerId) :
    ((s.acceptQueue sk).headD {}).userData ≠ .listener l := by
  intro hl
  cases hq : s.acceptQueue sk with
  | nil => simp [hq] at hl
  | cons child rest =>
    rw [hq] at hl
    obtain ⟨hsock, hown⟩ := (hi.refs htaint).children sk child (by simp [hq]) l hl
    have hmem : l ∈ s.listeners ++ s.releasing := by
      rcases hown with hin | hrel
      · exact hi.listeners.owned l hin
      · exact List.mem_append_right _ hrel
    exact hi.tabled_listener hstart hsk hmem hsock

theorem acceptFlags_safe (h : AtRest routes s) :
    Safe Inv requestContract (fun _ t => AtRest routes t) (acceptFlags q) s := by
  refine Safe.seq (lookup_safe h) fun a t ht => ?_
  obtain ⟨hrest, -, hfound⟩ := ht
  cases a with
  | none => exact hrest
  | some sk =>
    refine Safe.await fun u hr hi r _ => ?_
    have hu := hrest.stable hr
    by_cases hret : r.ret = 0
    · simp only [hret, ne_eq, not_true_eq_false, if_false]
      have hsk : u.table (q.handle.toNat - 1) = some sk := hr.side ▸ (hfound sk rfl).1
      have hinv := hi.installNew (p := ((u.acceptQueue sk).headD {}).place)
        (v := { state := .established
                userData := ((u.acceptQueue sk).headD {}).userData
                hooks := ((u.acceptQueue sk).headD {}).hooks })
        (update u.acceptQueue sk (u.acceptQueue sk).tail)
        (fun _ _ => mem_of_mem_update_tail) (isSession_headD hi.queues sk) rfl
        fun htaint l => hi.tabled_clone hu.starting htaint hsk l
      exact ⟨hinv, hi.installNew_guar _ (isSession_headD hi.queues sk), installNew_rest hu⟩
    · simp only [hret, ne_eq, not_false_eq_true, if_true]
      exact ⟨hi, controlGuar_refl u, hu⟩

/-! ## Closing a handle -/

theorem Inv.closeHandle {handle : ℤ} (hi : Inv s) (hsk : s.table (handle.toNat - 1) = some sk) :
    Inv (sockRelease sk (clearHandle handle s)) := by
  have hown : s.owns (.slot (handle.toNat - 1)) sk := hsk
  have hlive : s.unreleased sk := hi.owners.isLive hown
  have hcleared : Core (clearHandle handle s) :=
    { hi with slots := slots_clear hi.slots _, stop := { hi.stop with } }
  refine ⟨hcleared.sockRelease hlive, hi.owners.lose hown (fun j => ?_) (fun o ho j => ?_)
    (fun j => ?_), fun htaint => (hi.refs htaint).of_socks fun k l hl => ?_, hi.routing⟩
  · show update s.table _ none _ = some j ↔ j ≠ sk ∧ s.table _ = some j
    rw [update_self, hsk]
    simp [eq_comm]
  · cases o with
    | slot j' =>
      have hne : j' ≠ handle.toNat - 1 := fun he => ho (by rw [he])
      show update s.table _ none j' = some j ↔ s.table j' = some j
      rw [update_of_ne hne]
    | accept | session | listener => exact Iff.rfl
  · exact unreleased_release _ _ _
  · exact (sockRelease_ends (clearHandle handle s) sk k).1.symm.trans hl

theorem releaseHandle_safe {handle : ℤ} {P : State → Prop}
    (hP : ∀ t t', P t → RequestRely t t' → P t')
    (hown : ∀ t b queue table, P t → b.toRegistry = t.bridge.toRegistry →
      P { t with bridge := b, acceptQueue := queue, table := table })
    (h : P s) (hsk : s.table (handle.toNat - 1) = some sk) :
    Safe Inv requestContract (fun _ t => P t ∧
        t.toControlSide = { s.toControlSide with
          table := update s.table (handle.toNat - 1) none })
      (releaseHandle handle sk) s := by
  refine Safe.seq (P := fun _ t => P t ∧ t.toControlSide = s.toControlSide)
    (Safe.block fun t hr hi _ => ?_) fun _ t ht => Safe.block fun u hr hi _ => ?_
  · exact ⟨hi.sockShutdown sk, controlGuar_frame rfl rfl (sockShutdown_rely t sk) (.of_eq rfl),
      hown t _ _ t.table (hP s t h hr) rfl, hr.side⟩
  · have hside := hr.side.trans ht.2
    have hsku : u.table (handle.toNat - 1) = some sk := hside ▸ hsk
    refine ⟨hi.closeHandle hsku, controlGuar_frame rfl rfl (Bridge.ControlRely.setSock (.inl rfl))
      (.of_eq rfl),
      hown u _ u.acceptQueue _ (hP t u ht.1 hr) rfl, ?_⟩
    rw [← hside]
    rfl

theorem AtRest.registry {b : Bridge.State} {queue : SockId → List Child} {table : ℕ → Option SockId}
    (h : AtRest routes t) (hb : b.toRegistry = t.bridge.toRegistry) :
    AtRest routes { t with bridge := b, acceptQueue := queue, table := table } :=
  ⟨⟨h.starting, h.locked, h.releasing, h.routes, h.uncalled⟩, fun hserves =>
    (congrArg Bridge.Registry.completionNotify hb).trans (h.notified hserves)⟩

theorem controlClose_safe (h : AtRest routes s) :
    Safe Inv requestContract (fun _ t => AtRest routes t) (controlClose q) s := by
  refine Safe.seq (lookup_safe h) fun a t ht => ?_
  obtain ⟨hrest, -, hfound⟩ := ht
  cases a with
  | none => exact hrest
  | some sk =>
    exact Safe.seq
      (releaseHandle_safe (fun _ _ h hr => h.stable hr) (fun _ _ _ _ h hb => h.registry hb)
      hrest (hfound sk rfl).1) fun _ u hu => hu.1

/-! ## Bridges -/

theorem Inv.handOverSlot {live : SessionId → Bool} {x : SessionId} {handle h : ℤ} (hi : Inv s)
    (hcall : s.call = some ⟨.control, .start sk, live⟩)
    (hsk : s.table (h.toNat - 1) = some sk)
    (hok : Bridge.OutcomeOK (.started x handle) s.bridge)
    (hanswer : Bridge.Answered live (.start sk) (.started x handle) s.bridge) :
    Inv (clearHandle h { s with call := none }) := by
  have hdown : s.allocated = false := hi.call.control sk live hcall
  exact
    { hi with
      slots := slots_clear hi.slots _
      bridge := { hi.bridge with calm := fun _ => hok.1 }
      call := by constructor <;> simp [clearHandle]
      cover :=
        { hi.cover with
          covered := fun hn => absurd (hi.no_notifier hdown) hn }
      cancel :=
        { hi.cancel with
          each := fun hserves => absurd (hserves.symm.trans hdown) (by simp)
          run := fun hserves => absurd (hserves.symm.trans hdown) (by simp) }
      stop := { hi.stop with }
      owners := by
        refine hi.owners_handedOver hcall hanswer (o := .slot (h.toNat - 1)) hsk rfl rfl rfl
          (by simp) (fun k => ?_) fun p k hp hsession => ?_
        · show update s.table _ none _ = some k ↔ k ≠ sk ∧ s.table _ = some k
          rw [update_self, hsk]
          simp [eq_comm]
        · cases p with
          | accept | listener => exact Iff.rfl
          | session y => exact absurd rfl (hsession y)
          | slot j =>
            have hne : j ≠ h.toNat - 1 := fun he => hp (by rw [he])
            show update s.table _ none j = some k ↔ s.table j = some k
            rw [update_of_ne hne] }

theorem bridgeStartCheck_ok (h : bridgeStartCheck q s = .ok sk) :
    s.table (q.handle.toNat - 1) = some sk ∧ s.allocated = false := by
  unfold bridgeStartCheck at h
  cases hsk : lookup q.handle s with
  | none => simp [hsk] at h
  | some k =>
    simp only [hsk] at h
    split at h
    case isTrue => cases h
    case isFalse hdown =>
      split at h
      case isTrue => cases h
      split at h
      case isTrue => cases h
      cases h
      exact ⟨lookup_table hsk, by simpa using hdown⟩

theorem controlBridgeStart_safe (h : AtRest routes s) :
    Safe Inv requestContract (fun a t => AtRest routes t ∧ (a.status ≠ 0 → t.table = s.table))
      (controlBridgeStart q) s := by
  refine Safe.seq (P := fun a t => AtRest routes t ∧ t.toControlSide = s.toControlSide ∧
    ∀ sk, a = .ok sk → t.table (q.handle.toNat - 1) = some sk ∧ t.allocated = false)
    (Safe.block fun t hr hi _ => ⟨hi, controlGuar_refl t, h.stable hr, hr.side,
      fun sk => bridgeStartCheck_ok⟩) fun a t ht => ?_
  obtain ⟨hrest, hside, hok⟩ := ht
  cases a with
  | error ret => exact ⟨hrest, fun _ => congrArg ControlSide.table hside⟩
  | ok sk =>
    obtain ⟨hsk, hdown⟩ := hok sk rfl
    refine controlCall_safe (F := fun _ => True) (V := fun _ => True) rfl trivial
      (fun _ _ _ _ _ => trivial) (fun _ _ _ => trivial) (fun _ _ _ _ _ _ _ _ => trivial)
      (fun _ _ _ => trivial) (by simp) ?_ ?_
    · intro k hk
      cases hk
      exact ⟨⟨_, hsk⟩, hdown⟩
    intro b a u r hi hc _ _ hcall hout hanswer _
    have hu : Attending none false [] routes { u with call := none } :=
      hrest.toAttending.of_side hc (by simp [calls])
    have hserves : u.allocated = true → False := fun hserves => by
      rw [show u.allocated = t.allocated from congrArg ControlSide.allocated hc, hdown] at hserves
      cases hserves
    have htable : u.table = s.table := hc ▸ (congrArg ControlSide.table hside)
    cases a with
    | started x handle =>
      have hsku : u.table (q.handle.toNat - 1) = some sk := hc ▸ hsk
      refine ⟨hi.handOverSlot hcall hsku hout hanswer, controlGuar_giveBack hcall rfl rfl rfl, ?_,
        fun hne => absurd rfl hne⟩
      exact ⟨⟨hu.starting, hu.locked, hu.releasing, hu.routes, hu.uncalled⟩,
        fun hs => (hserves hs).elim⟩
    | value ret =>
      exact ⟨hi.giveBack hcall hout.calm fun _ _ => hanswer.2,
        controlGuar_giveBack hcall rfl rfl rfl,
        ⟨hu, fun hs => (hserves hs).elim⟩, fun _ => htable⟩
    | reaped => exact hanswer.elim

theorem bridgeCall_safe {α : Type} {op : Bridge.Op} {f : Outcome → α} (h : AtRest routes s)
    (hset : ∀ n, op ≠ .setCompletionNotifier n) (hclear : ∀ n, op ≠ .clearCompletionNotifier n)
    (hstart : ∀ sk, op ≠ .start sk) :
    Safe Inv requestContract (fun _ t => AtRest routes t)
      (callBridge .control op fun a s _ => (f a, s)) s := by
  refine controlCall_safe
    (F := fun t => t.bridge.completionNotify = s.bridge.completionNotify) (V := fun _ => True)
    rfl rfl (fun t t' ht _ hr => hr.notifier.trans ht) (fun _ _ ht => ht)
    (fun t b live _ ht _ _ hguar => ?_) (fun _ _ _ => trivial) (fun n hn => absurd hn (hset n))
    (fun sk hsk => absurd hsk (hstart sk)) ?_
  · rcases hguar.notifier with hsame | ⟨n, hn, -⟩ | ⟨n, hn, -⟩
    · exact hsame.trans ht
    · exact absurd hn (hset n)
    · exact absurd hn (hclear n)
  intro b a t r hi hc hnotify _ hcall hout _ _
  refine ⟨hi.giveBack hcall hout.calm fun sk hsk => absurd hsk (hstart sk),
    controlGuar_giveBack hcall rfl rfl rfl, h.of_side hc (by simp [calls]) hnotify⟩

theorem controlJoin_safe {op : Bridge.Op} (h : AtRest routes s)
    (hset : ∀ n, op ≠ .setCompletionNotifier n) (hclear : ∀ n, op ≠ .clearCompletionNotifier n)
    (hstart : ∀ sk, op ≠ .start sk) :
    Safe Inv requestContract (fun _ t => AtRest routes t) (controlJoin q op) s := by
  unfold controlJoin
  split
  case isTrue => exact h
  case isFalse => exact bridgeCall_safe h hset hclear hstart

theorem controlBridgeCancel_safe (h : AtRest routes s) :
    Safe Inv requestContract (fun _ t => AtRest routes t) (controlBridgeCancel q) s := by
  unfold controlBridgeCancel
  split
  case isTrue => exact h
  case isFalse => exact bridgeCall_safe h (by simp) (by simp) (by simp)

end Tcpcc.Runtime

import Tcpcc.Bridge.Pump

/-!
# The dispatcher keeps the invariant

The pump of a session from the ready queue to its exit, the delivery of one host event,
and the segments of the thread. The queue of `irq.c` never runs out before its
completion does, so the thread never sees an error from it and never aborts.
-/

namespace Tcpcc.Bridge
open Resumption State

variable {s s' : State} {x : SessionId}

structure AtHome (s : State) : Prop where
  pumping : s.pumping = none
  dispatching : s.dispatching = none

theorem AtHome.stable (h : AtHome s) (hr : DispatcherRely s s') : AtHome s' :=
  ⟨hr.pumping.trans h.pumping, hr.dispatching.trans h.dispatching⟩

/-! ## Sockets -/

theorem HooksOK.setSock (h : HooksOK s.sock s.publicSock s.publicCallbacksInstalled s.allocated)
    {sk : SockId} {v : Sock}
    (hv : v.userData = (s.sock sk).userData ∨ v.userData.isSession = false) :
    HooksOK (s.setSock sk v).sock s.publicSock s.publicCallbacksInstalled s.allocated where
  live k y hy := by
    by_cases hk : k = sk
    · subst hk
      simp only [State.setSock, Function.update_self] at hy
      rcases hv with hv | hv
      · exact h.live k y (hv.symm.trans hy)
      · simp [hy, UserData.isSession] at hv
    · exact h.live k y (by simpa [State.setSock, hk] using hy)

theorem Inv.setSock (h : Inv s) {sk : SockId} {v : Sock}
    (hv : v.userData = (s.sock sk).userData ∨ v.userData.isSession = false) :
    Inv (s.setSock sk v) :=
  { h with hooks := h.hooks.setSock hv }

theorem ControlRely.setSock {sk : SockId} {v : Sock}
    (hv : v.userData = (s.sock sk).userData ∨ v.userData.isSession = false) :
    ControlRely s (s.setSock sk v) :=
  { refl s with
    hooks := fun k y hy => by
      by_cases hk : k = sk
      · subst hk
        simp only [State.setSock, Function.update_self] at hy
        rcases hv with hv | hv
        · exact hv.symm.trans hy
        · simp [hy, UserData.isSession] at hv
      · simpa [State.setSock, hk] using hy }

theorem DispatcherGuar.sockShutdown {sk : SockId} (hpub : s.publicSock x = some sk)
    (hc : s.connecting x = false) : DispatcherGuar s (sockShutdown sk s) where
  toControlRely := ControlRely.setSock (.inl rfl)
  spared k hk := by
    have hne : k ≠ sk := fun he => by simp [hk x (he ▸ hpub)] at hc
    simp [State.sockShutdown, State.setSock, hne]
  socks k := by
    by_cases hk : k = sk
    · subst hk
      exact ⟨(s.sock k).shutdowns + 1, by simp [State.sockShutdown, State.setSock]⟩
    · exact ⟨(s.sock k).shutdowns, by simp [State.sockShutdown, State.setSock, hk]⟩
  counted := Nat.le_refl _
  notified x hx hx' := by
    rw [show (State.sockShutdown sk s).finishedNotified x = s.finishedNotified x from rfl, hx]
      at hx'
    cases hx'

theorem DispatcherRely.of_sock (f : SockId → Sock) : DispatcherRely s { s with sock := f } where
  pumping := rfl
  dispatching := rfl
  bufferBytes := rfl
  kept _ hx := ⟨hx, rfl, id, id, fun _ => id, .inr ⟨rfl, rfl⟩⟩
  connected _ _ := id

theorem abortSocket_safe {C : Contract State} {P : State → Prop} (first : Bool)
    (hstable : ∀ s s', P s → C.rely s s' → P s')
    (hsock : ∀ s f, P s → P { s with sock := f })
    (hguar : ∀ s sk, Inv s → P s → s.publicSock x = some sk → C.guar s (sockShutdown sk s))
    (hrefl : ∀ s, C.guar s s) (h : P s) :
    Safe Inv C (fun _ t => P t) (abortSocket x first) s := by
  unfold abortSocket
  cases first with
  | false => exact h
  | true =>
    refine Safe.block fun t hr hi _ => ?_
    have ht := hstable _ _ h hr
    cases hsk : t.publicSock x with
    | none => exact ⟨hi, hrefl t, ht⟩
    | some sk => exact ⟨hi.setSock (.inl rfl), hguar t sk hi ht hsk, hsock t _ ht⟩

/-! ## Pumping a session -/

theorem Inv.unpump (h : Inv s) (hp : s.pumping = some x)
    (hx : s.running x = false ∨ ∀ d, Rest d x s ∧ AtEase d x s) : Inv { s with pumping := none } :=
  { h with
    settled :=
      { settled := by
          intro y hr hs hq _ d
          by_cases hy : y = x
          · subst hy
            rcases hx with hx | hx
            · simp [hx] at hr
            · rcases (hx d).2 with he | he
              · simp [he] at hq
              · exact he
          · exact h.settled.settled y hr hs hq (by simpa [hp] using Ne.symm hy) d
        rested := by
          intro y hr _ d
          by_cases hy : y = x
          · subst hy
            rcases hx with hx | hx
            · simp [hx] at hr
            · exact (hx d).1
          · exact h.settled.rested y hr (by simpa [hp] using Ne.symm hy) d }
    thread := ⟨.inl rfl⟩ }

theorem forall_dir {p : Dir → Prop} (d : Dir) (h : p d) (h' : p d.other) : ∀ e, p e := by
  intro e
  cases d <;> cases e <;> first | exact h | exact h'

theorem dispatching_of_pumping (h : Core s) (hp : s.pumping = some x) : s.dispatching = none := by
  rcases h.thread.single with ht | ht
  · simp [hp] at ht
  · exact ht

theorem sessionFinish_frame (h : Inv s) (hc : s.connecting x = false)
    (hclean : s.finishedNotified x = false → s.CleanlyDone x) :
    (sessionFinish x s).pumping = s.pumping ∧ (sessionFinish x s).dispatching = s.dispatching := by
  obtain ⟨heq, -⟩ | ⟨heq, -, -, -, -, hu⟩ := sessionFinish_cases h.toCore hc hclean
  · rw [heq]
    exact ⟨rfl, rfl⟩
  · rw [heq]
    exact ⟨hu.pumping, hu.dispatching⟩

theorem finish_unpump (h : Inv s) (hp : Pumping x s)
    (hclean : s.status x = 0 → s.isClosed x = true ∧ ∀ d, (s.flow x d).done = true) :
    Inv { sessionFinish x s with pumping := none } ∧
      DispatcherGuar s { sessionFinish x s with pumping := none } ∧
      AtHome { sessionFinish x s with pumping := none } := by
  have hc := (h.phase.isRunning x hp.running).2.1
  obtain ⟨hpump, hdisp⟩ := sessionFinish_frame h hc fun _ => hclean
  have hinv := h.sessionFinish hc fun _ => hclean
  have hguar := DispatcherGuar.sessionFinish h hc fun _ => hclean
  refine ⟨hinv.unpump (hpump.trans hp.pumping) (.inl (sessionFinish_running h hc fun _ => hclean)),
    hguar.trans (DispatcherGuar.of_view rfl rfl), rfl, ?_⟩
  exact hdisp.trans (dispatching_of_pumping h.toCore hp.pumping)

theorem pumpExit_safe {d : Dir} (h : Aside True d x s) (hrest : Rest d x s) (hease : AtEase d x s) :
    Safe Inv dispatcherContract (fun _ t => AtHome t)
      (Prog.block fun s (_ : Reply) => ((), pumpExit x s)) s := by
  refine Safe.block fun t hr hi _ => ?_
  have ht := h.stable hr
  have hrest := hrest.stable h.running hr
  have hease := hease.stable h.running hr
  simp only [pumpExit]
  split
  case isTrue hdone =>
    simp only [Bool.and_eq_true] at hdone
    exact finish_unpump hi ht.toPumping fun _ =>
      ⟨hdone.2, forall_dir .publicToBackend hdone.1.1 hdone.1.2⟩
  case isFalse =>
    have hdisp := dispatching_of_pumping hi.toCore ht.pumping
    exact ⟨hi.unpump ht.pumping (.inr (forall_dir d ⟨hrest, hease⟩ ⟨ht.rest, ht.ease trivial⟩)),
      DispatcherGuar.of_view rfl rfl, rfl, hdisp⟩

structure Failing (x : SessionId) (s : State) : Prop extends Pumping x s where
  stopping : s.stopping x = true

theorem Failing.stable (h : Failing x s) (hr : DispatcherRely s s') : Failing x s' :=
  ⟨h.toPumping.stable hr, (hr.kept x h.running).stopping h.stopping⟩

theorem sessionStop_safe {status : ℤ} (h : Pumping x s) (hst : status < 0) :
    Safe Inv dispatcherContract (fun _ t => Failing x t)
      (Prog.block fun s (_ : Reply) => sessionStop x status s) s := by
  refine Safe.block fun t hr hi _ => ?_
  have ht := h.stable hr
  obtain ⟨ha, hc, -⟩ := hi.phase.isRunning x ht.running
  refine ⟨hi.sessionStop hc hst, DispatcherGuar.sessionStop hi.toCore hst fun _ =>
    not_quiet_of_running hi.toCore ht.running, ?_⟩
  simp only [sessionStop, ha, hc, if_true, Bool.false_eq_true, if_false]
  exact ⟨⟨ht.pumping, ht.running⟩, by simp [queueSession, markStopped]⟩

theorem failed_safe (h : Failing x s) :
    Safe Inv dispatcherContract (fun _ t => AtHome t)
      (Prog.block fun s (_ : Reply) => ((), { sessionFinish x s with pumping := none })) s := by
  refine Safe.block fun t hr hi _ => ?_
  have ht := h.stable hr
  obtain ⟨ha, -, hf⟩ := hi.phase.isRunning x ht.running
  refine finish_unpump hi ht.toPumping fun hzero => ?_
  have := hi.status.stopped x ha ht.stopping hf
  omega

theorem pumpDirections_safe (h : Pumping x s) (hrest : ∀ d, Rest d x s) :
    Safe Inv dispatcherContract (LoopPost True .backendToPublic x) (pumpDirections x) s := by
  have haside : Aside False .publicToBackend x s := ⟨h, hrest _, False.elim⟩
  refine Safe.seq (pumpDirection_safe directionBudget haside (hrest _)) fun status t hloop => ?_
  by_cases hzero : status = 0
  · rw [if_pos hzero]
    obtain ⟨haside, hrest, hease⟩ := hloop.2.2 hzero
    exact pumpDirection_safe directionBudget ⟨haside.toPumping, hrest, fun _ => hease⟩ haside.rest
  · rw [if_neg hzero]
    exact ⟨hloop.1, hloop.2.1, fun h0 => absurd h0 hzero⟩

theorem pumpDone_safe {status : ℤ} (h : LoopPost True .backendToPublic x status s) :
    Safe Inv dispatcherContract (fun _ t => AtHome t) (pumpDone x status) s := by
  obtain ⟨hpumping, hle, hpost⟩ := h
  unfold pumpDone
  by_cases hzero : status = 0
  · rw [if_pos hzero]
    obtain ⟨haside, hrest, hease⟩ := hpost hzero
    exact pumpExit_safe haside hrest hease
  · rw [if_neg hzero]
    refine Safe.seq (sessionStop_safe hpumping (by omega)) fun first t hfail => ?_
    refine Safe.seq (abortSocket_safe (P := Failing x) first (fun _ _ => Failing.stable)
      (fun _ _ hf => ⟨⟨hf.pumping, hf.running⟩, hf.stopping⟩)
      (fun _ _ hi hf hpub =>
        DispatcherGuar.sockShutdown hpub (hi.phase.isRunning x hf.running).2.1)
      DispatcherGuar.refl hfail) fun _ u hfail => ?_
    exact failed_safe hfail

theorem pumpSession_safe (h : Pumping x s) (hrest : ∀ d, Rest d x s) :
    Safe Inv dispatcherContract (fun _ t => AtHome t) (pumpSession x) s :=
  Safe.seq (pumpDirections_safe h hrest) fun _ _ => pumpDone_safe

/-! ## Taking a session from the ready queue -/

def taken (x : SessionId) (rest : List SessionId) (s : State) : State :=
  { s with ready := rest, readyQueued := Function.update s.readyQueued x false }

section Taken
variable {rest : List SessionId} (h : Inv s) (hready : s.ready = x :: rest)
include h hready

theorem taken_allocated : s.allocated x = true :=
  h.ready.live x ((h.ready.listed.mem x).mp (by simp [hready]))

theorem ReadyOK.taken : ReadyOK rest (taken x rest s).readyQueued s.allocated where
  listed := (hready ▸ h.ready.listed).tail
  live := by
    intro y hy
    by_cases hxy : y = x
    · rw [hxy]
      exact taken_allocated h hready
    · exact h.ready.live y (by simpa [Bridge.taken, hxy] using hy)

omit h hready in
theorem ControlRely.taken : ControlRely s (taken x rest s) :=
  { refl s with
    quiet := fun y hy => by
      by_cases hxy : y = x
      · simp [Bridge.taken, hxy]
      · simpa [Bridge.taken, hxy] using hy.unqueued }

omit h hready in
theorem DispatcherGuar.taken : DispatcherGuar s (taken x rest s) :=
  .of_rely ControlRely.taken rfl rfl rfl

theorem Inv.taken (hx : s.running x = true → s.stopping x = true) : Inv (taken x rest s) :=
  { h with
    ready := ReadyOK.taken h hready
    settled :=
      { h.settled with
        settled := by
          intro y hr hs hq hp
          have hxy : y ≠ x := by
            rintro rfl
            exact absurd ((hx hr).symm.trans hs) (by simp)
          exact h.settled.settled y hr hs (by simpa [Bridge.taken, hxy] using hq) hp } }

theorem Inv.takenToPump (hhome : AtHome s) :
    Inv { Bridge.taken x rest s with pumping := some x } :=
  { h with
    ready := ReadyOK.taken h hready
    settled :=
      { settled := by
          intro y hr hs hq hp
          have hxy : y ≠ x := fun he => hp (by rw [he])
          exact h.settled.settled y hr hs (by simpa [Bridge.taken, hxy] using hq)
            (by rw [hhome.pumping]; simp)
        rested := by
          intro y hr _
          exact h.settled.rested y hr (by rw [hhome.pumping]; simp) }
    thread := ⟨.inr hhome.dispatching⟩ }

end Taken

def EntryPost : PumpEntry → State → Prop
  | .empty, s => AtHome s
  | .skip, s => AtHome s
  | .pump x, s => Pumping x s ∧ ∀ d, Rest d x s

theorem pumpEntry_safe (h : AtHome s) :
    Safe Inv dispatcherContract EntryPost (Prog.block fun s (_ : Reply) => pumpEntry s) s := by
  refine Safe.block fun t hr hi _ => ?_
  have ht := h.stable hr
  cases hready : t.ready with
  | nil =>
    simp only [pumpEntry, takeReady, hready]
    exact ⟨hi, DispatcherGuar.refl t, ht⟩
  | cons x rest =>
    have ha := taken_allocated hi hready
    have hentry : pumpEntry t = if !t.allocated x || (!t.running x && !t.stopping x) then
          (.skip, taken x rest t)
        else if t.stopping x then (.skip, sessionFinish x (taken x rest t))
        else (.pump x, { taken x rest t with pumping := some x }) := by
      simp only [pumpEntry, takeReady, hready]
      rfl
    rw [hentry]
    cases hs : t.stopping x with
    | true =>
      have hstop : Inv (taken x rest t) := hi.taken hready fun _ => hs
      have hc : (taken x rest t).connecting x = false := by
        cases hc : t.connecting x with
        | false => exact hc
        | true => exact absurd (hs.symm.trans (hi.phase.isConnecting x hc).2.1) (by simp)
      have hclean : (taken x rest t).finishedNotified x = false → (taken x rest t).status x = 0 →
          (taken x rest t).isClosed x = true ∧ ∀ d, ((taken x rest t).flow x d).done = true := by
        intro hf hzero
        exact absurd hzero (ne_of_lt (hi.status.stopped x ha hs hf))
      obtain ⟨hpump, hdisp⟩ := sessionFinish_frame hstop hc hclean
      simp only [ha, Bool.not_true, Bool.and_false, Bool.or_false, Bool.false_eq_true, if_false,
        if_true]
      exact ⟨hstop.sessionFinish hc hclean,
        DispatcherGuar.taken.trans (DispatcherGuar.sessionFinish hstop hc hclean),
        hpump.trans ht.pumping, hdisp.trans ht.dispatching⟩
    | false =>
      cases hrun : t.running x with
      | false =>
        simp only [ha, Bool.not_true, Bool.not_false, Bool.and_self, Bool.or_true, if_true]
        exact ⟨hi.taken hready (by simp [hrun]), DispatcherGuar.taken, ht.pumping, ht.dispatching⟩
      | true =>
        simp only [ha, Bool.not_true, Bool.false_and, Bool.or_false, Bool.false_eq_true, if_false]
        have hguar : DispatcherGuar t { taken x rest t with pumping := some x } :=
          DispatcherGuar.taken.trans (DispatcherGuar.of_view rfl rfl)
        refine ⟨hi.takenToPump hready ht, hguar, ⟨rfl, hrun⟩, fun d => ?_⟩
        exact hi.settled.rested x hrun (by rw [ht.pumping]; simp) d

/-! ## Host events -/

theorem Inv.raise (h : Inv s) {R W : SessionId → Side → Bool}
    (hR : ∀ y, y ≠ x → R y = s.readable y) (hW : ∀ y, y ≠ x → W y = s.writable y)
    (hmono : ∀ side, s.readable x side = true → R x side = true)
    (hq : s.readyQueued x = true ∨ s.stopping x = true ∨ s.running x = false) :
    Inv { s with readable := R, writable := W } :=
  { h with
    settled :=
      { settled := by
          intro y hr hs hqy hp e
          have hy : y ≠ x := by
            rintro rfl
            rcases hq with hq | hq | hq
            · simp [hq] at hqy
            · simp [hq] at hs
            · simp [hq] at hr
          simp only [hR y hy, hW y hy]
          exact h.settled.settled y hr hs hqy hp e
        rested := by
          intro y hr hp e
          obtain ⟨hbuf, heof⟩ := h.settled.rested y hr hp e
          refine ⟨fun hb => ?_, heof⟩
          by_cases hy : y = x
          · subst hy
            exact hmono _ (hbuf hb)
          · simp only [hR y hy]
            exact hbuf hb } }

theorem Inv.eventGet (h : Inv s) (hhome : AtHome s) (ha : s.allocated x = true) :
    Inv (eventGet x s) := by
  have hzero : ∀ y, s.eventRefs y = 0 := fun y => by simp [h.refs.refs y, hhome.dispatching]
  exact
    { h with
      refs :=
        { refs := by
            intro y
            by_cases hy : y = x
            · simp [Bridge.eventGet, hy, hzero]
            · simp [Bridge.eventGet, hy, hzero, Ne.symm hy]
          idle := by
            intro y hy
            have hxy : x = y := by simpa [Bridge.eventGet] using hy
            simp [Bridge.eventGet, hxy, hzero, Completion.reinit]
          live := by
            intro y hy
            have hxy : x = y := by simpa [Bridge.eventGet] using hy
            exact hxy ▸ ha }
      thread := ⟨.inl hhome.pumping⟩ }

theorem terminal_or_error (noted events : ℕ) :
    (noted ||| (events &&& (eventHangup ||| eventError))) &&& eventError =
      (noted &&& eventError) ||| (events &&& eventError) := by
  have hmask : (eventHangup ||| eventError) &&& eventError = eventError := by decide
  rw [Nat.and_or_distrib_right, Nat.and_assoc, hmask]

theorem ControlRely.eventGet (hacc : s.acceptEvents x = true) : ControlRely s (eventGet x s) :=
  { refl s with
    silent := fun y hy => by
      have hxy : x ≠ y := fun he => by simp [Silent, ← he, hacc] at hy
      simpa [Bridge.eventGet] using hxy }

theorem DispatcherGuar.eventGet (hacc : s.acceptEvents x = true) :
    DispatcherGuar s (eventGet x s) := .of_rely (ControlRely.eventGet hacc) rfl rfl rfl

theorem Inv.eventPut (h : Inv s) (hd : s.dispatching = some x) : Inv (eventPut x s) :=
  { h with
    refs :=
      { refs := by
          intro y
          have hy := h.refs.refs y
          by_cases hxy : y = x
          · rw [hxy] at hy
            simp [Bridge.eventPut, hxy, hy, hd]
          · simp [Bridge.eventPut, hxy, hy, hd, Ne.symm hxy]
        idle := by simp [Bridge.eventPut]
        live := by simp [Bridge.eventPut] }
    thread := ⟨.inr rfl⟩ }

theorem ControlRely.eventPut : ControlRely s (eventPut x s) :=
  { refl s with
    silent := fun _ _ => by simp [Bridge.eventPut] }

theorem DispatcherGuar.eventPut : DispatcherGuar s (eventPut x s) :=
  .of_rely ControlRely.eventPut rfl rfl rfl

theorem ControlRely.connectEvent (ha : s.allocated x = true) (hc : s.connecting x = true)
    (events : ℕ) : ControlRely s (connectEvent x events s) :=
  { refl s with
    gone := fun y hy => by
      have hxy : y ≠ x := fun he => by simp [he, ha] at hy
      exact ⟨rfl, rfl, by simp [Bridge.connectEvent, hxy]⟩
    overlooked := fun y hy => by
      have hxy : y ≠ x := by
        rintro rfl
        have hconnected : s.connecting y = false := hy.1
        rw [hc] at hconnected
        cases hconnected
      simpa [Overlooked, Bridge.connectEvent, hxy] using hy }

theorem ControlRely.readyEvent (ha : s.allocated x = true) (events : ℕ)
    (hevent : s.status x ≠ 0 ∨ events &&& eventError = 0) :
    ControlRely s (readyEvent x events s) :=
  { refl s with
    gone := fun y hy => by
      have hxy : y ≠ x := fun he => by simp [he, ha] at hy
      exact ⟨rfl, rfl, by simp [Bridge.readyEvent, hxy]⟩
    overlooked := fun y hy => by
      obtain ⟨hconn, hseen, hstatus, hbit⟩ := hy
      refine ⟨hconn, hseen, hstatus, ?_⟩
      by_cases hxy : y = x
      · subst hxy
        have hnone : events &&& eventError = 0 := hevent.resolve_left (not_not.2 hstatus)
        simp only [Bridge.readyEvent, Function.update_self] at hbit
        rwa [terminal_or_error, hnone, Nat.or_zero] at hbit
      · simpa [Bridge.readyEvent, hxy] using hbit }

theorem eventSession_spec {e : HostEvent} (h : eventSession e s = some x) :
    s.allocated x = true ∧ s.acceptEvents x = true := by
  unfold eventSession at h
  simp only at h
  split at h
  case isFalse => cases h
  case isTrue =>
    split at h
    · cases h
    · split at h
      case isFalse => cases h
      case isTrue hcond =>
        cases h
        exact hcond.2

structure Delivering (x : SessionId) (s : State) : Prop where
  pumping : s.pumping = none
  dispatching : s.dispatching = some x
  connected : s.connecting x = false

theorem Delivering.stable (h : Delivering x s) (hr : DispatcherRely s s') : Delivering x s' :=
  ⟨hr.pumping.trans h.pumping, hr.dispatching.trans h.dispatching,
    hr.connected x h.dispatching h.connected⟩

theorem not_quiet_of_dispatching (h : s.dispatching = some x) : ¬ Quiet x s :=
  fun hq => hq.silent.2 h

theorem readyEvent_inv (h : Inv s) (events : ℕ)
    (hq : s.readyQueued x = true ∨ s.stopping x = true ∨ s.running x = false) :
    Inv (readyEvent x events s) := by
  have hraise : Inv { s with
      readable := (readyEvent x events s).readable
      writable := (readyEvent x events s).writable } := by
    refine h.raise (fun y hy => set₂_ne _ hy _ _) (fun y hy => set₂_ne _ hy _ _) ?_ hq
    intro side hs
    cases side with
    | publicSide =>
      exact (set₂_other (x := x) s.readable (b := Side.hostSide) (c := Side.publicSide)
        (by simp) _).trans hs
    | hostSide =>
      refine (set₂_self (x := x) s.readable Side.hostSide _).trans ?_
      rw [hs, Bool.or_true]
  exact { hraise with }

def HandledPost : Option (SessionId × Bool) → State → Prop
  | none, s => AtHome s
  | some (x, _), s => Delivering x s

theorem dispatchEvent_spec (e : HostEvent) {error : ℤ} (hi : Inv s) (hhome : AtHome s)
    (herror : error ≤ 0) :
    Inv (dispatchEvent e error s).2 ∧ DispatcherGuar s (dispatchEvent e error s).2 ∧
      HandledPost (dispatchEvent e error s).1 (dispatchEvent e error s).2 := by
  unfold dispatchEvent
  cases hx : eventSession e s with
  | none => exact ⟨hi, DispatcherGuar.refl s, hhome⟩
  | some x =>
    obtain ⟨ha, hacc⟩ := eventSession_spec hx
    have hget : Inv (eventGet x s) := hi.eventGet hhome ha
    have hguar : DispatcherGuar s (eventGet x s) := DispatcherGuar.eventGet hacc
    cases hc : s.connecting x with
    | true =>
      simp only [show (eventGet x s).connecting x = true from hc, if_true]
      have hconn : Inv (connectEvent x e.events (eventGet x s)) := { hget with }
      have hsame : DispatcherGuar (eventGet x s) (connectEvent x e.events (eventGet x s)) :=
        .of_rely (ControlRely.connectEvent (s := eventGet x s) ha hc _) rfl rfl rfl
      exact ⟨hconn.eventPut rfl, (hguar.trans hsame).trans DispatcherGuar.eventPut,
        hhome.pumping, rfl⟩
    | false =>
      simp only [show (eventGet x s).connecting x = false from hc, Bool.false_eq_true, if_false]
      split
      · have hst : (if error ≠ 0 then error else - EIO) < 0 := by
          split
          · omega
          · decide
        generalize (if error ≠ 0 then error else - EIO) = status at hst
        have hcomm : (sessionStop x status (readyEvent x e.events (eventGet x s))).2 =
            readyEvent x e.events (sessionStop x status (eventGet x s)).2 := by
          simp only [sessionStop, show (eventGet x s).allocated x = true from ha,
            show (readyEvent x e.events (eventGet x s)).allocated x = true from ha,
            show (eventGet x s).connecting x = false from hc,
            show (readyEvent x e.events (eventGet x s)).connecting x = false from hc,
            if_true, Bool.false_eq_true, if_false]
          rfl
        have hstopping : (sessionStop x status (eventGet x s)).2.stopping x = true := by
          simp [sessionStop, show (eventGet x s).allocated x = true from ha,
            show (eventGet x s).connecting x = false from hc, queueSession, markStopped]
        have hhandled :
            Delivering x (sessionStop x status (readyEvent x e.events (eventGet x s))).2 := by
          simp only [sessionStop,
            show (readyEvent x e.events (eventGet x s)).allocated x = true from ha,
            show (readyEvent x e.events (eventGet x s)).connecting x = false from hc,
            if_true, Bool.false_eq_true, if_false]
          exact ⟨hhome.pumping, rfl, hc⟩
        refine ⟨?_, ?_, hhandled⟩
        · show Inv (sessionStop x status (readyEvent x e.events (eventGet x s))).2
          rw [hcomm]
          exact readyEvent_inv (hget.sessionStop hc hst) _ (.inr (.inl hstopping))
        · show DispatcherGuar s (sessionStop x status (readyEvent x e.events (eventGet x s))).2
          rw [hcomm]
          refine (hguar.trans (DispatcherGuar.sessionStop hget.toCore hst fun _ =>
            not_quiet_of_dispatching rfl)).trans ?_
          refine .of_rely (ControlRely.readyEvent ?_ _ (.inl ?_)) rfl rfl rfl
          · rw [congrArg Registry.allocated (sessionStop_registry ..)]
            exact ha
          · simp [sessionStop, show (eventGet x s).allocated x = true from ha,
              show (eventGet x s).connecting x = false from hc, queueSession,
              ((markStopped_status (x := x) hget.status hst).1).ne]
      · rename_i hnoerror
        have hready : DispatcherGuar (eventGet x s) (readyEvent x e.events (eventGet x s)) :=
          .of_rely (ControlRely.readyEvent (s := eventGet x s) ha _
            (.inr (not_not.1 hnoerror))) rfl rfl rfl
        have hqueued : (queueSession x (eventGet x s)).readyQueued x = true := by
          simp [queueSession_readyQueued, show (eventGet x s).allocated x = true from ha]
        have hraised : Inv (queueSession x (readyEvent x e.events (eventGet x s))) :=
          readyEvent_inv (hget.queueSession x) _ (.inl hqueued)
        refine ⟨hraised.eventPut rfl, ?_, hhome.pumping, rfl⟩
        have hqueue : DispatcherGuar (readyEvent x e.events (eventGet x s))
            (queueSession x (readyEvent x e.events (eventGet x s))) :=
          DispatcherGuar.queueSession (not_quiet_of_dispatching rfl)
        exact ((hguar.trans hready).trans hqueue).trans DispatcherGuar.eventPut

/-! ## The thread -/

theorem runtimeEventPoll_spec (hi : Inv s) :
    (runtimeEventPoll s = (.empty, s)) ∨
      ∃ e rest, runtimeEventPoll s = (.event e, { s with
        runtimeReady := rest.length, runtimeQueue := rest }) ∧ s.runtimeQueue = e :: rest := by
  unfold runtimeEventPoll
  have hcredits := hi.queue.credits
  cases hqueue : s.runtimeQueue with
  | nil =>
    rw [hqueue] at hcredits
    exact .inl (by simp [hcredits])
  | cons e rest =>
    have hbound := hi.queue.bound
    rw [hqueue] at hcredits hbound
    simp only [List.length_cons, runtimeQueueLimit] at hcredits hbound
    have hmax : rest.length + 1 ≠ Completion.UINT_MAX := by
      simp only [Completion.UINT_MAX]
      omega
    refine .inr ⟨e, rest, ?_, rfl⟩
    simp [hcredits, Completion.take, hmax]

def DrainPost : Drained → State → Prop
  | .empty, s => AtHome s
  | .failed _, _ => False
  | .handled after, s => HandledPost after s

theorem drainHostEvent_safe (h : AtHome s) :
    Safe Inv dispatcherContract DrainPost
      (Prog.await (fun _ r => r.status) drainHostEvent) s := by
  refine Safe.await fun t hr hi r hready => ?_
  have ht := h.stable hr
  have hstatus : r.ret ≤ 0 := by simpa [Reply.status] using hready
  rcases runtimeEventPoll_spec hi with hpoll | ⟨e, rest, hpoll, hqueue⟩
  · simp only [drainHostEvent, hpoll]
    exact ⟨hi, DispatcherGuar.refl t, ht⟩
  · simp only [drainHostEvent, hpoll]
    have hbound := hi.queue.bound
    rw [hqueue, List.length_cons] at hbound
    have hpopped : Inv { t with runtimeReady := rest.length, runtimeQueue := rest } :=
      { hi with queue := ⟨rfl, Nat.le_of_succ_le hbound⟩ }
    have hguar₀ : DispatcherGuar t { t with runtimeReady := rest.length, runtimeQueue := rest } :=
      DispatcherGuar.of_view rfl rfl
    obtain ⟨hinv, hguar, hpost⟩ := dispatchEvent_spec e hpopped ⟨ht.pumping, ht.dispatching⟩ hstatus
    exact ⟨hinv, hguar₀.trans hguar, hpost⟩

theorem Inv.drainRetired (h : Inv s) : Inv (drainRetired s) :=
  { h with
    retired :=
      { nodup := by simpa [Bridge.drainRetired] using h.retired.nodup
        gone := by simpa [Bridge.drainRetired] using h.retired.gone } }

theorem Inv.threadExit (h : Inv s) : Inv (threadExit s) := { h.drainRetired with }

def SegmentOK : Segment → State → Prop
  | .abort .., _ => False
  | _, s => AtHome s

theorem SegmentOK.stable (a : Segment) (s s' : State) (h : SegmentOK a s)
    (hr : DispatcherRely s s') : SegmentOK a s' := by
  cases a with
  | abort => exact h
  | absent | idle | drain | ready => exact AtHome.stable h hr

theorem dispatcherThread_safe (segment : Segment) (h : SegmentOK segment s) :
    Safe Inv dispatcherContract SegmentOK (dispatcherThread segment) s := by
  cases segment with
  | abort => exact h.elim
  | absent =>
    refine Safe.await fun t hr hi _ _ => ?_
    have ht := AtHome.stable h hr
    split
    · exact ⟨{ hi with }, DispatcherGuar.of_view rfl rfl, ht.pumping, ht.dispatching⟩
    · exact ⟨{ hi with }, DispatcherGuar.of_view rfl rfl, ht.pumping, ht.dispatching⟩
  | idle =>
    refine Safe.await fun t hr hi _ _ => ?_
    have ht := AtHome.stable h hr
    have hawake : Inv { t with dispatcherPending := false } := { hi with }
    simp only
    split
    · exact ⟨hawake.threadExit, DispatcherGuar.of_view rfl rfl, ht.pumping, ht.dispatching⟩
    · exact ⟨hawake.drainRetired, DispatcherGuar.of_view rfl rfl, ht.pumping, ht.dispatching⟩
  | drain =>
    refine Safe.seq (drainHostEvent_safe h) fun drained t hpost => ?_
    cases drained with
    | empty => exact hpost
    | failed status => exact hpost.elim
    | handled after =>
      cases after with
      | none => exact hpost
      | some p =>
        obtain ⟨x, first⟩ := p
        refine Safe.seq (abortSocket_safe (P := Delivering x) first
          (fun _ _ => Delivering.stable)
          (fun _ _ hd => ⟨hd.pumping, hd.dispatching, hd.connected⟩)
          (fun _ _ _ hd hpub => DispatcherGuar.sockShutdown hpub hd.connected)
          DispatcherGuar.refl hpost) fun _ u hd => ?_
        refine Safe.block fun v hr hi _ => ?_
        have hv := hd.stable hr
        exact ⟨(hi.queueSession x).eventPut hv.dispatching,
          (DispatcherGuar.queueSession (not_quiet_of_dispatching hv.dispatching)).trans
            DispatcherGuar.eventPut, hv.pumping, rfl⟩
  | ready dispatched =>
    by_cases hd : dispatched < dispatchBudget
    · simp only [dispatcherThread, if_pos hd]
      refine Safe.seq (pumpEntry_safe h) fun entry t hpost => ?_
      cases entry with
      | empty | skip => exact hpost
      | pump x => exact Safe.seq (pumpSession_safe hpost.1 hpost.2) fun _ _ hhome => hhome
    · simp only [dispatcherThread, if_neg hd]
      refine Safe.block fun t hr hi _ => ?_
      have ht := AtHome.stable h hr
      exact ⟨{ hi with }, DispatcherGuar.of_view rfl rfl, ht.pumping, ht.dispatching⟩

end Tcpcc.Bridge

import Tcpcc.Runtime.StopSafe

/-!
# The control thread

`Effect` collects what is needed of each request: what it leaves, compared with the state in
which it arrived. From one request to the next the control thread has nothing under way; after
the teardown it has nothing left, and then no socket is left either.
-/

namespace Tcpcc.Runtime
open Resumption State
open Bridge (SockId SessionId Outcome)

variable {s s' t u : State} {sk : SockId} {routes : List Route} {q : Request} {a : Answer} {i : ℕ}

/-! ## One request -/

def Effect (q : Request) (a : Answer) (s t : State) : Prop :=
  match q.op with
  | .socketIp => a.status = 0 → Installed { family := q.family } a.handle s t
  | .bindIp => a.status = 0 → BoundBy q s t
  | .listen => Unmoved s t
  | .other => Unmoved s t
  | .bridgeStart => a.status ≠ 0 → t.table = s.table
  | .serviceStart => StartedBy q s a t
  | .serviceDrain => a.status = 0 → t.drainReturned = true
  | .serviceStop => a.status = 0 → t.stopReturned = true
  | .shutdown => a.status = 0 → t.allocated = false
  | _ => True

theorem StartedBy.stable (h : StartedBy q s a t) (hr : RequestRely t u) : StartedBy q s a u := by
  rcases h with ⟨hzero, sk, hsk, hopened, hrest⟩ | ⟨hret, hfail, hrest⟩
  · exact .inl ⟨hzero, sk, hsk, hopened.stable hr, hrest.stable hr⟩
  · exact .inr ⟨hret, hfail.trans (.of_rely hr), hrest.stable hr⟩

theorem Effect.stable (h : Effect q a s t) (hr : RequestRely t u) : Effect q a s u := by
  unfold Effect at h ⊢
  cases hop : q.op with
  | socketIp =>
    rw [hop] at h
    exact fun hzero => (h hzero).stable hr
  | bindIp =>
    rw [hop] at h
    exact fun hzero => (h hzero).stable hr
  | listen =>
    rw [hop] at h
    exact h.stable hr
  | other =>
    rw [hop] at h
    exact h.stable hr
  | bridgeStart =>
    rw [hop] at h
    exact fun hret => hr.side ▸ (h hret)
  | serviceStart =>
    rw [hop] at h
    exact h.stable hr
  | serviceDrain =>
    rw [hop] at h
    exact fun hzero => hr.side ▸ (h hzero)
  | serviceStop =>
    rw [hop] at h
    exact fun hzero => hr.side ▸ (h hzero)
  | shutdown =>
    rw [hop] at h
    exact fun hzero => hr.side ▸ (h hzero)
  | _ => trivial

theorem Effect.refused {ret : ℤ} (hret : ret ≠ 0) (h : AtRest s.routes s) (hr : RequestRely s t) :
    Effect q (.ofStatus q ret) s t := by
  have hzero : ∀ {P : Prop}, (Answer.ofStatus q ret).status = 0 → P := fun hz => absurd hz hret
  unfold Effect
  cases q.op with
  | listen | other => exact hr.unmoved
  | bridgeStart => exact fun _ => congrArg ControlSide.table hr.side
  | serviceStart => exact .inr ⟨hret, .of_rely hr, h.stable hr⟩
  | socketIp | bindIp | serviceDrain | serviceStop | shutdown => exact hzero
  | _ => trivial

def Answered (q : Request) (s : State) (a : Answer) (t : State) : Prop :=
  AtRest t.routes t ∧ Effect q a s t

theorem AtRest.own (h : AtRest routes s) : AtRest s.routes s := h.routes.symm ▸ h

theorem controlServiceStats_safe (h : AtRest routes s) :
    Safe Inv requestContract (fun _ t => AtRest routes t) (controlServiceStats q) s := by
  unfold controlServiceStats
  split
  case isTrue => exact h
  unfold serviceGetStats
  split
  case isTrue => exact h
  refine Safe.seq (P := fun _ t => AtRest routes t) (Safe.await fun t hr hi _ _ => ?_)
    fun _ _ ht => ht
  exact ⟨hi, controlGuar_refl t, h.stable hr⟩

theorem ofStats_status (q : Request) (a : ℤ × Option ServiceStats) :
    (Answer.ofStats q a).status = a.1 := by
  unfold Answer.ofStats
  split
  case isTrue => rfl
  case isFalse hzero => exact (not_not.mp hzero).symm

theorem controlServiceDrain_safe (h : AtRest routes s) :
    Safe Inv requestContract (fun a t => AtRest routes t ∧ (a.status = 0 → t.drainReturned = true))
      (controlServiceDrain q) s := by
  unfold controlServiceDrain
  split
  case isTrue => exact ⟨h, fun hzero => absurd hzero (ofStatus_ne q (by decide))⟩
  refine Safe.seq (serviceDrain_safe h) fun a t ht => ⟨ht.1, fun hzero => ht.2 ?_⟩
  rwa [ofStats_status] at hzero

theorem controlServiceStop_safe (h : AtRest routes s) :
    Safe Inv requestContract (fun a t => AtRest routes t ∧ (a.status = 0 → t.stopReturned = true))
      (controlServiceStop q) s := by
  unfold controlServiceStop
  split
  case isTrue => exact ⟨h, fun hzero => absurd hzero (ofStatus_ne q (by decide))⟩
  refine Safe.seq (serviceStop_safe h) fun a t ht => ⟨ht.toAtRest, fun hzero => (ht.returned ?_).1⟩
  rwa [ofStats_status] at hzero

theorem controlShutdown_safe (h : AtRest routes s) :
    Safe Inv requestContract (fun a t => AtRest routes t ∧ (a.status = 0 → t.allocated = false))
      (controlShutdown q) s := by
  unfold controlShutdown
  split
  case isTrue => exact ⟨h, fun hzero => absurd hzero (ofStatus_ne q (by decide))⟩
  refine Safe.seq (P := fun b t => AtRest routes t ∧ t.allocated = b)
    (Safe.block fun t hr hi _ => ⟨hi, controlGuar_refl t, h.stable hr, rfl⟩) fun b t ht => ?_
  cases b with
  | false => exact ⟨ht.1, fun _ => ht.2⟩
  | true =>
    exact Safe.seq (serviceStop_safe ht.1) fun a u hu =>
      ⟨hu.toAtRest, fun hzero => (hu.returned hzero).2⟩

theorem controlExecute_safe (hi : Inv s) (h : AtRest s.routes s) :
    Safe Inv requestContract (Answered q s) (controlExecute q) s := by
  unfold controlExecute Answered Effect
  cases hop : q.op with
  | socket => exact (socketFamily_safe .v4 h).mono fun _ _ h => ⟨h.1.own, trivial⟩
  | socketIp => exact (controlSocketIp_safe h).mono fun _ _ h => ⟨h.1.own, h.2⟩
  | bind => exact (controlBind_safe h).mono fun _ _ h => ⟨h.own, trivial⟩
  | bindIp => exact (controlBindIp_safe hi h).mono fun _ _ h => ⟨h.1.own, h.2⟩
  | listen => exact (controlListen_safe h).mono fun _ _ h => ⟨h.1.own, h.2⟩
  | accept | acceptNonblock => exact (acceptFlags_safe h).mono fun _ _ h => ⟨h.own, trivial⟩
  | close => exact (controlClose_safe h).mono fun _ _ h => ⟨h.own, trivial⟩
  | bridgeStart => exact (controlBridgeStart_safe h).mono fun _ _ h => ⟨h.1.own, h.2⟩
  | bridgeJoin =>
    exact (controlJoin_safe h (by simp) (by simp) (by simp)).mono fun _ _ h => ⟨h.own, trivial⟩
  | bridgeJoinResult =>
    exact (controlJoin_safe h (by simp) (by simp) (by simp)).mono fun _ _ h => ⟨h.own, trivial⟩
  | bridgeCancel => exact (controlBridgeCancel_safe h).mono fun _ _ h => ⟨h.own, trivial⟩
  | serviceStart =>
    refine (controlServiceStart_safe hi h).mono fun a t ht => ⟨?_, ht⟩
    rcases ht with ⟨-, sk, -, -, hrest⟩ | ⟨-, -, hrest⟩
    · exact hrest.own
    · exact hrest.own
  | serviceDrain => exact (controlServiceDrain_safe h).mono fun _ _ h => ⟨h.1.own, h.2⟩
  | serviceStats => exact (controlServiceStats_safe h).mono fun _ _ h => ⟨h.own, trivial⟩
  | serviceStop => exact (controlServiceStop_safe h).mono fun _ _ h => ⟨h.1.own, h.2⟩
  | shutdown => exact (controlShutdown_safe h).mono fun _ _ h => ⟨h.1.own, h.2⟩
  | finish =>
    exact Safe.block fun t hr hi _ => ⟨hi, controlGuar_refl t, (h.stable hr).own, trivial⟩
  | other =>
    exact Safe.block fun t hr hi _ => ⟨hi, controlGuar_refl t, (h.stable hr).own, hr.unmoved⟩
  | unknown => exact ⟨h, trivial⟩

def Responded (q : Request) (s : State) (p : ControlPoint) (t : State) : Prop :=
  ∃ a, (p = .ready (some ⟨q, a⟩) ∨ p = .finished (some ⟨q, a⟩)) ∧ Answered q s a t

theorem Responded.stable {p : ControlPoint} (h : Responded q s p t) (hr : RequestRely t u) :
    Responded q s p u := by
  obtain ⟨a, hp, hans⟩ := h
  exact ⟨a, hp, (hans.1.stable hr).own, hans.2.stable hr⟩

theorem controlThread_safe (hi : Inv s) (h : AtRest s.routes s) :
    Safe Inv requestContract (Responded q s) (controlThread q) s := by
  have hrespond : ∀ a t, Answered q s a t → Safe Inv requestContract (Responded q s)
      (Prog.block fun s (r : Reply) => (if r.ret < 0 ∨ Response.terminal ⟨q, a⟩ = true then
        ControlPoint.finished (some ⟨q, a⟩) else .ready (some ⟨q, a⟩), s)) t := by
    intro a t ht
    refine Safe.block fun u hr hiu r => ?_
    refine ⟨hiu, controlGuar_refl u, a, ?_, (ht.1.stable hr).own, ht.2.stable hr⟩
    dsimp only
    split
    case isTrue => exact .inr rfl
    case isFalse => exact .inl rfl
  unfold controlThread
  split
  case isTrue => exact hrespond _ s ⟨h, .refused (by decide) h (RequestRely.refl s)⟩
  case isFalse => exact Safe.seq (controlExecute_safe hi h) hrespond

/-! ## The teardown -/

structure Leaving (routes : List Route) (s : State) : Prop
    extends AtRest routes s, Vacant s where
  down : s.allocated = false

theorem Leaving.stable (h : Leaving routes s) (hr : RequestRely s s') : Leaving routes s' where
  toAtRest := h.toAtRest.stable hr
  toVacant := h.toVacant.stable hr
  down := hr.side ▸ h.down

theorem Leaving.registry {b : Bridge.State} {queue : SockId → List Child}
    {table : ℕ → Option SockId}
    (h : Leaving routes t) (hb : b.toRegistry = t.bridge.toRegistry) :
    Leaving routes { t with bridge := b, acceptQueue := queue, table := table } where
  toAtRest := h.toAtRest.registry hb
  toVacant := ⟨h.thread, h.call, (congrArg Bridge.Registry.completionNotify hb).trans h.notifier,
    fun x => (congrFun (congrArg Bridge.Registry.allocated hb) x).trans (h.sessions x)⟩
  down := h.down

theorem serviceCancel_safe (h : AtRest routes s) :
    Safe Inv requestContract (fun _ t => AtRest routes t ∧ t.allocated = false)
      serviceCancel s := by
  refine Safe.seq (P := fun b t => AtRest routes t ∧ t.allocated = b)
    (Safe.block fun t hr hi _ => ⟨hi, controlGuar_refl t, h.stable hr, rfl⟩) fun b t ht => ?_
  cases b with
  | false => exact ht
  | true =>
    refine Safe.seq (serviceStop_safe ht.1) fun a u hu => ⟨hu.toAtRest, ?_⟩
    by_contra hserves
    rcases hu.serving (by simpa using hserves) with hne | hne
    · exact hne rfl
    · exact hne rfl

theorem cancelSessions_safe (h : AtRest routes s) (hdown : s.allocated = false) :
    Safe Inv requestContract
      (fun _ t => Leaving routes t ∧ ∀ j sk, t.table j = some sk → j ∈ List.range maxSockets)
      (callBridge .control .cancel fun _ s (_ : Reply) => ((), s)) s := by
  refine controlCall_safe (F := fun _ => True) (V := fun _ => True) rfl trivial
    (fun _ _ _ _ _ => trivial) (fun _ _ _ => trivial) (fun _ _ _ _ _ _ _ _ => trivial)
    (fun _ _ _ => trivial) (by simp) (by simp) ?_
  intro b a t r hi hc _ _ hcall hout hanswer _
  have hdownt : t.allocated = false := hc ▸ hdown
  have hnone : ∀ x, t.bridge.allocated x = false := by
    cases a <;> exact hanswer
  have hnotify := hi.no_notifier hdownt
  have hatt : Attending none false [] routes { t with call := none } :=
    h.toAttending.of_side hc (by simp [calls])
  refine ⟨hi.giveBack hcall hout.calm (by simp), controlGuar_giveBack hcall rfl rfl rfl,
    ⟨⟨hatt, fun hserves => absurd (hserves.symm.trans hdownt) (by simp)⟩,
      ⟨hi.not_worker hdownt, rfl, hnotify, hnone⟩, hdownt⟩, fun j sk hj => ?_⟩
  by_contra hout
  have hle : maxSockets ≤ j := by simpa using hout
  exact absurd (hj.symm.trans (hi.slots j hle)) (by simp)

structure Down (s : State) : Prop extends Leaving s.routes s where
  table : ∀ i, s.table i = none

theorem Leaving.own (h : Leaving routes s) : Leaving s.routes s := h.routes.symm ▸ h

theorem Down.stable (h : Down s) (hr : RequestRely s s') : Down s' where
  toLeaving := (h.toLeaving.stable hr).own
  table i := hr.side ▸ (h.table i)

theorem releaseSlots_safe (l : List ℕ) (h : Leaving routes s)
    (hleft : ∀ j sk, s.table j = some sk → j ∈ l) :
    Safe Inv requestContract (fun _ t => Down t) (releaseSlots l) s := by
  induction l generalizing s with
  | nil =>
    refine ⟨h.own, fun j => ?_⟩
    cases hj : s.table j with
    | none => rfl
    | some sk => exact absurd (hleft j sk hj) (by simp)
  | cons i rest ih =>
    have hnext : ∀ t, Leaving routes t → t.table i = none →
        (∀ j sk, t.table j = some sk → j ∈ i :: rest) →
        Safe Inv requestContract (fun _ t => Down t) (releaseSlots rest) t := by
      intro t ht hi hl
      refine ih ht fun j sk hj => ?_
      rcases List.mem_cons.mp (hl j sk hj) with rfl | hmem
      · exact absurd (hj.symm.trans hi) (by simp)
      · exact hmem
    refine Safe.seq (P := fun a t => Leaving routes t ∧ t.table = s.table ∧ t.table i = a)
      (Safe.block fun t hr hi _ => ⟨hi, controlGuar_refl t, h.stable hr,
        congrArg ControlSide.table hr.side, rfl⟩) fun a t ht => ?_
    obtain ⟨hlt, htable, hslot⟩ := ht
    cases a with
    | none => exact hnext t hlt hslot (htable ▸ hleft)
    | some sk =>
      refine Safe.seq (releaseHandle_safe (P := Leaving routes) (fun _ _ h hr => h.stable hr)
        (fun _ _ _ _ h hb => h.registry hb) hlt (by simpa using hslot)) fun _ u hu => ?_
      have htab : u.table = Function.update t.table i none := by
        have hside := congrArg ControlSide.table hu.2
        simpa using hside
      refine hnext u hu.1 (by simp [htab]) fun j sk' hj => hleft j sk' ?_
      by_cases hji : j = i
      · rw [htab, hji] at hj
        simp at hj
      · rw [htab, Function.update_of_ne hji, htable] at hj
        exact hj

theorem teardown_safe (h : AtRest routes s) :
    Safe Inv requestContract (fun p t => p = .down ∧ Down t) teardown s := by
  refine Safe.seq (serviceCancel_safe h) fun _ t ht => ?_
  refine Safe.seq (cancelSessions_safe ht.1 ht.2) fun _ u hu => ?_
  exact Safe.seq (releaseSlots_safe _ hu.1 hu.2) fun _ v hv => ⟨rfl, hv⟩

theorem Down.released (h : Down s) (hi : Inv s) (k : SockId) (hk : k < s.nextSock) :
    (s.bridge.sock k).releases = 1 := by
  have hnone : ¬ s.unreleased k := by
    intro hlive
    obtain ⟨o, ho⟩ := (hi.owners.live_iff k).mp hlive
    cases o with
    | slot i => exact absurd (ho.symm.trans (h.table i)) (by simp)
    | session x => exact absurd (ho.1.symm.trans (h.sessions x)) (by simp)
    | listener e =>
      obtain ⟨hmem, -, -⟩ := ho
      rw [(hi.ready.dormant h.down).1, h.releasing] at hmem
      simp at hmem
    | accept =>
      have hpub : s.publicSock = some k := ho
      rw [(hi.worker.idle h.thread).2.1] at hpub
      cases hpub
  have hne : (s.bridge.sock k).releases ≠ 0 := fun hz => hnone ⟨hk, hz⟩
  have hle := hi.sockets.once k
  omega

/-! ## Between two requests -/

def Reported (last : Option Response) (s : State) : Prop :=
  ∀ q a, last = some ⟨q, a⟩ → a.status = 0 →
    (q.op = .serviceDrain → s.drainReturned = true) ∧
    (q.op = .serviceStop → s.stopReturned = true) ∧ (q.op = .shutdown → s.allocated = false)

theorem Reported.stable {last : Option Response} (h : Reported last s) (hr : RequestRely s s') :
    Reported last s' := by
  intro q a hlast hzero
  obtain ⟨hdrain, hstop, hdown⟩ := h q a hlast hzero
  exact ⟨fun hop => hr.side ▸ (hdrain hop),
    fun hop => hr.side ▸ (hstop hop),
    fun hop => hr.side ▸ (hdown hop)⟩

theorem Effect.reported (h : Effect q a s t) : Reported (some ⟨q, a⟩) t := by
  rintro q' a' hlast hzero
  cases hlast
  unfold Effect at h
  refine ⟨fun hop => ?_, fun hop => ?_, fun hop => ?_⟩
  · rw [hop] at h
    exact h hzero
  · rw [hop] at h
    exact h hzero
  · rw [hop] at h
    exact h hzero

def ControlAt : ControlPoint → State → Prop
  | .ready last, s => AtRest s.routes s ∧ Reported last s
  | .finished last, s => AtRest s.routes s ∧ Reported last s
  | .down, s => Down s

theorem ControlAt.stable (p : ControlPoint) (h : ControlAt p s) (hr : RequestRely s s') :
    ControlAt p s' := by
  cases p with
  | ready last => exact ⟨(h.1.stable hr).own, h.2.stable hr⟩
  | finished last => exact ⟨(h.1.stable hr).own, h.2.stable hr⟩
  | down => exact Down.stable h hr

theorem controlNext_safe {p : ControlPoint} {g : ControlEvent} {next : Thread ControlPoint}
    (hi : Inv s) (h : ControlAt p s) (hnext : controlNext p g = some next) :
    Safe Inv requestContract ControlAt next s := by
  cases p with
  | ready last =>
    cases g with
    | request q =>
      cases hnext
      refine (controlThread_safe hi h.1).mono fun p t ⟨a, hp, hrest, heffect⟩ => ?_
      rcases hp with rfl | rfl
      · exact ⟨hrest, heffect.reported⟩
      · exact ⟨hrest, heffect.reported⟩
    | lost =>
      cases hnext
      exact h
    | teardown => cases hnext
  | finished last =>
    cases g with
    | teardown =>
      cases hnext
      refine (teardown_safe h.1).mono fun p t ⟨hp, hdown⟩ => ?_
      rw [hp]
      exact hdown
    | request q => cases hnext
    | lost => cases hnext
  | down => cases g <;> cases hnext

end Tcpcc.Runtime

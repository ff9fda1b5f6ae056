import Tcpcc.Bridge.Handles

/-!
# Exactly-once completion

A session is signalled once, when it finishes, and its one completion credit waits for the
operation that reaps it. An operation that did not get the credit has changed nothing, and
one that comes later does get it: all it may have to wait for is the delivery of an event,
which the dispatcher always brings to an end.
-/

namespace Tcpcc.Bridge
open Resumption State

variable {s s' : State} {c c' : Config} {x : SessionId} {ls : List Transition}

/-! ## A session that is gone does not come back -/

def Gone (x : SessionId) (s : State) : Prop := x < s.nextSession ∧ s.allocated x = false

theorem Tenure.gone {live : SessionId → Bool} {op : Op} (h : Tenure live op s s') (hx : Gone x s) :
    Gone x s' := by
  refine ⟨Nat.lt_of_lt_of_le hx.1 h.next_le, ?_⟩
  cases ha : s'.allocated x with
  | false => rfl
  | true =>
    rcases h.survivor ha with ⟨hold, -⟩ | ⟨-, -, -, hnew, -⟩
    · rw [hx.2] at hold
      cases hold
    · exact absurd hnew (Nat.ne_of_lt hx.1)

theorem Gone.of_registry (h : Gone x s) (hr : s'.toRegistry = s.toRegistry) : Gone x s' :=
  ⟨Nat.lt_of_lt_of_eq h.1 (congrArg Registry.nextSession hr).symm,
    hr ▸ h.2⟩

theorem exec_never_reaped {op : Op} (hjoin : ∀ h, op ≠ .join h ∧ op ≠ .joinResult h ∧
    op ≠ .tryJoinResult h) (hstart : ∀ sk, op ≠ .start sk) {moves : List (State × State)}
    {a : Outcome} (h : Prog.Exec op.program moves a) : ∃ ret, a = .value ret := by
  cases op with
  | start sk => exact absurd rfl (hstart sk)
  | join name => exact absurd rfl (hjoin name).1
  | joinResult name => exact absurd rfl (hjoin name).2.1
  | tryJoinResult name => exact absurd rfl (hjoin name).2.2
  | cancelSession name =>
    obtain ⟨_, _, found, -, -, hrest⟩ := Prog.Exec.bind h
    cases found with
    | none =>
      cases hrest
      exact ⟨_, rfl⟩
    | some p =>
      obtain ⟨_, _, ⟨⟩, -, -, hend⟩ := Prog.Exec.bind hrest
      cases hend
      exact ⟨_, rfl⟩
  | cancel =>
    obtain ⟨_, _, sessions, -, -, hrest⟩ := Prog.Exec.bind h
    cases sessions with
    | none =>
      cases hrest
      exact ⟨_, rfl⟩
    | some active =>
      obtain ⟨_, _, ⟨⟩, -, -, hrest⟩ := Prog.Exec.bind hrest
      obtain ⟨_, _, ⟨⟩, -, -, hrest⟩ := Prog.Exec.bind hrest
      obtain ⟨_, _, task, -, -, hend⟩ := Prog.Exec.bind hrest
      cases task with
      | false =>
        cases hend
        exact ⟨_, rfl⟩
      | true =>
        obtain ⟨t, r, -, -, rfl⟩ := Prog.Exec.await hend
        exact ⟨_, rfl⟩
  | setCompletionNotifier n =>
    obtain ⟨t, r, -, -, rfl⟩ := Prog.Exec.await h
    simp only
    split <;> exact ⟨_, rfl⟩
  | clearCompletionNotifier n =>
    obtain ⟨t, r, -, -, rfl⟩ := Prog.Exec.await h
    exact ⟨_, rfl⟩
  | active =>
    obtain ⟨t, r, -, -, rfl⟩ := Prog.Exec.await h
    exact ⟨_, rfl⟩

def NotOf (x : SessionId) (a : Outcome) : Prop :=
  ∀ ret result cleanup, a ≠ .reaped x ret result cleanup

theorem program_not_of (op : Op) (hcalm : Calm s) (hx : s.allocated x = false) :
    Safe Inv operationContract (fun a t => OutcomeOK a t ∧ NotOf x a) op.program s := by
  have hsafe : Safe Inv (controlContract s.allocated op) (fun a t => OutcomeOK a t ∧ NotOf x a)
      op.program s := by
    have hlive : ∀ y, s.allocated y = true → y ≠ x := fun y hy he => by simp [he, hx] at hy
    have hprogram := program_safe op hcalm
    cases op with
    | start sk =>
      refine hprogram.mono fun a t h => ⟨h.1, fun ret result cleanup he => ?_⟩
      subst he
      exact h.2
    | join name =>
      refine hprogram.mono fun a t h => ⟨h.1, fun ret result cleanup he => ?_⟩
      subst he
      exact hlive x h.2 rfl
    | joinResult name =>
      refine hprogram.mono fun a t h => ⟨h.1, fun ret result cleanup he => ?_⟩
      subst he
      exact hlive x h.2 rfl
    | tryJoinResult name =>
      refine hprogram.mono fun a t h => ⟨h.1, fun ret result cleanup he => ?_⟩
      subst he
      exact hlive x h.2.2.2 rfl
    | _ =>
      refine (Prog.Exec.safe (fun moves a => exec_never_reaped (by simp) (by simp)) hprogram).mono
        fun a t h => ⟨h.1.1, fun ret result cleanup he => ?_⟩
      obtain ⟨-, value, rfl⟩ := h
      cases he
  exact Safe.weaken (C := controlContract s.allocated op) (D := operationContract)
    (fun _ _ hr => hr)
    (fun _ _ hg => ⟨_, _, hg⟩) hsafe

theorem gone_compatible (x : SessionId) :
    bridge.Compatible (fun s => Inv s ∧ Gone x s) dispatcherContract operationContract SegmentOK
      (fun a s => OutcomeOK a s ∧ NotOf x a) where
  guarA _ _ _ _ h := h.toControlRely
  guarB _ _ _ _ := fun ⟨_, _, h⟩ => h.toDispatcherRely
  env s e s' hi he := by
    obtain ⟨hinv, hdisp, hctrl⟩ := environment_spec e hi.1 he
    exact ⟨⟨hinv, hi.2.of_registry hctrl.registry⟩, hdisp, hctrl⟩
  stableA a s s' h hr _ := SegmentOK.stable a s s' h hr
  stableB a s s' h hr _ := ⟨OutcomeOK.stable a s s' h.1 hr, h.2⟩
  resumeA a _ p s hp hi h := by
    cases hp
    refine ((dispatcherThread_safe a h).keep (fun s s' _ hG hg => ?_) hi.2).mono fun _ _ h => h.1
    exact hG.of_registry hg.registry
  resumeB a op p s hp hi h := by
    cases hp
    refine ((program_not_of op h.1.calm hi.2.2).keep (fun s s' _ hG hg => ?_) hi.2).mono
      fun _ _ h => h.1
    obtain ⟨_, _, hguar⟩ := hg
    exact hguar.tenure.gone hG

theorem reachable_rest_calm (h : Reachable c) {a : Outcome} (ha : c.right = .ret a) :
    Calm c.state := (reachable_outcome h ha).calm

theorem gone_not_returned (h : Reachable c) {a : Outcome} (ha : c.right = .ret a)
    (hx : Gone x c.state) {op : Op} (hrun : bridge.run c (.resumeRight op :: ls) = some c') :
    ∀ ret result cleanup, c'.right ≠ .ret (.reaped x ret result cleanup) := by
  obtain ⟨hi, hleft, hright⟩ := reachable_sound h
  have hcalm := reachable_rest_calm h ha
  simp only [System.run, System.step, ha, Option.bind_eq_some_iff, Option.map_eq_some_iff] at hrun
  obtain ⟨d, ⟨p, hp, rfl⟩, hrest⟩ := hrun
  cases hp
  have hsound : System.Sound (fun s => Inv s ∧ Gone x s) dispatcherContract operationContract
      SegmentOK (fun a s => OutcomeOK a s ∧ NotOf x a) { c with right := op.program } := by
    refine ⟨⟨hi, hx⟩, ?_, ?_⟩
    · exact (hleft.keep (fun s s' _ hG hg => hG.of_registry hg.registry) hx).mono fun _ _ h => h.1
    · refine ((program_not_of op hcalm hx.2).keep (fun s s' _ hG hg => ?_) hx).mono fun _ _ h => h.1
      obtain ⟨_, _, hguar⟩ := hg
      exact hguar.tenure.gone hG
  have hsound' := bridge.run_preserves (fun _ _ _ hs hstep => (gone_compatible x).step hs hstep) ls
    hsound hrest
  intro ret result cleanup he
  have hlast := hsound'.2.2
  rw [he] at hlast
  exact hlast.2 _ _ _ rfl

/-! ## A session that has finished stays finished -/

structure Onward (s s' : State) : Prop where
  next : s.nextSession ≤ s'.nextSession
  finished : ∀ x, x < s.nextSession → s.finishedNotified x = true → s'.finishedNotified x = true

theorem Onward.of_rely (h : ControlRely s s') : Onward s s' :=
  ⟨Nat.le_of_eq (congrArg Registry.nextSession h.registry).symm, fun x _ => h.finished x⟩

theorem reachable_step (h : Reachable c) {l : Transition} (hs : bridge.step c l = some c') :
    Reachable c' := by
  have hrun : bridge.run c [l] = some c' := by simp [System.run, hs]
  exact h.run (S := bridge) hrun

theorem step_onward (h : Reachable c) {l : Transition} (hs : bridge.step c l = some c') :
    Onward c.state c'.state :=
  System.Sound.transition (R := Onward) (reachable_sound h)
    (fun _ => ⟨Nat.le_refl _, fun _ _ => id⟩)
    (fun _ _ hg => .of_rely hg.toControlRely)
    (fun _ _ ⟨_, _, hg⟩ => ⟨hg.tenure.next_le, fun x hx hf =>
      (hg.finish x (Nat.ne_of_lt hx)).trans hf⟩)
    (fun _ _ _ hi he => .of_rely (environment_spec _ hi he).2.2) hs

theorem run_onward (h : Reachable c) (hrun : bridge.run c ls = some c') :
    Onward c.state c'.state := by
  induction ls generalizing c with
  | nil =>
    rw [bridge.run_nil.mp hrun]
    exact ⟨Nat.le_refl _, fun _ _ => id⟩
  | cons l ls ih =>
    obtain ⟨d, hd, hrest⟩ := bridge.run_cons.mp hrun
    have hfirst := step_onward h hd
    have hlast := ih (reachable_step h hd) hrest
    exact ⟨Nat.le_trans hfirst.next hlast.next, fun x hx hf =>
      hlast.finished x (Nat.lt_of_lt_of_le hx hfirst.next) (hfirst.finished x hx hf)⟩

theorem finished_seen (hi : Inv s) (hx : s.finishedNotified x = true) : x < s.nextSession := by
  by_contra hge
  have := (hi.once.fresh x (Nat.le_of_not_lt hge)).2
  rw [hx] at this
  cases this

theorem finished_buffer (hi : Inv s) (hx : s.finishedNotified x = true) (d : Dir) :
    (s.flow x d).buffer = none := by
  cases hb : (s.flow x d).buffer with
  | none => rfl
  | some data =>
    have hrun := hi.holders.buffer x d (by rw [hb]; rfl)
    have := (hi.phase.isRunning x hrun).2.2
    rw [hx] at this
    cases this

/-! ## A join that fails changes nothing -/

def Op.joins (op : Op) (name : ℤ) : Prop :=
  op = .join name ∨ op = .joinResult name ∨ op = .tryJoinResult name

theorem reap_exec {ret : ℤ → ℤ} {moves : List (State × State)} {a : Outcome}
    (h : Prog.Exec (reap x ret) moves a) :
    ∃ result cleanup, a = .reaped x (ret result.status) result cleanup := by
  obtain ⟨_, _, ⟨cleanup, busy⟩, -, -, h⟩ := Prog.Exec.bind h
  obtain ⟨_, _, ⟨⟩, -, -, h⟩ := Prog.Exec.bind h
  obtain ⟨_, _, closed, -, -, h⟩ := Prog.Exec.bind h
  obtain ⟨_, _, ⟨⟩, -, -, h⟩ := Prog.Exec.bind h
  obtain ⟨t, r, -, -, rfl⟩ := Prog.Exec.await h
  exact ⟨_, _, rfl⟩

theorem joinCommon_exec {name ret : ℤ} {returnStatus : Bool} {moves : List (State × State)}
    (h : Prog.Exec (joinCommon name returnStatus) moves (.value ret)) :
    ∀ m ∈ moves, m.2 = m.1 := by
  obtain ⟨first, rest, found, rfl, hfirst, hrest⟩ := Prog.Exec.bind h
  obtain ⟨t, r, -, rfl, rfl⟩ := Prog.Exec.await hfirst
  simp only [List.cons_append, List.nil_append, List.mem_cons, forall_eq_or_imp, true_and]
  cases hfind : findHandle name t with
  | none =>
    rw [hfind] at hrest
    cases hrest
    simp
  | some x =>
    rw [hfind] at hrest
    obtain ⟨second, rest, done, rfl, hsecond, hrest⟩ := Prog.Exec.bind hrest
    obtain ⟨u, r', -, rfl, rfl⟩ := Prog.Exec.await hsecond
    by_cases hf : u.finished x ≠ 0
    · rw [if_pos hf, if_pos rfl] at hrest
      obtain ⟨_, _, he⟩ := reap_exec hrest
      cases he
    · rw [if_neg hf] at hrest ⊢
      cases hrest
      simp

theorem tryJoinResult_exec {name ret : ℤ} {moves : List (State × State)}
    (h : Prog.Exec (tryJoinResult name) moves (.value ret)) : ∀ m ∈ moves, m.2 = m.1 := by
  obtain ⟨first, rest, found, rfl, hfirst, hrest⟩ := Prog.Exec.bind h
  obtain ⟨t, r, -, rfl, rfl⟩ := Prog.Exec.await hfirst
  cases hfind : findHandle name t with
  | none =>
    simp only [tryFinished, hfind] at hrest ⊢
    cases hrest
    simp
  | some x =>
    by_cases hf : t.finished x = 0
    · simp only [tryFinished, hfind, if_pos hf] at hrest ⊢
      cases hrest
      simp
    · simp only [tryFinished, hfind, if_neg hf] at hrest
      obtain ⟨_, _, he⟩ := reap_exec hrest
      cases he

theorem join_exec {op : Op} {name ret : ℤ} (hop : op.joins name) {moves : List (State × State)}
    (h : Prog.Exec op.program moves (.value ret)) : ∀ m ∈ moves, m.2 = m.1 := by
  rcases hop with rfl | rfl | rfl
  · exact joinCommon_exec h
  · exact joinCommon_exec h
  · exact tryJoinResult_exec h

theorem step_other (h : Reachable c) {l : Transition} (hl : ∀ i, l ≠ .right i)
    (hs : bridge.step c l = some c') :
    (∃ e, l = .env e ∧ environment c.state e = some c'.state) ∨
      DispatcherGuar c.state c'.state := by
  obtain ⟨hi, hleft, -⟩ := reachable_sound h
  cases bridge.moved_of_step hs with
  | env he => exact .inl ⟨_, rfl, he⟩
  | left hp hready =>
    rw [hp] at hleft
    exact .inr (hleft c.state (dispatcherContract.refl _) hi _ hready).2.1
  | right => exact absurd rfl (hl _)
  | resumeLeft | resumeRight => exact .inr (DispatcherGuar.refl _)

theorem step_registry (h : Reachable c) {l : Transition} (hl : ∀ i, l ≠ .right i)
    (hs : bridge.step c l = some c') : c'.state.toRegistry = c.state.toRegistry := by
  rcases step_other h hl hs with ⟨e, -, he⟩ | hguar
  · exact (environment_spec e (reachable_inv h) he).2.2.registry
  · exact hguar.registry

theorem run_registry (h : Reachable c)
    (hright : ∀ m ∈ bridge.rightMoves c ls, m.2.toRegistry = m.1.toRegistry)
    (hrun : bridge.run c ls = some c') : c'.state.toRegistry = c.state.toRegistry :=
  System.run_moves (R := fun s s' => s'.toRegistry = s.toRegistry) (P := Reachable) (fun _ => rfl)
    (fun a b d (hfirst : b.toRegistry = a.toRegistry) (hlast : d.toRegistry = b.toRegistry) =>
      hlast.trans hfirst) (fun _ _ _ hc hs => reachable_step hc hs)
    (fun _ _ _ hc hl hs => step_registry hc hl hs) h hright hrun

theorem call_split {op : Op} (hrun : bridge.run c (.resumeRight op :: ls) = some c') :
    (∃ a, c.right = .ret a) ∧ bridge.run { c with right := op.program } ls = some c' := by
  obtain ⟨d, hd, hrest⟩ := bridge.run_cons.mp hrun
  cases bridge.moved_of_step hd with
  | resumeRight hp hg =>
    cases hg
    exact ⟨⟨_, hp⟩, hrest⟩

theorem reachable_call (h : Reachable c) {a : Outcome} (ha : c.right = .ret a) (op : Op) :
    Reachable { c with right := op.program } :=
  reachable_step h (l := .resumeRight op) (by simp [System.step, ha, bridge])

theorem failed_join_inert (h : Reachable c) {op : Op} {name ret : ℤ} (hop : op.joins name)
    (hcalls : ∀ l ∈ ls, l.callsRight = false)
    (hrun : bridge.run c (.resumeRight op :: ls) = some c') (hret : c'.right = .ret (.value ret)) :
    (∀ m ∈ bridge.rightMoves { c with right := op.program } ls, m.2 = m.1) ∧
      c'.state.toRegistry = c.state.toRegistry := by
  obtain ⟨⟨a, ha⟩, hrest⟩ := call_split hrun
  have hcall := reachable_call h ha op
  have hmoves := join_exec hop (System.exec_right hcalls hrest hret)
  refine ⟨hmoves, ?_⟩
  exact run_registry (c := { c with right := op.program }) hcall
    (fun m hm => by rw [hmoves m hm]) hrest

/-! ## The delivery of an event comes to an end -/

def deliverRest (x : SessionId) (first : Bool) : Thread Segment := do
  abortSocket x first
  Prog.block fun s _ => (.drain, eventPut x (queueSession x s))

def Hears (x : SessionId) (s : State) : Prop := s.dispatching = some x ∧ s.connecting x = false

theorem Hears.stable (h : Hears x s) (hr : DispatcherRely s s') : Hears x s' :=
  ⟨hr.dispatching.trans h.1, hr.connected x h.1 h.2⟩

def Settling : Thread Segment → Prop
  | .ret _ => True
  | .act ready run next => ∀ s i, ready s i = true →
      ((run s i).dispatching = s.dispatching ∨ (run s i).dispatching = none ∨
        ∃ x first, next s i = deliverRest x first ∧ Hears x (run s i)) ∧ Settling (next s i)

def SameDispatching (s s' : State) : Prop := s'.dispatching = s.dispatching

theorem Settling.bind {α : Type} {p : Thread α} {k : α → Thread Segment}
    (h : Prog.Obeys SameDispatching p) (hk : ∀ a, Settling (k a)) : Settling (p >>= k) := by
  induction p with
  | ret a => exact hk a
  | act ready run next ih =>
    intro s i hready
    obtain ⟨hmove, hnext⟩ := h s i hready
    exact ⟨.inl hmove, ih s i hnext⟩

theorem Settling.await {ready : State → Reply → Bool} {f : State → Reply → Segment × State}
    (h : ∀ s r, (f s r).2.dispatching = s.dispatching) : Settling (Prog.await ready f) :=
  fun s r _ => ⟨.inl (h s r), trivial⟩

theorem wakeBufferWaiters_dispatching (s : State) :
    (wakeBufferWaiters s).dispatching = s.dispatching := by
  unfold wakeBufferWaiters
  generalize s.bufferWaiters = l
  induction l generalizing s with
  | nil => rfl
  | cons y l ih =>
    rw [List.foldl_cons, ih]
    rfl

theorem releaseBuffer_dispatching (d : Dir) (s : State) :
    (releaseBuffer x d s).dispatching = s.dispatching := by
  unfold releaseBuffer
  split
  · rw [wakeBufferWaiters_dispatching]
    rfl
  · rfl

theorem sessionFinish_dispatching (s : State) :
    (sessionFinish x s).dispatching = s.dispatching := by
  unfold sessionFinish
  split
  · show (releaseSessionBuffers x (markFinished x s)).dispatching = s.dispatching
    unfold releaseSessionBuffers
    rw [releaseBuffer_dispatching, releaseBuffer_dispatching]
    rfl
  · rfl

theorem sessionStop_dispatching (status : ℤ) (s : State) :
    (sessionStop x status s).2.dispatching = s.dispatching := by
  unfold sessionStop
  split
  · split <;> rfl
  · rfl

theorem abortSocket_moves (first : Bool) : Prog.Obeys SameDispatching (abortSocket x first) := by
  unfold abortSocket
  split
  · refine Prog.Obeys.block fun s _ => ?_
    simp only
    split <;> rfl
  · exact trivial

theorem pumpLeave_moves (left : ℕ) : Prog.Obeys SameDispatching (pumpLeave x left) := by
  unfold pumpLeave
  split
  · exact Prog.Obeys.block fun _ _ => rfl
  · exact trivial

theorem pumpReceive_moves (d : Dir) (left : ℕ) {again : Thread ℤ}
    (h : Prog.Obeys SameDispatching again) :
    Prog.Obeys SameDispatching (pumpReceive d x left again) := by
  refine Prog.Obeys.bind (Prog.Obeys.await fun s r => ?_) fun call => ?_
  · show (pumpRecv d x s r).2.dispatching = s.dispatching
    unfold pumpRecv
    split
    · rw [releaseBuffer_dispatching]
      cases d <;> rfl
    · split
      · rfl
      · split
        · exact releaseBuffer_dispatching d s
        · rfl
  · cases call with
    | again => exact pumpLeave_moves left
    | fail status => exact trivial
    | moved => exact h
    | eof =>
      refine Prog.Obeys.bind (Prog.Obeys.await fun s r => rfl) fun status => ?_
      split
      · exact pumpLeave_moves left
      · exact trivial

theorem pumpHead_dispatching (d : Dir) (s : State) :
    (pumpHead d x s).2.dispatching = s.dispatching := by
  unfold pumpHead
  simp only
  split
  · rfl
  · split
    · rfl
    · split
      · rfl
      · split
        · split <;> rfl
        · rfl

theorem pumpDirection_moves (d : Dir) (left : ℕ) :
    Prog.Obeys SameDispatching (pumpDirection d x left) := by
  induction left with
  | zero => exact pumpLeave_moves 0
  | succ left ih =>
    refine Prog.Obeys.bind (Prog.Obeys.block fun s _ => pumpHead_dispatching d s) fun head => ?_
    cases head with
    | leave => exact trivial
    | recv => exact pumpReceive_moves d left ih
    | send =>
      refine Prog.Obeys.bind (Prog.Obeys.await fun s r => ?_) fun call => ?_
      · show (pumpSend d x s r).2.dispatching = s.dispatching
        unfold pumpSend
        split
        · cases d <;> rfl
        · split
          · rfl
          · split
            · rfl
            · cases d <;> rfl
      · cases call with
        | again => exact pumpLeave_moves left
        | fail status => exact trivial
        | eof => exact trivial
        | moved => exact ih
    | allocate =>
      refine Prog.Obeys.bind (Prog.Obeys.block fun s r => ?_) fun ok => ?_
      · show (pumpAllocate d x s r).2.dispatching = s.dispatching
        unfold pumpAllocate
        split <;> rfl
      · cases ok with
        | false => exact trivial
        | true => exact pumpReceive_moves d left ih

theorem pumpSession_moves : Prog.Obeys SameDispatching (pumpSession x) := by
  refine Prog.Obeys.bind (Prog.Obeys.bind (pumpDirection_moves _ _) fun status => ?_)
    fun status => ?_
  · split
    · exact pumpDirection_moves _ _
    · exact trivial
  · unfold pumpDone
    split
    · refine Prog.Obeys.block fun s _ => ?_
      show (pumpExit x s).dispatching = s.dispatching
      unfold pumpExit
      simp only
      split
      · exact sessionFinish_dispatching s
      · rfl
    · refine Prog.Obeys.bind (Prog.Obeys.block fun s _ => sessionStop_dispatching status s)
        fun first => Prog.Obeys.bind (abortSocket_moves first) fun _ => ?_
      exact Prog.Obeys.block fun s _ => sessionFinish_dispatching s

theorem pumpEntry_dispatching (s : State) : (pumpEntry s).2.dispatching = s.dispatching := by
  unfold pumpEntry takeReady
  cases s.ready with
  | nil => rfl
  | cons y rest =>
    simp only
    split
    · rfl
    · split
      · rw [sessionFinish_dispatching]
      · rfl

theorem dispatchEvent_dispatching (e : HostEvent) (error : ℤ) (s : State) :
    (dispatchEvent e error s).2.dispatching = s.dispatching ∨
      (dispatchEvent e error s).2.dispatching = none ∨
      ∃ p, (dispatchEvent e error s).1 = some p ∧ Hears p.1 (dispatchEvent e error s).2 := by
  unfold dispatchEvent
  cases eventSession e s with
  | none => exact .inl rfl
  | some x =>
    simp only
    split
    · exact .inr (.inl rfl)
    · rename_i hconn
      split
      · refine .inr (.inr ⟨_, rfl, sessionStop_dispatching _ _, ?_⟩)
        rw [congrArg Registry.connecting (sessionStop_registry ..)]
        exact Bool.eq_false_of_not_eq_true hconn
      · exact .inr (.inl rfl)

theorem deliverRest_settling (first : Bool) : Settling (deliverRest x first) :=
  Settling.bind (abortSocket_moves first) fun _ _ _ _ => ⟨.inr (.inl rfl), trivial⟩

theorem runtimeEventPoll_dispatching (s : State) :
    (runtimeEventPoll s).2.dispatching = s.dispatching := by
  unfold runtimeEventPoll
  split
  · rfl
  · cases s.runtimeQueue <;> rfl

theorem drainHostEvent_dispatching (s : State) (r : Reply) :
    (drainHostEvent s r).2.dispatching = s.dispatching ∨
      (drainHostEvent s r).2.dispatching = none ∨
      ∃ p, (drainHostEvent s r).1 = .handled (some p) ∧ Hears p.1 (drainHostEvent s r).2 := by
  have ht := runtimeEventPoll_dispatching s
  unfold drainHostEvent
  generalize runtimeEventPoll s = polled at ht
  obtain ⟨poll, t⟩ := polled
  cases poll with
  | empty => exact .inl ht
  | error status => exact .inl ht
  | event e =>
    rcases dispatchEvent_dispatching e r.ret t with h | h | ⟨p, hp, hears⟩
    · exact .inl (h.trans ht)
    · exact .inr (.inl h)
    · exact .inr (.inr ⟨p, by simp only [hp], hears⟩)

def drainNext : Drained → Thread Segment
  | .empty => pure (.ready 0)
  | .failed status => pure (.abort 0 status)
  | .handled none => pure .drain
  | .handled (some (x, first)) => deliverRest x first

theorem drainNext_settling (drained : Drained) : Settling (drainNext drained) := by
  cases drained with
  | empty => exact trivial
  | failed status => exact trivial
  | handled after =>
    cases after with
    | none => exact trivial
    | some p => exact deliverRest_settling p.2

theorem drain_settling : Settling (dispatcherThread .drain) := by
  have hdrain : dispatcherThread .drain =
      Prog.await (fun _ r => r.status) drainHostEvent >>= drainNext := by
    unfold dispatcherThread
    congr 1
  rw [hdrain]
  intro s r _
  refine ⟨?_, drainNext_settling _⟩
  rcases drainHostEvent_dispatching s r with h | h | ⟨⟨x, first⟩, hp, hears⟩
  · exact .inl h
  · exact .inr (.inl h)
  · refine .inr (.inr ⟨x, first, ?_, hears⟩)
    show drainNext (drainHostEvent s r).1 = deliverRest x first
    rw [hp]
    rfl

theorem dispatcherThread_settling (seg : Segment) : Settling (dispatcherThread seg) := by
  cases seg with
  | absent =>
    refine Settling.await fun s _ => ?_
    split <;> rfl
  | idle =>
    refine Settling.await fun s _ => ?_
    simp only
    split <;> rfl
  | drain => exact drain_settling
  | ready dispatched =>
    by_cases hd : dispatched < dispatchBudget
    · simp only [dispatcherThread, if_pos hd]
      refine Settling.bind (Prog.Obeys.block fun s _ => pumpEntry_dispatching s) fun entry => ?_
      cases entry with
      | empty | skip => exact trivial
      | pump y => exact Settling.bind pumpSession_moves fun _ => trivial
    · simp only [dispatcherThread, if_neg hd]
      exact Settling.await fun _ _ => rfl
  | abort id status =>
    refine Settling.bind (Prog.Obeys.block fun s _ => ?_) fun found => ?_
    · show (abortNext id status s).2.dispatching = s.dispatching
      unfold abortNext
      simp only
      split
      · split
        · rfl
        · exact sessionStop_dispatching status s
      · rfl
    · cases found with
      | none => exact trivial
      | some p =>
        obtain ⟨slot, session⟩ := p
        cases session with
        | none => exact trivial
        | some q =>
          obtain ⟨y, connecting, first⟩ := q
          refine Settling.bind (abortSocket_moves first) fun _ => ?_
          split
          · exact trivial
          · exact Settling.await fun s _ => sessionFinish_dispatching s

structure OnDelivery (c : Config) : Prop where
  settling : Settling c.left
  rest : c.state.dispatching = none ∨ ∃ x first, c.left = deliverRest x first ∧ Hears x c.state

theorem OnDelivery.left {i : Reply} (h : OnDelivery c) (hs : bridge.step c (.left i) = some c') :
    OnDelivery c' := by
  cases bridge.moved_of_step hs with
  | left hp hready =>
    have hsettling := h.settling
    rw [hp] at hsettling
    obtain ⟨hmove, hnext⟩ := hsettling c.state i hready
    refine ⟨hnext, ?_⟩
    rcases h.rest with hnone | ⟨x, first, hrest, hears⟩
    · rcases hmove with hsame | hnone' | hdeliver
      · exact .inl (hsame.trans hnone)
      · exact .inl hnone'
      · exact .inr hdeliver
    · rw [hp] at hrest
      cases first with
      | false =>
        cases hrest
        exact .inl rfl
      | true =>
        cases hrest
        refine .inr ⟨x, false, rfl, ?_⟩
        dsimp only
        split
        · exact hears
        · exact hears

theorem OnDelivery.step (hc : Reachable c) (h : OnDelivery c) {l : Transition}
    (hs : bridge.step c l = some c') : OnDelivery c' := by
  obtain ⟨hi, -, hright⟩ := reachable_sound hc
  have hkept : ∀ {s'}, DispatcherRely c.state s' →
      s'.dispatching = none ∨ ∃ x first, c.left = deliverRest x first ∧ Hears x s' := by
    intro s' hrely
    refine h.rest.imp hrely.dispatching.trans ?_
    rintro ⟨x, first, hrest, hears⟩
    exact ⟨x, first, hrest, hears.stable hrely⟩
  cases bridge.moved_of_step hs with
  | env he => exact ⟨h.settling, hkept (environment_spec _ hi he).2.1⟩
  | left => exact h.left hs
  | right hp hready =>
    rw [hp] at hright
    obtain ⟨_, _, hguar⟩ := (hright c.state (operationContract.refl _) hi _ hready).2.1
    exact ⟨h.settling, hkept hguar.toDispatcherRely⟩
  | resumeLeft hp hg =>
    cases hg
    refine ⟨dispatcherThread_settling _, h.rest.imp_right ?_⟩
    rintro ⟨x, first, hrest, -⟩
    rw [hp] at hrest
    cases first <;> cases hrest
  | resumeRight => exact ⟨h.settling, h.rest⟩

theorem reachable_onDelivery (h : Reachable c) : OnDelivery c := by
  have hboth : Reachable c ∧ OnDelivery c :=
    h.induct bridge (P := fun c => Reachable c ∧ OnDelivery c)
      ⟨⟨[], rfl⟩, trivial, .inl rfl⟩ fun d l d' hd hs =>
        ⟨reachable_step hd.1 hs, hd.2.step hd.1 hs⟩
  exact hboth.2

theorem reachable_unheard (h : Reachable c) (x : SessionId) (hx : c.state.connecting x = true) :
    c.state.eventRefs x = 0 := by
  rw [(reachable_inv h).refs.refs x]
  rcases (reachable_onDelivery h).rest with hnone | ⟨y, first, -, hears⟩
  · simp [hnone]
  · have hne : y ≠ x := fun he => by
      rw [he] at hears
      rw [hears.2] at hx
      cases hx
    simp [hears.1, hne]

theorem delivery_ends (h : Reachable c) : ∃ ls c', bridge.run c ls = some c' ∧
    (∀ l ∈ ls, ∃ i, l = Label.left i) ∧ c'.right = c.right ∧ c'.state.dispatching = none := by
  rcases (reachable_onDelivery h).rest with hnone | ⟨x, first, hrest, -⟩
  · exact ⟨[], c, rfl, by simp, rfl, hnone⟩
  · cases first with
    | false =>
      refine ⟨[.left {}], { c with
        state := eventPut x (queueSession x c.state), left := .ret .drain }, ?_, by simp, rfl, rfl⟩
      simp only [System.run, System.step, hrest]
      rfl
    | true =>
      obtain ⟨t, hrun⟩ : ∃ t, bridge.run c [.left {}, .left {}] = some { c with
          state := eventPut x (queueSession x t), left := .ret .drain } := by
        simp only [System.run, System.step, hrest]
        exact ⟨_, rfl⟩
      exact ⟨_, _, hrun, by simp, rfl, rfl⟩

/-! ## A later join returns the result -/

theorem reap_alone (ret : ℤ → ℤ) (h : s.eventRefs x = 0) :
    ∃ value result cleanup t, Prog.Alone (reap x ret) s (.reaped x value result cleanup) t := by
  have hidle : (disableEvents x s {}).1.2 = false := by simp [disableEvents, h]
  obtain ⟨a, t, halone⟩ : ∃ a t, Prog.Alone (reap x ret) s a t := by
    refine Prog.Alone.exists_bind (Prog.Alone.await {} rfl) ?_
    generalize disableEvents x s {} = answer at hidle
    obtain ⟨⟨cleanup, busy⟩, t⟩ := answer
    have hbusy : busy = false := hidle
    subst hbusy
    exact Prog.Alone.exists_bind (.ret () t) (Prog.Alone.exists_bind (Prog.Alone.await {} rfl)
      (Prog.Alone.exists_bind (Prog.Alone.block {}) ⟨_, _, Prog.Alone.block {}⟩))
  obtain ⟨moves, hexec⟩ := halone.exec
  obtain ⟨result, cleanup, rfl⟩ := reap_exec hexec
  exact ⟨_, result, cleanup, t, halone⟩

theorem join_alone (hi : Inv s) (hx : s.allocated x = true) (hcredit : s.finished x ≠ 0)
    (hidle : s.eventRefs x = 0) {op : Op} (hop : op.joins (s.handle x)) :
    ∃ value result cleanup t, Prog.Alone op.program s (.reaped x value result cleanup) t := by
  have hfind := findHandle_handle hi hx
  have hjoin : ∀ b, ∃ value result cleanup t,
      Prog.Alone (joinCommon (s.handle x) b) s (.reaped x value result cleanup) t := by
    intro b
    obtain ⟨value, result, cleanup, t, halone⟩ := reap_alone (s := takeFinished x s) (x := x)
      (fun status => if b then status else 0) hidle
    refine ⟨value, result, cleanup, t, Prog.Alone.bind (Prog.Alone.block {}) ?_⟩
    simp only [hfind]
    refine Prog.Alone.bind (Prog.Alone.await {} (by simp [hcredit])) ?_
    simp only [if_pos hcredit, if_true]
    exact halone
  rcases hop with rfl | rfl | rfl
  · exact hjoin true
  · exact hjoin false
  · obtain ⟨value, result, cleanup, t, halone⟩ := reap_alone (s := takeFinished x s) (x := x)
      (fun _ => 0) hidle
    refine ⟨value, result, cleanup, t, Prog.Alone.bind (Prog.Alone.block {}) ?_⟩
    simp only [tryFinished, hfind, if_neg hcredit]
    exact halone

theorem finished_joinable (h : Reachable c) {a : Outcome} (ha : c.right = .ret a)
    (hx : c.state.allocated x = true) (hf : c.state.finishedNotified x = true) {op : Op}
    (hop : op.joins (c.state.handle x)) :
    ∃ ls c', bridge.run c (.resumeRight op :: ls) = some c' ∧
      (∀ l ∈ ls, l.callsRight = false) ∧
      ∃ value result cleanup, c'.right = .ret (.reaped x value result cleanup) := by
  have hcall := reachable_call h ha op
  obtain ⟨ls₁, d, hrun₁, hleft, hright, hnone⟩ := delivery_ends hcall
  have hd := hcall.run (S := bridge) hrun₁
  have hothers : ∀ l ∈ ls₁, ∀ i, l ≠ .right i := by
    intro l hl i he
    obtain ⟨j, rfl⟩ := hleft l hl
    cases he
  have hreg : d.state.toRegistry = c.state.toRegistry :=
    run_registry (c := { c with right := op.program }) hcall
      (by rw [System.rightMoves_eq_nil bridge hothers]; simp) hrun₁
  have hi := reachable_inv hd
  have hx' : d.state.allocated x = true := hreg ▸ hx
  have hf' : d.state.finishedNotified x = true :=
    (run_onward hcall hrun₁).finished x (finished_seen (reachable_inv hcall) hf) hf
  have huntaken : d.state.reaping = none := hreg ▸ (reachable_rest_calm h ha).noReap.reaping
  have hcredit : d.state.finished x ≠ 0 := by
    rw [hi.once.credit x hx' hf', huntaken]
    simp
  have hidle : d.state.eventRefs x = 0 := by simp [hi.refs.refs x, hnone]
  rw [← congrFun (congrArg Registry.handle hreg) x] at hop
  obtain ⟨value, result, cleanup, t, halone⟩ := join_alone hi hx' hcredit hidle hop
  have hprogram : Prog.Alone d.right d.state (.reaped x value result cleanup) t := by
    rw [hright]
    exact halone
  obtain ⟨ls₂, hls₂, hrun₂⟩ := System.run_of_alone (S := bridge) hprogram
  refine ⟨ls₁ ++ ls₂, { d with state := t, right := .ret (.reaped x value result cleanup) }, ?_,
    fun l hl => ?_, value, result, cleanup, rfl⟩
  · have hstep : bridge.step c (.resumeRight op) = some { c with right := op.program } := by
      simp [System.step, ha, bridge]
    simp only [System.run, hstep, Option.bind_some, System.run_append, hrun₁]
    exact hrun₂
  · rcases List.mem_append.mp hl with hl | hl
    · obtain ⟨i, rfl⟩ := hleft l hl
      rfl
    · obtain ⟨i, rfl⟩ := hls₂ l hl
      rfl

/-- A session is signalled once and its notifier called once, when it finishes, and from then
on it holds no buffer. Its result is returned at most once, and by no call that begins when it
is gone; a join that returns an error changes nothing and leaves the session to be joined, and
the wait in `tcpcc_bridge_cancel` is for a credit that nobody has taken. -/
theorem reachable_completion (h : Reachable c) :
    (∀ x, c.state.signals x = (if c.state.finishedNotified x then 1 else 0) ∧
      c.state.notices x = (if c.state.finishedNotified x && c.state.armed x then 1 else 0)) ∧
    (∀ x ls c', c.state.finishedNotified x = true → bridge.run c ls = some c' →
      c'.state.finishedNotified x = true ∧ ∀ d, (c'.state.flow x d).buffer = none) ∧
    (∀ x, c.state.reaps x ≤ 1) ∧
    (∀ x ret result cleanup, c.right = .ret (.reaped x ret result cleanup) →
      Gone x c.state ∧ c.state.reaps x = 1) ∧
    (∀ x op ls c', Gone x c.state → bridge.run c (.resumeRight op :: ls) = some c' →
      ∀ ret result cleanup, c'.right ≠ .ret (.reaped x ret result cleanup)) ∧
    (∀ op name ls c' ret, op.joins name → (∀ l ∈ ls, l.callsRight = false) →
      bridge.run c (.resumeRight op :: ls) = some c' → c'.right = .ret (.value ret) →
      (∀ m ∈ bridge.rightMoves { c with right := op.program } ls, m.2 = m.1) ∧
      ∀ x, findHandle name c.state = some x → findHandle name c'.state = some x ∧
        (c'.state.finishedNotified x = true → ∀ op', op'.joins name → ∃ ls' c'',
          bridge.run c' (.resumeRight op' :: ls') = some c'' ∧
          ∃ value result cleanup, c''.right = .ret (.reaped x value result cleanup))) ∧
    (∀ x, c.state.cancelWait = some x → c.state.allocated x = true ∧ c.state.reaps x = 0 ∧
      (c.state.finishedNotified x = true → c.state.finished x ≠ 0)) := by
  have hi := reachable_inv h
  refine ⟨fun x => ⟨hi.once.signalled x, hi.once.noticed x⟩, ?_, hi.once.reaped, ?_, ?_, ?_, ?_⟩
  · intro x ls c' hf hrun
    have hf' := (run_onward h hrun).finished x (finished_seen hi hf) hf
    exact ⟨hf', finished_buffer (reachable_inv (h.run (S := bridge) hrun)) hf'⟩
  · intro x ret result cleanup hret
    have hreaped := (reachable_outcome h hret).2
    exact ⟨⟨finished_seen hi hreaped.finished, hreaped.gone⟩, hreaped.reaps⟩
  · intro x op ls c' hgone hrun
    obtain ⟨⟨a, ha⟩, -⟩ := call_split hrun
    exact gone_not_returned h ha hgone hrun
  · intro op name ls c' ret hop hcalls hrun hret
    obtain ⟨hmoves, hreg⟩ := failed_join_inert h hop hcalls hrun hret
    refine ⟨hmoves, fun x hx => ?_⟩
    have hc' := h.run (S := bridge) hrun
    obtain ⟨ha, hname⟩ := findHandle_some hx
    have ha' : c'.state.allocated x = true := hreg ▸ ha
    have hname' : c'.state.handle x = name := hreg ▸ hname
    refine ⟨(findHandle_iff (reachable_inv hc') name).mpr ⟨ha', hname'⟩, fun hf op' hop' => ?_⟩
    rw [← hname'] at hop'
    obtain ⟨ls', c'', hrun', -, hlast⟩ := finished_joinable hc' hret ha' hf hop'
    exact ⟨ls', c'', hrun', hlast⟩
  · intro x hx
    obtain ⟨ha, huntaken⟩ := hi.once.waiting x hx
    refine ⟨ha, hi.once.unreaped x ha, fun hf => ?_⟩
    rw [hi.once.credit x ha hf, huntaken]
    simp

theorem completion_early_join :
    findHandle 1048577 (configAfter (startRun ++
      [.resumeRight (.tryJoinResult 1048577), controlStep 0])).state = some 0 :=
  (((reachable_completion (reachable_configAfter startRun)).2.2.2.2.2.1 (.tryJoinResult 1048577)
    1048577 [controlStep 0] _ (-EAGAIN) (.inr (.inr rfl)) (by decide)
    (run_configAfter (by decide +kernel)) (right_of_returned (by decide +kernel))).2 0
    (by decide +kernel)).1

end Tcpcc.Bridge

import Tcpcc.Runtime.Guarantees

/-!
# Starts that fail

A `SERVICE_START` that fails leaves its socket in the control table as it was, and whatever
service there was: the steps of the call itself touch nothing of a running service but the list
of its listeners, from which the new entry is gone at the end; without a service, everything a
start sets up is taken back. What it may leave behind is a connection that was cloned from the
listener while its callback was installed, and that refers to the entry.
-/

namespace Tcpcc.Runtime
open Resumption State
open Bridge (SockId SessionId)

variable {c d : Config} {s s' t : State} {q : Request} {a : Answer}

/-! ## What a failing call does to a running service -/

structure Steady (s s' : State) : Prop where
  work : s'.toWorkerSide = s.toWorkerSide
  common : s'.toCommon = s.toCommon
  allocated : s'.allocated = s.allocated
  stopping : s'.stopping = s.stopping
  task : s'.task = s.task
  maxConnections : s'.maxConnections = s.maxConnections
  acceptBatch : s'.acceptBatch = s.acceptBatch

theorem Steady.refl (s : State) : Steady s s := ⟨rfl, rfl, rfl, rfl, rfl, rfl, rfl⟩

theorem refuseListener_steady (sk : SockId) (config : ServiceConfig) (hi : Inv s) :
    Steady s (unhookListener s.nextListener (linkListener sk config s).2) := by
  have hfresh : s.readyQueued s.nextListener = false := by
    by_contra hqueued
    have hlisted := (hi.ready.queued s.nextListener (by simpa using hqueued)).1
    exact Nat.lt_irrefl _ (hi.listeners.known _ (List.mem_append_left _ hlisted)).1
  have hflag : Function.update s.readyQueued s.nextListener false = s.readyQueued := by
    rw [← hfresh, Function.update_eq_self]
  have hinstalled : (linkListener sk config s).2.callbackInstalled s.nextListener = false :=
    Function.update_self ..
  have hcommon : ∀ list flag bridge, list = s.readyList → flag = s.readyQueued →
      bridge = s.bridge → { s.toCommon with
        readyList := list, readyQueued := flag, bridge := bridge } = s.toCommon := by
    rintro list flag bridge rfl rfl rfl
    rfl
  obtain ⟨b, heq, -⟩ := unhookListener_eq (linkListener sk config s).2 s.nextListener
  have hbridge : b = s.bridge := by
    have hoff := unhookListener_off hinstalled
    rw [heq] at hoff
    exact hoff
  have hqueued : (linkListener sk config s).2.readyQueued s.nextListener = false :=
    Function.update_self ..
  rw [heq]
  refine ⟨rfl, hcommon _ _ _ ?_ ?_ hbridge, rfl, rfl, rfl, rfl, rfl⟩
  · rw [hqueued]
    rfl
  · show Function.update (Function.update s.readyQueued s.nextListener false) _ false = _
    rw [hflag, hflag]

def Refused (s : State) : Link → State → Prop
  | .answer ret, t => ret = 0 ∨ t = s
  | .first _, _ => False
  | .busy _ _, t => Steady s t

theorem beginStart_refused (sk : SockId) (config : ServiceConfig) (done : State → State)
    (r : Reply) (hi : Inv s) (hserves : s.allocated = true) :
    Refused s (beginStart sk config done s r).1 (beginStart sk config done s r).2 := by
  unfold beginStart
  split_ifs with hmem hdown hbusy hpolicy hfull
  · exact .inr rfl
  · simp [hserves] at hdown
  · exact .inr rfl
  · exact .inr rfl
  · exact .inr rfl
  · by_cases hnull : (s.bridge.sock sk).userData = .null
    case neg =>
      have hbusy' := installListenerCallback_busy (s := (linkListener sk config s).2)
        (e := s.nextListener) (by rw [linkListener_sock]; exact hnull)
      simp only [show (linkListener sk config s).1 = s.nextListener from rfl, hbusy']
      exact refuseListener_steady sk config hi
    case pos =>
      have hok : (installListenerCallback s.nextListener (linkListener sk config s).2).1 = 0 := by
        rw [installListenerCallback_ok (by rw [linkListener_sock]; exact hnull)]
      simp only [show (linkListener sk config s).1 = s.nextListener from rfl, hok]
      exact .inl rfl

theorem serviceStart_steady {sk : SockId} {config : ServiceConfig} {done : State → State}
    {ret : ℤ} {moves : List (State × State)}
    (h : (serviceStart sk config done).Exec moves ret) (hret : ret ≠ 0)
    (hlinked : System.Linked RequestRely s moves t) (hserves : s.allocated = true)
    (hinv : ∀ m ∈ moves, Inv m.1) : ∀ m ∈ moves, Steady m.1 m.2 := by
  unfold serviceStart at h
  obtain ⟨check, rest, invalid, rfl, hcheck, hrest⟩ := h.bind
  obtain ⟨s₁, r₁, -, rfl, hinvalid⟩ := hcheck.await
  have hserves₁ : s₁.allocated = true := hlinked.1.side ▸ hserves
  have hlinked₁ : System.Linked RequestRely s₁ rest t := hlinked.2
  obtain ⟨-, hinv₁⟩ := List.forall_mem_cons.mp hinv
  refine List.forall_mem_cons.mpr ⟨.refl s₁, ?_⟩
  cases invalid with
  | true =>
    cases hrest
    simp
  | false =>
    obtain ⟨begun, last, link, rfl, hbegin, hlast⟩ := Prog.Exec.bind hrest
    obtain ⟨s₂, r₂, -, rfl, hlink⟩ := hbegin.await
    have hserves₂ : s₂.allocated = true := hlinked₁.1.side ▸ hserves₁
    have hrefused := beginStart_refused sk config done r₂ (hinv₁ _ (List.mem_cons_self ..)) hserves₂
    rw [← hlink] at hrefused
    cases link with
    | answer ret' =>
      cases hlast
      rcases hrefused with hzero | hsame
      · exact absurd hzero hret
      · rw [hsame]
        exact List.forall_mem_singleton.mpr (.refl s₂)
    | first e => exact hrefused.elim
    | busy e ret' =>
      obtain ⟨s₃, r₃, -, rfl, -⟩ := Prog.Exec.await hlast
      refine List.forall_mem_cons.mpr ⟨hrefused, List.forall_mem_singleton.mpr ?_⟩
      exact ⟨rfl, rfl, rfl, rfl, rfl, rfl, rfl⟩

theorem controlServiceStart_steady {moves : List (State × State)}
    (h : (controlServiceStart q).Exec moves a) (hfail : a.status ≠ 0)
    (hlinked : System.Linked RequestRely s moves t) (hserves : s.allocated = true)
    (hinv : ∀ m ∈ moves, Inv m.1) : ∀ m ∈ moves, Steady m.1 m.2 := by
  unfold controlServiceStart at h
  obtain ⟨first, rest, found, rfl, hfirst, hrest⟩ := h.bind
  obtain ⟨s₁, r₁, -, rfl, -⟩ := hfirst.await
  have hserves₁ : s₁.allocated = true := hlinked.1.side ▸ hserves
  obtain ⟨-, hinv₁⟩ := List.forall_mem_cons.mp hinv
  refine List.forall_mem_cons.mpr ⟨.refl s₁, ?_⟩
  cases found with
  | none =>
    cases hrest
    simp
  | some sk =>
    by_cases hargs : q.arg0 ≠ 0 ∨ q.arg1 ≠ 0 ∨ q.length ≠ serviceConfigSize
    · simp only [hargs, if_true] at hrest
      cases hrest
      simp
    · simp only [hargs, if_false] at hrest
      obtain ⟨begun, last, ret, rfl, hstart, hlast⟩ := Prog.Exec.bind hrest
      cases hlast
      rw [List.append_nil] at hlinked hinv₁ ⊢
      have hret : ret ≠ 0 := by
        intro hzero
        simp [hzero] at hfail
      exact serviceStart_steady hstart hret hlinked.2 hserves₁ hinv₁

theorem controlThread_steady {moves : List (State × State)} {p : ControlPoint}
    (h : (controlThread q).Exec moves p) (hop : q.op = .serviceStart)
    (hp : p = .ready (some ⟨q, a⟩) ∨ p = .finished (some ⟨q, a⟩)) (hfail : a.status ≠ 0)
    (hlinked : System.Linked RequestRely s moves t) (hserves : s.allocated = true)
    (hinv : ∀ m ∈ moves, Inv m.1) : ∀ m ∈ moves, Steady m.1 m.2 := by
  unfold controlThread at h
  split at h
  case isTrue =>
    obtain ⟨s₁, r₁, -, rfl, -⟩ := Prog.Exec.await h
    exact List.forall_mem_singleton.mpr (.refl s₁)
  case isFalse =>
    obtain ⟨first, rest, a', rfl, hfirst, hrest⟩ := Prog.Exec.bind h
    obtain ⟨s₁, r₁, -, rfl, hanswer⟩ := hrest.await
    have ha : a' = a := by
      rw [hanswer] at hp
      split at hp
      · simpa using hp
      · simpa using hp
    subst ha
    obtain ⟨u, hlinked'⟩ := hlinked.initial
    obtain ⟨hinv', -⟩ := List.forall_mem_append.mp hinv
    refine List.forall_mem_append.mpr ⟨?_, List.forall_mem_singleton.mpr (.refl s₁)⟩
    simp only [controlExecute, hop] at hfirst
    exact controlServiceStart_steady hfirst hfail hlinked' hserves hinv'

/-! ## The request -/

theorem reachable_linked {ls : List Transition} (h : Reachable c)
    (hrun : runtime.run c ls = some d) :
    System.Linked RequestRely c.state (runtime.rightMoves c ls) d.state :=
  System.linked_right (P := Reachable) RequestRely.refl (fun _ _ _ => RequestRely.trans)
    (fun _ _ _ hc hs => hc.step hs)
    (fun _ _ _ hc hl hs => runtime_compatible.rely_right hl (reachable_sound hc) hs) h hrun

theorem reachable_moves {ls : List Transition} (h : Reachable c) (m : State × State)
    (hm : m ∈ runtime.rightMoves c ls) : Inv m.1 := by
  induction ls generalizing c with
  | nil => cases hm
  | cons l ls ih =>
    simp only [System.rightMoves] at hm
    cases hs : runtime.step c l with
    | none =>
      rw [hs] at hm
      cases hm
    | some c' =>
      simp only [hs] at hm
      have hnext := fun hm => ih (h.step hs) hm
      cases l with
      | right r =>
        rcases List.mem_cons.mp hm with rfl | hm
        · exact reachable_inv h
        · exact hnext hm
      | _ => exact hnext hm

structure Manager where
  allocated : Bool
  draining : Bool
  stopping : Bool
  task : Bool
  workReady : Completion
  drained : Completion
  stopped : Completion
  stats : ServiceStats
  listeners : List ListenerId
  readyList : List ListenerId
  bridges : List ServiceBridge
  listenerCount : ℕ

def State.manager (s : State) : Manager where
  allocated := s.allocated
  draining := s.draining
  stopping := s.stopping
  task := s.task
  workReady := s.workReady
  drained := s.drained
  stopped := s.stopped
  stats := s.stats
  listeners := s.listeners
  readyList := s.readyList
  bridges := s.bridges
  listenerCount := s.listenerCount

theorem beginStart_first {sk : SockId} {config : ServiceConfig} {done : State → State} {r : Reply}
    (hdown : s.allocated = false) (hr : 0 ≤ r.ret) :
    beginStart sk config done s r =
      (.first s.nextListener, (linkListener sk config (resetStart config s)).2) := by
  unfold beginStart
  rw [if_neg (not_lt.mpr hr), if_pos (by rw [hdown]; rfl)]
  rfl

/-- A start that fails leaves the sockets of the table, the listeners and the notifier as they
were; its own steps keep a running service steady; and where there was no service there is none:
the next start is taken for the first one and makes of the manager what the first one made of it,
but for the number of the entry. -/
theorem reachable_failed_service_start {ls : List Transition} (h : Reachable c)
    (hh : Handles c q ls a d) (hop : q.op = .serviceStart) (hfail : a.status ≠ 0) :
    (∀ i sk, c.state.table i = some sk → d.state.table i = some sk ∧
      (d.state.bridge.sock sk).userData = (c.state.bridge.sock sk).userData ∧
      (d.state.bridge.sock sk).hooks = (c.state.bridge.sock sk).hooks) ∧
    d.state.allocated = c.state.allocated ∧ d.state.listeners = c.state.listeners ∧
    d.state.listenerCount = c.state.listenerCount ∧
    d.state.bridge.completionNotify = c.state.bridge.completionNotify ∧
    (c.state.allocated = true → ServiceKept c.state d.state ∧
      ∀ m ∈ runtime.rightMoves c (.resumeRight (.request q) :: ls), Steady m.1 m.2) ∧
    (c.state.allocated = false → d.state.listeners = [] ∧ d.state.readyList = [] ∧
      (∀ e, d.state.callbackInstalled e = false) ∧ d.state.bridge.completionNotify = none ∧
      ∀ sk config done r, 0 ≤ Reply.ret r →
        (beginStart sk config done d.state r).1 = .first d.state.nextListener ∧
        (beginStart sk config done d.state r).2.manager =
          { (beginStart sk config done boot.state r).2.manager with
            listeners := [d.state.nextListener] }) := by
  have heffect := (request_effect h hh).2
  rw [Effect, hop] at heffect
  rcases heffect with ⟨hzero, -⟩ | ⟨-, hfailed, hrest⟩
  · exact absurd hzero hfail
  have hd : Reachable d := h.run runtime hh.run
  refine ⟨fun i sk hi => ?_, hfailed.allocated, hfailed.listeners, hfailed.listenerCount,
    hfailed.notifier, fun hserves => ⟨hfailed.kept hserves, fun m hm => ?_⟩, fun hdown => ?_⟩
  · have hend := hfailed.ends i sk hi
    exact ⟨(congrFun hfailed.table i).trans hi, hend.userData, hend.hooks⟩
  · obtain ⟨c', hstep, hrun⟩ : ∃ c', runtime.step c (.resumeRight (.request q)) = some c' ∧
        runtime.run c' ls = some d := by
      simpa [System.run, Option.bind_eq_some_iff] using hh.run
    have hreach := h.step hstep
    simp only [System.rightMoves, hstep] at hm
    obtain ⟨last, -, rfl⟩ := step_request hstep
    obtain ⟨p, hp, hright⟩ : ∃ p, (p = .ready (some ⟨q, a⟩) ∨ p = .finished (some ⟨q, a⟩)) ∧
        d.right = .ret p := by
      rcases right_of_lastResponse hh.answered with hright | hright
      · exact ⟨_, .inl rfl, hright⟩
      · exact ⟨_, .inr rfl, hright⟩
    have hexec := System.exec_right hh.once hrun hright
    exact controlThread_steady hexec hop hp hfail (reachable_linked hreach hrun) hserves
      (reachable_moves hreach) m hm
  · have hi := reachable_inv hd
    have hdown' : d.state.allocated = false := hfailed.allocated.trans hdown
    obtain ⟨hlisteners, hready⟩ := hi.ready.dormant hdown'
    refine ⟨hlisteners, hready, fun e => ?_, hi.no_notifier hdown', fun sk config done r hr => ?_⟩
    · by_contra hin
      have hmem := hi.listeners.owned e (by simpa using hin)
      rw [hlisteners, hrest.releasing] at hmem
      cases hmem
    · rw [beginStart_first hdown' hr, beginStart_first rfl hr]
      exact ⟨rfl, rfl⟩

def workerlessRun : List Transition :=
  listenRun ++ ask (startRequest 1 1 80) [0, 0, 0, 0, 0, 0, -ENOMEM, 0, 0, 0, 0, 0, 0]

theorem failed_service_start_workerless_and_mismatch :
    (configAfter workerlessRun).state.bridge.completionNotify = none ∧
      (configAfter mismatchRun).state.table 0 = some 2 ∧
      (configAfter mismatchRun).state.listeners = [0] := by
  have hworkerless : Handles (configAfter listenRun) (startRequest 1 1 80) _
      (.ofStatus (startRequest 1 1 80) (-ENOMEM)) (configAfter workerlessRun) :=
    handles_ask (by decide +kernel) (by decide +kernel)
  have hmismatch : Handles (configAfter secondRun) (startRequest 1 7 81) _
      (.ofStatus (startRequest 1 7 81) (-EINVAL)) (configAfter mismatchRun) :=
    handles_ask (by decide +kernel) (by decide +kernel)
  have hslot : (configAfter secondRun).state.table 0 = some 2 := by decide +kernel
  have hlisteners : (configAfter secondRun).state.listeners = [0] := by decide +kernel
  obtain ⟨-, -, -, -, -, -, hnone⟩ := reachable_failed_service_start
    (reachable_configAfter listenRun) hworkerless rfl (by decide)
  obtain ⟨htable, -, hkept, -⟩ := reachable_failed_service_start
    (reachable_configAfter secondRun) hmismatch rfl (by decide)
  exact ⟨(hnone (by decide +kernel)).2.2.2.1, (htable 0 2 hslot).1, hkept.trans hlisteners⟩

/-! ## References to freed entries -/

/-- A step that gives up the start of a service after its listener was hooked finds no connection
waiting that was cloned from the listener meanwhile. -/
def GivesUpCleanly (c : Config) (l : Transition) : Prop :=
  ∀ c' ∈ runtime.step c l, ∀ e ∈ c.state.starting, c.state.callbackInstalled e = true →
    c'.state.callbackInstalled e = false → clonesWait e c.state = false

instance (c : Config) (l : Transition) : Decidable (GivesUpCleanly c l) :=
  inferInstanceAs (Decidable (∀ c' ∈ runtime.step c l, ∀ e ∈ c.state.starting, _ → _ → _))

theorem untainted_step {c' : Config} {l : Transition} (h : Reachable c) (hok : GivesUpCleanly c l)
    (hclean : c.state.tainted = false) (hs : runtime.step c l = some c') :
    c'.state.tainted = false := by
  by_contra htaint
  rcases (reachable_law h hs).tainted (by simpa using htaint) with hold | ⟨e, hfailed, hwait⟩
  · exact absurd (hold.symm.trans hclean) (by simp)
  · have hnone := hok c' hs e hfailed.starting hfailed.hooked hfailed.unhooked
    exact absurd (hwait.symm.trans hnone) (by simp)

theorem Inv.freed_unreferenced (hi : Inv s) (hclean : s.tainted = false) {e : ListenerId}
    (he : e ∈ s.freed) : Unreferenced e s := by
  have hrefs := hi.refs hclean
  have hgone := hi.freed.apart e he
  refine ⟨fun sk hdata => ?_, fun sk child hchild hdata => ?_⟩
  · exact hgone (hi.listeners.owned e (hrefs.socks sk e hdata).1)
  · rcases (hrefs.children sk child hchild e hdata).2 with hin | hin
    · exact hgone (hi.listeners.owned e hin)
    · exact hgone (List.mem_append_right _ hin)

/-- In a run in which every start that is given up after its listener was hooked is given up
cleanly, no socket and no waiting connection refers to a freed entry. -/
theorem run_freed_unreferenced {ls : List Transition} (hrun : runtime.run boot ls = some c)
    (hok : runtime.Along GivesUpCleanly boot ls) :
    ∀ e ∈ c.state.freed, Unreferenced e c.state := by
  have hclean : Reachable c ∧ c.state.tainted = false :=
    hok.carries runtime (K := fun c => Reachable c ∧ c.state.tainted = false)
      (fun c l c' hl hk hs => ⟨hk.1.step hs, untainted_step hk.1 hl hk.2 hs⟩)
      ⟨⟨[], rfl⟩, rfl⟩ hrun
  intro e he
  exact (reachable_inv hclean.1).freed_unreferenced hclean.2 he

theorem freed_unreferenced_workerless :
    0 ∈ (configAfter workerlessRun).state.freed ∧
      Unreferenced 0 (configAfter workerlessRun).state := by
  have hfreed : 0 ∈ (configAfter workerlessRun).state.freed := by decide +kernel
  have hrun : runtime.run boot workerlessRun = some (configAfter workerlessRun) :=
    runtime.run_eq_after (by decide +kernel)
  exact ⟨hfreed, run_freed_unreferenced hrun (by decide +kernel) 0 hfreed⟩

/-- A connection arrives while the worker of the first listener is being created, and no worker
can be created: the connection refers to the entry that the start has freed. -/
theorem clone_outlives_listener :
    ∃ c, Reachable c ∧ ∃ e ∈ c.state.freed, ∃ sk, ∃ child ∈ c.state.acceptQueue sk,
      child.userData = .listener e := by
  refine ⟨configAfter (listenRun ++ ask (startRequest 1 1 80) [0, 0, 0, 0, 0, 0] ++
    [.env (.arrival 0)] ++ [-ENOMEM, 0, 0, 0, 0, 0, 0].map controlStep), reachable_configAfter _, 0,
    by decide +kernel, 0, ?_⟩
  decide +kernel

end Tcpcc.Runtime

import Tcpcc.Runtime.Guarantees

/-!
# What requests leave on record

The routes that were opened and the listener entries that were freed. Only the start of a service
opens a route, and no request takes an entry back that was freed: a freed entry is on no list, in
nobody's hands, and out of the reach of callbacks for good.
-/

namespace Tcpcc.Runtime
open Resumption State
open Bridge (SockId)

variable {c d : Config} {s t : State} {q : Request} {R : State → State → Prop}

structure Passive (R : State → State → Prop) : Prop where
  keep : ∀ {s t : State}, t.routes = s.routes → t.freed = s.freed → R s t
  free : ∀ {s t : State} (e : ListenerId), t.routes = s.routes → t.freed = s.freed ++ [e] → R s t

/-! ## Requests other than the start of a service -/

theorem callBridge_obeys {α : Type} {who : Caller} {op : Bridge.Op}
    {k : Bridge.Outcome → State → Reply → α × State} (hR : Passive R)
    (hk : ∀ a s r, (k a s r).2.routes = s.routes ∧ (k a s r).2.freed = s.freed) :
    (callBridge who op k).Obeys R := by
  refine .bind (.await fun _ _ => hR.keep rfl rfl) fun _ => ?_
  refine .bind (.lift _ fun _ _ => hR.keep rfl rfl) fun a => .block fun s r => ?_
  obtain ⟨hroutes, hfreed⟩ := hk a { s with call := none } r
  exact hR.keep hroutes hfreed

theorem shutdownEach_obeys (hR : Passive R) (l : List ListenerId) : (shutdownEach l).Obeys R := by
  induction l with
  | nil => trivial
  | cons e l ih => exact .bind (.block fun _ _ => hR.keep rfl rfl) fun _ => ih

theorem shutdownListeners_obeys (hR : Passive R) : shutdownListeners.Obeys R :=
  .bind (.await fun _ _ => hR.keep rfl rfl) fun l => shutdownEach_obeys hR l

theorem serviceDrain_obeys (hR : Passive R) (handle : ℤ) (timeout : Timeout) :
    (serviceDrain handle timeout).Obeys R := by
  unfold serviceDrain
  split
  case isTrue => trivial
  refine .bind (.await fun s _ => ?_) fun served => ?_
  · dsimp only
    split <;> exact hR.keep rfl rfl
  cases served with
  | false => trivial
  | true =>
    refine .bind (shutdownListeners_obeys hR) fun _ => ?_
    refine .bind (.block fun _ _ => hR.keep rfl rfl) fun _ => ?_
    refine .bind (.await fun _ _ => hR.keep rfl rfl) fun drained => ?_
    cases drained with
    | false => trivial
    | true => exact .await fun _ _ => hR.keep rfl rfl

theorem cancelEach_obeys (hR : Passive R) (l : List ServiceBridge) : (cancelEach l).Obeys R := by
  induction l with
  | nil => trivial
  | cons b l ih => exact .bind (callBridge_obeys hR fun _ _ _ => ⟨rfl, rfl⟩) fun _ => ih

theorem cancelBridges_obeys (hR : Passive R) : cancelBridges.Obeys R :=
  .bind (.await fun _ _ => hR.keep rfl rfl) fun l => .bind (cancelEach_obeys hR l) fun _ =>
    .block fun _ _ => hR.keep rfl rfl

theorem unhookListener_record (e : ListenerId) (s : State) :
    (unhookListener e s).routes = s.routes ∧ (unhookListener e s).freed = s.freed := by
  unfold unhookListener removeReadyListener restoreListenerCallback
  split <;> exact ⟨rfl, rfl⟩

theorem releaseEach_obeys (hR : Passive R) (l : List ListenerId) : (releaseEach l).Obeys R := by
  induction l with
  | nil => trivial
  | cons e l ih =>
    refine .bind (.block fun s _ => ?_) fun _ => ?_
    · obtain ⟨hroutes, hfreed⟩ := unhookListener_record e s
      exact hR.keep hroutes hfreed
    · refine .bind (.block fun _ _ => hR.keep rfl rfl) fun _ => ?_
      exact .bind (.block fun _ _ => hR.free e rfl rfl) fun _ => ih

theorem releaseListeners_obeys (hR : Passive R) : releaseListeners.Obeys R :=
  .bind (.block fun _ _ => hR.keep rfl rfl) fun _ =>
    .bind (.await fun _ _ => hR.keep rfl rfl) fun l => releaseEach_obeys hR l

theorem stopWorker_obeys (hR : Passive R) (task : Bool) : (stopWorker task).Obeys R := by
  cases task with
  | false => trivial
  | true =>
    exact .bind (.block fun _ _ => hR.keep rfl rfl) fun _ => .await fun _ _ => hR.keep rfl rfl

theorem serviceStop_obeys (hR : Passive R) (handle : ℤ) (timeout : Timeout) :
    (serviceStop handle timeout).Obeys R := by
  unfold serviceStop
  split
  case isTrue => trivial
  refine .bind (.await fun s _ => ?_) fun task => ?_
  · split <;> exact hR.keep rfl rfl
  cases task with
  | none => trivial
  | some task =>
    refine .bind (shutdownListeners_obeys hR) fun _ => .bind (cancelBridges_obeys hR) fun _ => ?_
    refine .bind (.block fun _ _ => hR.keep rfl rfl) fun _ => ?_
    refine .bind (.await fun _ _ => hR.keep rfl rfl) fun stopped => ?_
    cases stopped with
    | false => trivial
    | true =>
      refine .bind (stopWorker_obeys hR task) fun _ => ?_
      refine .bind (callBridge_obeys hR fun _ _ _ => ⟨rfl, rfl⟩) fun _ => ?_
      exact .bind (releaseListeners_obeys hR) fun _ => .await fun _ _ => hR.keep rfl rfl

theorem installSocket_record (sk : SockId) (s : State) :
    (installSocket sk s).2.routes = s.routes ∧ (installSocket sk s).2.freed = s.freed := by
  unfold installSocket
  split <;> exact ⟨rfl, rfl⟩

theorem socketFamily_obeys (hR : Passive R) (family : IpVersion) :
    (socketFamily q family).Obeys R := by
  refine .await fun s r => ?_
  dsimp only
  split
  · exact hR.keep rfl rfl
  · exact hR.keep (installSocket_record _ _).1 (installSocket_record _ _).2

theorem bindSock_obeys (hR : Passive R) {sk : SockId} {version : IpVersion}
    {endpoint : Reply → Endpoint} : (bindSock q sk version endpoint).Obeys R := by
  refine .await fun s r => ?_
  dsimp only
  split <;> exact hR.keep rfl rfl

theorem acceptFlags_obeys (hR : Passive R) : (acceptFlags q).Obeys R := by
  refine .bind (.block fun _ _ => hR.keep rfl rfl) fun found => ?_
  cases found with
  | none => trivial
  | some sk =>
    refine .await fun s r => ?_
    dsimp only
    split
    · exact hR.keep rfl rfl
    · exact hR.keep (installSocket_record _ _).1 (installSocket_record _ _).2

theorem releaseHandle_obeys (hR : Passive R) (handle : ℤ) (sk : SockId) :
    (releaseHandle handle sk).Obeys R :=
  .bind (.block fun _ _ => hR.keep rfl rfl) fun _ => .block fun _ _ => hR.keep rfl rfl

theorem releaseSlots_obeys (hR : Passive R) (l : List ℕ) : (releaseSlots l).Obeys R := by
  induction l with
  | nil => trivial
  | cons i l ih =>
    refine .bind (.block fun _ _ => hR.keep rfl rfl) fun found => ?_
    cases found with
    | none => exact ih
    | some sk => exact .bind (releaseHandle_obeys hR _ _) fun _ => ih

theorem controlJoin_obeys (hR : Passive R) (op : Bridge.Op) : (controlJoin q op).Obeys R := by
  unfold controlJoin
  split
  · trivial
  · exact callBridge_obeys hR fun _ _ _ => ⟨rfl, rfl⟩

theorem controlExecute_obeys (hR : Passive R) (hop : q.op ≠ .serviceStart) :
    (controlExecute q).Obeys R := by
  unfold controlExecute
  cases h : q.op with
  | socket => exact socketFamily_obeys hR .v4
  | socketIp =>
    dsimp only
    unfold controlSocketIp
    split_ifs
    · trivial
    · exact socketFamily_obeys hR .v4
    · exact socketFamily_obeys hR .v6
    · trivial
  | bind =>
    refine .bind (.block fun _ _ => hR.keep rfl rfl) fun found => ?_
    cases found with
    | none => trivial
    | some sk =>
      dsimp only
      split
      · trivial
      · exact bindSock_obeys hR
  | bindIp =>
    refine .bind (.block fun _ _ => hR.keep rfl rfl) fun checked => ?_
    cases checked with
    | error ret => trivial
    | ok bound => exact bindSock_obeys hR
  | listen =>
    refine .bind (.block fun _ _ => hR.keep rfl rfl) fun found => ?_
    cases found with
    | none => trivial
    | some sk =>
      dsimp only
      split
      · trivial
      · refine .await fun s r => ?_
        dsimp only
        split <;> exact hR.keep rfl rfl
  | accept | acceptNonblock => exact acceptFlags_obeys hR
  | close =>
    refine .bind (.block fun _ _ => hR.keep rfl rfl) fun found => ?_
    cases found with
    | none => trivial
    | some sk => exact .bind (releaseHandle_obeys hR _ _) fun _ => trivial
  | bridgeStart =>
    refine .bind (.block fun _ _ => hR.keep rfl rfl) fun checked => ?_
    cases checked with
    | error ret => trivial
    | ok sk =>
      refine callBridge_obeys hR fun a s r => ?_
      cases a <;> exact ⟨rfl, rfl⟩
  | bridgeJoin | bridgeJoinResult => exact controlJoin_obeys hR _
  | bridgeCancel =>
    dsimp only
    unfold controlBridgeCancel
    split
    · trivial
    · exact callBridge_obeys hR fun _ _ _ => ⟨rfl, rfl⟩
  | serviceStart => exact absurd h hop
  | serviceDrain =>
    dsimp only
    unfold controlServiceDrain
    split
    · trivial
    · exact .bind (serviceDrain_obeys hR _ _) fun _ => trivial
  | serviceStats =>
    dsimp only
    unfold controlServiceStats serviceGetStats
    split_ifs
    · trivial
    · trivial
    · exact .bind (.await fun _ _ => hR.keep rfl rfl) fun _ => trivial
  | serviceStop =>
    dsimp only
    unfold controlServiceStop
    split
    · trivial
    · exact .bind (serviceStop_obeys hR _ _) fun _ => trivial
  | shutdown =>
    dsimp only
    unfold controlShutdown
    split
    · trivial
    refine .bind (.block fun _ _ => hR.keep rfl rfl) fun serves => ?_
    cases serves with
    | false => trivial
    | true => exact .bind (serviceStop_obeys hR _ _) fun _ => trivial
  | finish | other => exact .block fun _ _ => hR.keep rfl rfl
  | unknown => trivial

theorem teardown_obeys (hR : Passive R) : teardown.Obeys R := by
  refine .bind ?_ fun _ => .bind (callBridge_obeys hR fun _ _ _ => ⟨rfl, rfl⟩) fun _ =>
    .bind (releaseSlots_obeys hR _) fun _ => trivial
  refine .bind (.block fun _ _ => hR.keep rfl rfl) fun serves => ?_
  cases serves with
  | false => trivial
  | true => exact .bind (serviceStop_obeys hR _ _) fun _ => trivial

theorem controlThread_obeys (hR : Passive R) (hexecute : (controlExecute q).Obeys R) :
    (controlThread q).Obeys R := by
  unfold controlThread
  split
  · exact .block fun _ _ => hR.keep rfl rfl
  · exact .bind hexecute fun _ => .block fun _ _ => hR.keep rfl rfl

/-! ## Runs -/

theorem step_obeys {l : Transition} (hR : Passive R) (h : Reachable c) (hright : c.right.Obeys R)
    (hl : ∀ q, l = .resumeRight (.request q) → (controlExecute q).Obeys R)
    (hs : runtime.step c l = some d) : d.right.Obeys R ∧ R c.state d.state := by
  cases l with
  | right i =>
    obtain ⟨ready, run, next, hp, hready, rfl⟩ := System.step_right hs
    rw [hp] at hright
    exact (hright c.state i hready).symm
  | resumeRight g =>
    cases hp : c.right with
    | act ready run next => simp [System.step, hp] at hs
    | ret p =>
      simp only [System.step, hp, Option.map_eq_some_iff] at hs
      obtain ⟨next, hnext, rfl⟩ := hs
      refine ⟨?_, hR.keep rfl rfl⟩
      change controlNext p g = some next at hnext
      cases p with
      | ready last =>
        cases g with
        | request q =>
          cases hnext
          exact controlThread_obeys hR (hl q rfl)
        | lost =>
          cases hnext
          trivial
        | teardown => cases hnext
      | finished last =>
        cases g with
        | teardown =>
          cases hnext
          exact teardown_obeys hR
        | request q => cases hnext
        | lost => cases hnext
      | down => cases g <;> cases hnext
  | _ =>
    have hside := (runtime_compatible.rely_right (by simp) (reachable_sound h) hs).side
    refine ⟨?_, hR.keep (congrArg ControlSide.routes hside) (congrArg ControlSide.freed hside)⟩
    rw [System.step_right_other rfl (by simp) hs]
    exact hright

theorem run_obeys {ls : List Transition} (hR : Passive R)
    (htrans : ∀ {s t u}, R s t → R t u → R s u)
    (h : Reachable c) (hright : c.right.Obeys R)
    (hls : ∀ q, .resumeRight (.request q) ∈ ls → (controlExecute q).Obeys R)
    (hrun : runtime.run c ls = some d) : d.right.Obeys R ∧ R c.state d.state := by
  induction ls generalizing c with
  | nil =>
    cases hrun
    exact ⟨hright, hR.keep rfl rfl⟩
  | cons l ls ih =>
    simp only [System.run, Option.bind_eq_some_iff] at hrun
    obtain ⟨c', hstep, hrest⟩ := hrun
    obtain ⟨hright', hfirst⟩ := step_obeys hR h hright
      (fun q hl => hls q (hl ▸ List.mem_cons_self)) hstep
    obtain ⟨hobeys, hlater⟩ := ih (h.step hstep) hright'
      (fun q hq => hls q (List.mem_cons_of_mem l hq)) hrest
    exact ⟨hobeys, htrans hfirst hlater⟩

/-! ## Only a start opens a route -/

def SameRoutes (s t : State) : Prop := t.routes = s.routes

theorem sameRoutes_passive : Passive SameRoutes := ⟨fun h _ => h, fun _ h _ => h⟩

def startsService : Transition → Bool
  | .resumeRight (.request q) => q.op == .serviceStart
  | _ => false

theorem run_sameRoutes {ls : List Transition} (h : Reachable c)
    (hright : c.right.Obeys SameRoutes) (hls : ∀ l ∈ ls, startsService l = false)
    (hrun : runtime.run c ls = some d) : SameRoutes c.state d.state := by
  refine (run_obeys sameRoutes_passive (fun h h' => h'.trans h) h hright (fun q hq => ?_) hrun).2
  refine controlExecute_obeys sameRoutes_passive fun hop => ?_
  have hstarts := hls _ hq
  simp [startsService, hop] at hstarts

/-! ## Freed entries stay freed -/

def FreedKept (s t : State) : Prop := s.freed <+: t.freed

theorem FreedKept.of_eq (h : t.freed = s.freed) : FreedKept s t := by
  rw [FreedKept, h]

theorem FreedKept.of_append {e : ListenerId} (h : t.freed = s.freed ++ [e]) : FreedKept s t := by
  rw [FreedKept, h]
  exact List.prefix_append _ _

theorem freedKept_passive : Passive FreedKept := ⟨fun _ h => .of_eq h, fun _ _ h => .of_append h⟩

theorem installListenerCallback_freed (e : ListenerId) (s : State) :
    (installListenerCallback e s).2.freed = s.freed := by
  unfold installListenerCallback
  dsimp only
  split <;> rfl

theorem hookListener_freed (e : ListenerId) (s : State) :
    (hookListener e s).2.freed = s.freed := by
  unfold hookListener
  dsimp only
  split
  · exact (unhookListener_record _ _).2.trans (installListenerCallback_freed e s)
  · exact installListenerCallback_freed e s

theorem abandonStart_freedKept (e : ListenerId) (installed : Bool) (ret : ℤ) :
    (abandonStart e installed ret).Obeys FreedKept := by
  have hfree : (Prog.await unlocked fun s (_ : Reply) =>
      (ret, freeListener e (clearReady { s with allocated := false, listenerCount := 0 }))).Obeys
        FreedKept := .await fun _ _ => .of_append rfl
  cases installed with
  | false => exact .bind (.await fun _ _ => .of_eq rfl) fun _ => hfree
  | true =>
    refine .bind (.await fun _ _ => .of_eq rfl) fun _ => ?_
    exact .bind (callBridge_obeys freedKept_passive fun _ _ _ => ⟨rfl, rfl⟩) fun _ => hfree

section
variable {done : State → State} (hdone : ∀ s, (done s).freed = s.freed)
include hdone

theorem startDone_freed (e : ListenerId) (s : State) : (startDone e done s).freed = s.freed :=
  hdone _

theorem beginStart_freed (sk : SockId) (config : ServiceConfig) (s : State) (r : Reply) :
    (beginStart sk config done s r).2.freed = s.freed := by
  unfold beginStart
  split_ifs
  · rfl
  · rfl
  · rfl
  · rfl
  · rfl
  · dsimp only
    split
    · exact (unhookListener_record _ _).2.trans (installListenerCallback_freed _ _)
    · exact (startDone_freed hdone _ _).trans (installListenerCallback_freed _ _)

theorem startFirst_freedKept (e : ListenerId) : (startFirst e done).Obeys FreedKept := by
  refine .bind ?_ fun hooked => ?_
  · refine .bind (.await fun _ _ => .of_eq rfl) fun _ => ?_
    refine .bind (.lift _ fun _ _ => .of_eq rfl) fun a => .block fun s r => ?_
    dsimp only
    split
    · exact .of_eq (unhookListener_record e _).2
    · exact .of_eq (hookListener_freed e _)
  cases hooked with
  | error ret => exact abandonStart_freedKept e false ret
  | ok ret =>
    dsimp only
    split
    · exact abandonStart_freedKept e true ret
    refine .bind (.await fun s r => ?_) fun ret => ?_
    · unfold createWorker
      split
      · exact .of_eq (unhookListener_record e _).2
      · exact .of_eq rfl
    split
    · exact abandonStart_freedKept e true ret
    · exact .await fun s _ => .of_eq (startDone_freed hdone e _)

theorem serviceStart_freedKept (sk : SockId) (config : ServiceConfig) :
    (serviceStart sk config done).Obeys FreedKept := by
  refine .bind (.block fun _ _ => .of_eq rfl) fun invalid => ?_
  cases invalid with
  | true => trivial
  | false =>
    refine .bind (.await fun s r => .of_eq (beginStart_freed hdone sk config s r)) fun link => ?_
    cases link with
    | answer ret => trivial
    | first e => exact startFirst_freedKept hdone e
    | busy e ret => exact .await fun _ _ => .of_append rfl

end

theorem controlExecute_freedKept (q : Request) : (controlExecute q).Obeys FreedKept := by
  by_cases hop : q.op = .serviceStart
  · unfold controlExecute
    rw [hop]
    refine .bind (.block fun _ _ => .of_eq rfl) fun found => ?_
    cases found with
    | none => trivial
    | some sk =>
      dsimp only
      split
      · trivial
      · refine .bind (serviceStart_freedKept (fun _ => ?_) sk q.config) fun _ => trivial
        rfl
  · exact controlExecute_obeys freedKept_passive hop

theorem run_freed {ls : List Transition} (h : Reachable c) (hrun : runtime.run c ls = some d) :
    c.state.freed <+: d.state.freed := by
  obtain ⟨before, hbefore⟩ := h
  have hright : c.right.Obeys FreedKept :=
    (run_obeys freedKept_passive List.IsPrefix.trans ⟨[], rfl⟩ trivial
      (fun q _ => controlExecute_freedKept q) hbefore).1
  exact (run_obeys freedKept_passive List.IsPrefix.trans ⟨before, hbefore⟩ hright
    (fun q _ => controlExecute_freedKept q) hrun).2

structure Gone (e : ListenerId) (s : State) : Prop where
  ready : e ∉ s.readyList
  listed : e ∉ s.listeners
  entry : s.entry ≠ some e
  origin : s.origin ≠ some e
  unhooked : s.callbackInstalled e = false

theorem Inv.gone (hi : Inv s) {e : ListenerId} (he : e ∈ s.freed) : Gone e s := by
  have hapart := hi.freed.apart e he
  have hlisted : e ∉ s.listeners := fun h => hapart (List.mem_append_left _ h)
  refine ⟨fun h => ?_, hlisted, fun h => hlisted (hi.ready.popped e (.inl h)).1,
    fun h => hlisted (hi.ready.popped e (.inr h)).1, ?_⟩
  · exact hlisted (hi.ready.queued e ((hi.ready.listed.mem e).mp h)).1
  · exact Bool.eq_false_iff.mpr fun h => hapart (hi.listeners.owned e h)

theorem reachable_entries_gone (h : Reachable c) :
    (c.state.allocated = true → c.state.listenerCount = c.state.listeners.length) ∧
    ∀ e ∈ c.state.freed, ∀ ls d, runtime.run c ls = some d →
      Gone e d.state ∧ ∀ w sk, Gone e (socketCallback w sk d.state) := by
  refine ⟨fun _ => (reachable_inv h).count, fun e he ls d hrun => ?_⟩
  have hgone : ∀ ls d, runtime.run c ls = some d → Gone e d.state := fun ls d hrun =>
    (reachable_inv (h.run runtime hrun)).gone ((run_freed h hrun).subset he)
  refine ⟨hgone ls d hrun, fun w sk => ?_⟩
  refine hgone (ls ++ [.env (.callback w sk)]) { d with state := socketCallback w sk d.state } ?_
  rw [System.run_append, hrun]
  rfl

theorem entries_gone_stopped :
    0 ∈ (configAfter stopRun).state.freed ∧ Gone 0 (configAfter stopRun).state := by
  have hfreed : 0 ∈ (configAfter stopRun).state.freed := by decide +kernel
  exact ⟨hfreed, ((reachable_entries_gone (reachable_configAfter stopRun)).2 0 hfreed [] _ rfl).1⟩

end Tcpcc.Runtime

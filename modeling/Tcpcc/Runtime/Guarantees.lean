import Tcpcc.Lib.Execution
import Tcpcc.Runtime.Reachable

/-!
# What the runtime guarantees

The invariant of the reachable states and the law of the transitions, read as the properties
that users of the runtime rely on: every socket has one owner and is released once, the
statistics of the service add up, no waiting connection is forgotten, and the service moves
along its lifecycle.
-/

namespace Tcpcc.Runtime
open Resumption State
open Bridge (SockId SessionId)

variable {c d : Config} {q : Request} {a : Answer}

abbrev Transition := Label Reply Unit ControlEvent Event

def lastResponse (c : Config) : Option Response :=
  match c.right with
  | .ret (.ready last) => last
  | .ret (.finished last) => last
  | _ => none

theorem right_of_lastResponse {r : Response} (h : lastResponse c = some r) :
    c.right = .ret (.ready (some r)) ∨ c.right = .ret (.finished (some r)) := by
  unfold lastResponse at h
  split at h
  case h_1 last hright => exact .inl (h ▸ hright)
  case h_2 last hright => exact .inr (h ▸ hright)
  case h_3 => cases h

theorem reachable_reported (h : Reachable c) (hlast : lastResponse c = some ⟨q, a⟩) :
    Reported (some ⟨q, a⟩) c.state := by
  rcases right_of_lastResponse hlast with hright | hright
  · exact (reachable_control h hright).2
  · exact (reachable_control h hright).2

/-! ## One request in a run -/

structure Handles (c : Config) (q : Request) (ls : List Transition) (a : Answer) (d : Config) :
    Prop where
  run : runtime.run c (.resumeRight (.request q) :: ls) = some d
  once : ∀ l ∈ ls, l.callsRight = false
  answered : lastResponse d = some ⟨q, a⟩

theorem step_request {c' : Config} (h : runtime.step c (.resumeRight (.request q)) = some c') :
    ∃ last, c.right = .ret (.ready last) ∧ c' = { c with right := controlThread q } := by
  cases hp : c.right with
  | act ready run next => simp [System.step, hp] at h
  | ret p =>
    simp only [System.step, hp, Option.map_eq_some_iff] at h
    obtain ⟨next, hnext, rfl⟩ := h
    cases p with
    | ready last =>
      cases hnext
      exact ⟨last, rfl, rfl⟩
    | finished last => cases hnext
    | down => cases hnext

theorem request_effect {ls : List Transition} (h : Reachable c) (hh : Handles c q ls a d) :
    Answered q c.state a d.state := by
  obtain ⟨c', hstep, hrun⟩ : ∃ c', runtime.step c (.resumeRight (.request q)) = some c' ∧
      runtime.run c' ls = some d := by
    simpa [System.run, Option.bind_eq_some_iff] using hh.run
  obtain ⟨last, hlast, rfl⟩ := step_request hstep
  have hsound := reachable_sound h
  obtain ⟨hrest, -⟩ := reachable_control h hlast
  have hcall : System.Sound Inv workerContract requestContract WorkerAt (Responded q c.state)
      { c with right := controlThread q } :=
    ⟨hsound.1, hsound.2.1, controlThread_safe hsound.1 hrest⟩
  obtain ⟨⟨-, -, hright⟩, -⟩ := runtime_compatible.follow (fun _ _ hr => hr) (fun _ _ hg => hg)
    (fun p s s' (hq : Responded q c.state p s) hr _ => hq.stable hr) hh.once hcall hrun
  rcases right_of_lastResponse hh.answered with hd | hd
  · rw [hd] at hright
    obtain ⟨a', hp | hp, hans⟩ := hright
    · cases hp
      exact hans
    · cases hp
  · rw [hd] at hright
    obtain ⟨a', hp | hp, hans⟩ := hright
    · cases hp
    · cases hp
      exact hans

/-! ## Runs

Used below as instances: a socket is created and listens, the service is started on it with room
for one connection, and one comes. Then a second socket cannot join the service, whose policy is
another one, and all is torn down; or the service is drained, which lasts until the host reports
an error for the connection, and stopped. -/

def workerStep (ret : ℤ) : Transition := .left ⟨ret, []⟩

def controlStep (ret : ℤ) : Transition := .right ⟨ret, []⟩

def dispatcherRun (steps : ℕ) : List Transition :=
  .env .resumeDispatcher :: List.replicate steps (.env (.dispatch ⟨0, []⟩))

def ask (q : Request) (rets : List ℤ) : List Transition :=
  .resumeRight (.request q) :: rets.map controlStep

def work (rets : List ℤ) : List Transition := .resumeLeft () :: rets.map workerStep

def configAfter (ls : List Transition) : Config := runtime.after boot ls

theorem reachable_configAfter (ls : List Transition) : Reachable (configAfter ls) :=
  runtime.reachable_after ls

def socketRequest : Request := { op := .socketIp, arg0 := 4 }

def listenRequest (handle : ℤ) : Request := { op := .listen, handle := handle, arg0 := 16 }

def startRequest (handle : ℤ) (maxConnections port : ℕ) : Request where
  op := .serviceStart
  handle := handle
  length := serviceConfigSize
  config :=
    { backendIpv4 := inaddrLoopback
      backendPort := port
      maxConnections := maxConnections
      acceptBatch := 2 }

def listenRun : List Transition := ask socketRequest [0, 0] ++ ask (listenRequest 1) [0, 0, 0]

def startRun : List Transition :=
  listenRun ++ ask (startRequest 1 1 80) [0, 0, 0, 0, 0, 0, 0, 0, 0]

def idleRun : List Transition :=
  startRun ++ work [0, 0, 0] ++ work [0, 0, -EAGAIN, 0] ++ work [0, 0]

def bridgedRun : List Transition :=
  idleRun ++ [.env (.arrival 0)] ++ work [0, 0, 0] ++
    work ([0, 0, 0, 0, 0] ++ [0, 0, 0, 0, 0, 3, 0, 0, -EINPROGRESS]) ++
    [.env (.hostEvent ⟨Bridge.runtimeToken 2 1, 2⟩)] ++
    dispatcherRun 1 ++ dispatcherRun 1 ++ dispatcherRun 1 ++ dispatcherRun 1 ++
    List.replicate 7 (workerStep 0)

def fullRun : List Transition :=
  bridgedRun ++ work [0, 0] ++ work [0, 0, 0, 0, 0, 0] ++ work [0, 0] ++ [.env (.arrival 0)]

def secondRun : List Transition :=
  bridgedRun ++ ask socketRequest [0, 0] ++ ask (listenRequest 1) [0, 0, 0]

def mismatchRun : List Transition := secondRun ++ ask (startRequest 1 7 81) [0, 0, 0, 0]

def restRun : List Transition :=
  work [0, 0] ++ work [0, 0, 0, 0, 0, 0] ++ work [0, 0, 0, 0, 0, 0] ++ work []

def teardownRun : List Transition :=
  mismatchRun ++ [.resumeRight .lost, .resumeRight .teardown] ++
    List.replicate 11 (controlStep 0) ++ restRun ++ dispatcherRun 1 ++
    List.replicate 11 (workerStep 0) ++ List.replicate 15 (controlStep 0) ++ work [] ++
    dispatcherRun 1 ++ dispatcherRun 1 ++ List.replicate 20 (controlStep 0)

def drainRequest : Request := { op := .serviceDrain, handle := serviceHandle, arg0 := 1000 }

def stopRequest : Request := { op := .serviceStop, handle := serviceHandle, arg0 := 1000 }

def drainRun : List Transition :=
  bridgedRun ++ ask drainRequest [0, 0, 0, 0] ++
    [.env (.hostEvent ⟨Bridge.runtimeToken 2 1, Bridge.eventError⟩)] ++ restRun ++
    dispatcherRun 10 ++ dispatcherRun 1 ++ dispatcherRun 1 ++ dispatcherRun 3 ++
    dispatcherRun 1 ++ dispatcherRun 1 ++ List.replicate 11 (workerStep 0) ++
    List.replicate 3 (controlStep 0)

def stopRun : List Transition :=
  drainRun ++ ask stopRequest [0, 0, 0, 0, 0, 0] ++ work [0, 0, 0] ++
    List.replicate 13 (controlStep 0)

theorem handles_ask {ls : List Transition} {rets : List ℤ}
    (hrun : (runtime.run boot (ls ++ ask q rets)).isSome = true)
    (hlast : lastResponse (configAfter (ls ++ ask q rets)) = some ⟨q, a⟩) :
    Handles (configAfter ls) q (rets.map controlStep) a (configAfter (ls ++ ask q rets)) where
  run := runtime.run_after hrun
  once l hl := by
    obtain ⟨ret, -, rfl⟩ := List.mem_map.mp hl
    rfl
  answered := hlast

def workerPoint (c : Config) : Option WorkerPoint :=
  match c.left with
  | .ret p => some p
  | .act .. => none

theorem left_of_workerPoint {p : WorkerPoint} (h : workerPoint c = some p) : c.left = .ret p := by
  unfold workerPoint at h
  split at h
  · rw [Option.some.injEq] at h
    subst h
    assumption
  · cases h

def isDown (c : Config) : Bool :=
  match c.right with
  | .ret .down => true
  | _ => false

theorem right_of_isDown (h : isDown c = true) : c.right = .ret .down := by
  unfold isDown at h
  split at h
  · assumption
  · cases h

/-! ## Sockets -/

/-- Every socket that has not been released has one owner, and one that has been released has
none; a request that fails to hand a socket on leaves it where it was; and after the teardown
every socket has been released, once. -/
theorem reachable_socket_ownership (h : Reachable c) :
    (∀ sk, c.state.unreleased sk → ∃! o, c.state.owns o sk) ∧
    (∀ sk o, c.state.owns o sk → c.state.unreleased sk) ∧
    (∀ sk, (c.state.bridge.sock sk).releases ≤ 1) ∧
    (∀ q ls a d, q.op = .bridgeStart ∨ q.op = .serviceStart → Handles c q ls a d → a.status ≠ 0 →
      ∀ i sk, c.state.owns (.slot i) sk → d.state.owns (.slot i) sk) ∧
    (c.right = .ret .down → ∀ sk, sk < c.state.nextSock →
      (c.state.bridge.sock sk).releases = 1) := by
  have hi := reachable_inv h
  refine ⟨fun sk hlive => ?_, fun sk o ho => (hi.owners.live_iff sk).mpr ⟨o, ho⟩,
    hi.sockets.once, fun q ls a d hop hh hfail i sk ho => ?_, fun hdown sk hsk => ?_⟩
  · obtain ⟨o, ho⟩ := (hi.owners.live_iff sk).mp hlive
    exact ⟨o, ho, fun o' ho' => hi.owners.unique ho' ho⟩
  · have heffect := (request_effect h hh).2
    have htable : d.state.table = c.state.table := by
      rcases hop with hop | hop
      · rw [Effect, hop] at heffect
        exact heffect hfail
      · rw [Effect, hop] at heffect
        rcases heffect with ⟨hzero, -⟩ | ⟨-, hfailed, -⟩
        · exact absurd hzero hfail
        · exact hfailed.table
    exact (congrFun htable i).trans ho
  · exact Down.released (reachable_control h hdown) hi sk hsk

theorem socket_ownership_refused_and_down :
    (configAfter mismatchRun).state.owns (.slot 0) 2 ∧
      ∀ sk < 3, ((configAfter teardownRun).state.bridge.sock sk).releases = 1 := by
  refine ⟨?_, ?_⟩
  · obtain ⟨-, -, -, hkept, -⟩ := reachable_socket_ownership (reachable_configAfter secondRun)
    have hh : Handles (configAfter secondRun) (startRequest 1 7 81) _
        (.ofStatus (startRequest 1 7 81) (-EINVAL)) (configAfter mismatchRun) :=
      handles_ask (by decide +kernel) (by decide +kernel)
    have hslot : (configAfter secondRun).state.table 0 = some 2 := by decide +kernel
    exact hkept _ _ _ _ (.inr rfl) hh (by decide) 0 2 hslot
  · obtain ⟨-, -, -, -, hdown⟩ := reachable_socket_ownership (reachable_configAfter teardownRun)
    have hnext : (configAfter teardownRun).state.nextSock = 3 := by decide +kernel
    exact fun sk hsk => hdown (right_of_isDown (by decide +kernel)) sk (hnext.symm ▸ hsk)

/-! ## Statistics -/

theorem reachable_service_accounting (h : Reachable c) :
    c.state.activeConnections = c.state.bridges.length ∧
    c.state.acceptedConnections = c.state.completedConnections + c.state.activeConnections ∧
    c.state.rejectedConnections = c.state.bridgeStartFailures ∧
    c.state.terminalFailures ≤ c.state.completedConnections ∧
    c.state.activeConnections ≤ c.state.peakConnections ∧
    (c.state.maxConnections ≠ 0 → c.state.activeConnections ≤ c.state.peakConnections ∧
      c.state.peakConnections ≤ c.state.maxConnections) ∧
    c.state.publicToBackendBytes =
      (c.state.joined.map Bridge.Result.publicToBackendBytes).sum ∧
    c.state.backendToPublicBytes =
      (c.state.joined.map Bridge.Result.backendToPublicBytes).sum := by
  have hc := (reachable_inv h).counts
  exact ⟨hc.active, hc.accepted, hc.rejected, hc.terminal, hc.peak,
    fun hmax => ⟨hc.peak, hc.limit hmax⟩, hc.sent, hc.received⟩

theorem service_accounting_full :
    (configAfter fullRun).state.maxConnections = 1 ∧
      (configAfter fullRun).state.bridges.length ≤ 1 := by
  have hmax : (configAfter fullRun).state.maxConnections = 1 := by decide +kernel
  obtain ⟨hactive, -, -, -, -, hlimit, -⟩ :=
    reachable_service_accounting (reachable_configAfter fullRun)
  obtain ⟨hpeak, hle⟩ := hlimit (by rw [hmax]; decide)
  refine ⟨hmax, ?_⟩
  rw [← hactive, ← hmax]
  exact hpeak.trans hle

/-! ## Waiting connections -/

/-- The worker has come back to `wait_for_completion` and has not run since. -/
def Waits (c : Config) : Prop :=
  ∃ c₀ ls, Reachable c₀ ∧ c₀.left = .ret .waiting ∧ runtime.run c₀ ls = some c ∧
    ∀ l ∈ ls, l.movesLeft = false

theorem Waits.reachable (h : Waits c) : Reachable c := by
  obtain ⟨c₀, ls, hreach, -, hrun, -⟩ := h
  exact hreach.run runtime hrun

theorem Waits.resting (h : Waits c) : Resting c.state.toWorkerSide := by
  obtain ⟨c₀, ls, hreach, hleft, hrun, hmoves⟩ := h
  exact (runtime_compatible.undisturbed (P := WorkerAt .waiting)
    (fun s s' h hr _ => WorkerAt.stable .waiting s s' h hr) hmoves (reachable_sound hreach)
    (reachable_worker hreach hleft) hrun).1

/-- While the worker of a running service waits and has not been woken, every listener with a
connection waiting is on the ready queue, and the queue is empty unless the service is full. -/
theorem waits_no_lost_connection (h : Waits c) (hrun : c.state.running = true)
    (hwork : c.state.workReady = 0) (hstart : c.state.starting = none) :
    (∀ e ∈ c.state.listeners, c.state.acceptQueue (c.state.listenerSock e) ≠ [] →
      e ∈ c.state.readyList) ∧
    (c.state.readyList = [] ∨
      c.state.maxConnections ≠ 0 ∧ c.state.activeConnections = c.state.maxConnections) := by
  have hi := reachable_inv h.reachable
  have hrest := h.resting
  refine ⟨fun e he hqueue => ?_, ?_⟩
  · rcases hi.pending.pending hrun e he hqueue with hq | hentry | hstarting
    · exact (hi.ready.listed.mem e).mpr hq
    · exact absurd (hrest.entry.symm.trans hentry) (by simp)
    · exact absurd (hstart.symm.trans hstarting) (by simp)
  · by_cases hempty : c.state.readyList = []
    · exact .inl hempty
    · rcases hi.pending.awake hrun hrest.looking hempty with hwoken | ⟨hmax, hle⟩
      · exact absurd hwork hwoken
      · refine .inr ⟨hmax, Nat.le_antisymm ?_ hle⟩
        exact hi.counts.peak.trans (hi.counts.limit hmax)

theorem no_lost_connection_full :
    (configAfter fullRun).state.acceptQueue 0 ≠ [] ∧
      0 ∈ (configAfter fullRun).state.readyList := by
  have hwaits : Waits (configAfter fullRun) :=
    ⟨_, [.env (.arrival 0)], reachable_configAfter _, left_of_workerPoint (by decide +kernel),
      runtime.run_after (by decide +kernel), by simp [Label.movesLeft]⟩
  have hqueue : (configAfter fullRun).state.acceptQueue 0 ≠ [] := by decide +kernel
  refine ⟨hqueue, ?_⟩
  exact (waits_no_lost_connection hwaits (by decide +kernel) (by decide +kernel)
    (by decide +kernel)).1 0 (by decide +kernel) (by decide +kernel)

/-! ## The lifecycle -/

def State.accepting (s : State) : Prop :=
  s.entry ≠ none ∨ s.publicSock ≠ none ∨ s.bridgeHandle ≠ none

theorem inFlight_accepting {s : State} (hi : Inv s) {x : SessionId} (h : s.inFlight x) :
    s.accepting := by
  rcases h with ⟨sk, live, hcall, -⟩ | hhandle
  · exact .inr (.inl (by simp [(hi.call.accept sk live hcall).1]))
  · exact .inr (.inr (by simp [hhandle]))

theorem unallocated_inactive {s : State} (hi : Inv s) (h : s.allocated = false) :
    s.bridges = [] := by
  refine (hi.worker.idle fun hrun => ?_).2.2.2.2.2
  exact absurd ((hi.worker.serves hrun).symm.trans h) (by simp)

theorem drained_inactive {s : State} (hi : Inv s) (h : s.drainReturned = true) :
    s.activeConnections = 0 := (hi.life.drainedEmpty (hi.life.returned h)).2.1

theorem reachable_lifecycle (h : Reachable c) :
    (∀ l c', runtime.step c l = some c' → c.state.allocated = true →
      c'.state.state = c.state.state ∨ Move c.state.state c'.state.state) ∧
    (c.state.allocated = true →
      (c.state.state = .running ↔ c.state.draining = false ∧ c.state.stopping = false)) ∧
    (c.state.stopping = true → c.state.draining = true) ∧
    c.state.lateAdds ≤ 1 ∧
    (∀ q a, lastResponse c = some ⟨q, a⟩ → q.op = .serviceDrain → a.status = 0 →
      ∀ ls d, runtime.run c ls = some d →
        runtime.Throughout (fun d => d.state.allocated = true) c ls →
        d.state.activeConnections = 0) ∧
    (c.state.cancelRun = true → ¬ c.state.accepting → ∀ b ∈ c.state.bridges, ∀ x,
      c.state.bridge.allocated x = true → c.state.bridge.handle x = b.handle →
        c.state.bridge.stopping x = true) ∧
    (∀ q a, lastResponse c = some ⟨q, a⟩ → q.op = .serviceStop → a.status = 0 →
      c.state.stopReturned = true) ∧
    (c.state.stopReturned = true →
      (∀ x ∈ c.state.started, c.state.bridge.allocated x = false) ∧
      (∀ sk ∈ c.state.served, (c.state.bridge.sock sk).releases = 1) ∧
      c.state.listeners = [] ∧ c.state.readyList = [] ∧
      c.state.bridge.completionNotify = none) := by
  have hi := reachable_inv h
  refine ⟨fun l c' hs => (reachable_law h hs).state, hi.life.running, hi.life.stopDrains,
    hi.life.late, fun q a hlast hop hzero ls d hrun hthrough => ?_,
    fun hcancel hnot b hb x hx heq => ?_, fun q a hlast hop hzero => ?_, fun hret => ?_⟩
  · have hreturned := (reachable_reported h hlast q a rfl hzero).1 hop
    have hkept : Reachable d ∧ d.state.drainReturned = true := by
      refine hthrough.carries runtime (K := fun d => Reachable d ∧ d.state.drainReturned = true)
        (fun c l c' hal _ hk hs => ?_) ⟨h, hreturned⟩ hrun
      exact ⟨hk.1.step hs, (reachable_law hk.1 hs).drained hal hk.2⟩
    exact drained_inactive (reachable_inv hkept.1) hkept.2
  · have hserves : c.state.allocated = true := by
      by_contra hdown
      rw [unallocated_inactive hi (by simpa using hdown)] at hb
      cases hb
    rcases hi.cancel.run hserves hcancel b hb x hx heq with hstop | hflight
    · exact hstop
    · exact absurd (inFlight_accepting hi hflight) hnot
  · exact (reachable_reported h hlast q a rfl hzero).2.1 hop
  · obtain ⟨hdown, hnotify, hreleased⟩ := hi.stop.closed hret
    obtain ⟨hlisteners, hready⟩ := hi.ready.dormant hdown
    exact ⟨hi.stop.gone hret, hreleased, hlisteners, hready, hnotify⟩

theorem lifecycle_drained_and_stopped :
    (configAfter bridgedRun).state.activeConnections = 1 ∧
      (configAfter drainRun).state.activeConnections = 0 ∧
      (configAfter stopRun).state.served = [0] ∧
      ((configAfter stopRun).state.bridge.sock 0).releases = 1 := by
  have hserved : (configAfter stopRun).state.served = [0] := by decide +kernel
  refine ⟨by decide +kernel, ?_, hserved, ?_⟩
  · have hlast : (lastResponse (configAfter drainRun)).map Response.request = some drainRequest ∧
        (lastResponse (configAfter drainRun)).map (fun r => r.answer.status) = some 0 := by
      decide +kernel
    obtain ⟨⟨q, a⟩, hr, hq⟩ := Option.map_eq_some_iff.mp hlast.1
    rw [hr] at hlast
    obtain ⟨hop, hzero⟩ : q = drainRequest ∧ a.status = 0 := by simpa using hlast
    obtain ⟨-, -, -, -, hdrain, -⟩ := reachable_lifecycle (reachable_configAfter drainRun)
    exact hdrain q a hr (by rw [hop]; rfl) hzero [] _ rfl (by decide +kernel)
  · obtain ⟨-, -, -, -, -, -, -, hstop⟩ := reachable_lifecycle (reachable_configAfter stopRun)
    obtain ⟨-, hreleased, -⟩ := hstop (by decide +kernel)
    exact hreleased 0 (by simp [hserved])

end Tcpcc.Runtime

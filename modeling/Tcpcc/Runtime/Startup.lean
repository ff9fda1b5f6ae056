import Tcpcc.Runtime.Kernel
import Tcpcc.Runtime.StartSafe

/-!
# The requests of a startup

What each request of a startup does on a hosted kernel in which nothing outside fails, from the
first route to the limit on the number of listeners.
-/

namespace Tcpcc.Runtime
open Resumption State
open Bridge (SockId)

/-! ## The runtime between the routes of a startup -/

/-- Some routes have been started with one limit on connections, and at most one socket is open
for the next route. -/
structure Startup (maxConnections routes : ℕ) (socket : Option SockId) (s : State) : Prop where
  table : s.table = Function.update (fun _ => none) 0 socket
  unlocked : s.locked = false
  uncalled : s.call = none
  queues : ∀ sk, s.acceptQueue sk = []
  idle : routes = 0 → s.allocated = false ∧ s.bridge.activeSessions = 0 ∧
    s.bridge.completionNotify = none
  serves : 0 < routes → s.allocated = true ∧ s.draining = false ∧ s.stopping = false ∧
    s.maxConnections = maxConnections ∧ s.acceptBatch = maxAcceptBatch ∧ s.listenerCount = routes

variable {m n : ℕ} {s : State} {sk : SockId} {q : Request}

theorem startup_initial (m : ℕ) : Startup m 0 none {} :=
  ⟨by rw [Function.update_eq_self], rfl, rfl, fun _ => rfl, fun _ => ⟨rfl, rfl, rfl⟩, nofun⟩

theorem Startup.lookup {socket : Option SockId} (h : Startup m n socket s) :
    lookup 1 s = socket := by
  unfold Runtime.lookup
  rw [h.table]
  rfl

theorem Startup.freeSlot (h : Startup m n none s) : freeSlot s = some 0 := by
  unfold Runtime.freeSlot
  rw [h.table, Function.update_eq_self]
  rfl

theorem startup_socketFamily (q : Request) (family : IpVersion) (h : Startup m n none s) :
    ∃ t, (socketFamily q family).drive {} s = some ({ status := 0, handle := 1 }, t) ∧
      Startup m n (some s.nextSock) t ∧ t.place s.nextSock = { family := family } ∧
      t.bridge.sock s.nextSock = {} := by
  have hslot : freeSlot (newSock {} { family := family } s).2 = some 0 := h.freeSlot
  have hdrive : (socketFamily q family).drive {} s =
      some (.ofHandle q (installSocket s.nextSock (newSock {} { family := family } s).2).1,
        (installSocket s.nextSock (newSock {} { family := family } s).2).2) := rfl
  rw [hdrive, installSocket, hslot]
  refine ⟨_, rfl, { h with table := ?_ }, Function.update_self .., Function.update_self ..⟩
  change Function.update s.table 0 _ = _
  rw [h.table, Function.update_idem]

theorem startup_bindSock {family : IpVersion} (endpoint : Reply → Endpoint)
    (h : Startup m n (some sk) s) (hplace : s.place sk = { family := family }) :
    ∃ t, (bindSock q sk family endpoint).drive {} s = some (.ofStatus q 0, t) ∧
      Startup m n (some sk) t ∧ t.place sk = { family := family, bound := some (endpoint {}) } ∧
      t.bridge = s.bridge := by
  have hready : bindReply sk family s {} = true := by
    simp [bindReply, hplace, h.queues sk]
  rw [bindSock, Prog.drive_await, if_pos hready]
  refine ⟨_, rfl, { h with }, ?_, rfl⟩
  simp [hplace]

theorem startup_listen (h : Startup m n (some sk) s) (hhandle : q.handle = 1)
    (harg : 0 < q.arg0 ∧ q.arg0 ≤ somaxconn) :
    ∃ t, (controlListen q).drive {} s = some (.ofStatus q 0, t) ∧ Startup m n (some sk) t ∧
      t.bridge.sock sk = { s.bridge.sock sk with state := .listen } := by
  have hvalid : ¬(q.arg0 = 0 ∨ q.arg0 > somaxconn) := by omega
  refine ⟨setSock sk { s.bridge.sock sk with state := .listen } s, ?_, { h with },
    Function.update_self ..⟩
  rw [controlListen, Prog.drive_bind, Prog.drive_block, hhandle, h.lookup]
  simp only [Option.bind_some]
  rw [if_neg hvalid, Prog.drive_await]
  rfl

/-! ## Starting the service -/

structure StartRequest (m : ℕ) (q : Request) : Prop where
  handle : q.handle = 1
  arg0 : q.arg0 = 0
  arg1 : q.arg1 = 0
  length : q.length = serviceConfigSize
  valid : configInvalid q.config = false
  maxConnections : q.config.maxConnections = m
  acceptBatch : q.config.acceptBatch = maxAcceptBatch

section
variable {config : ServiceConfig} {done : State → State}

/-- `tcpcc_service_start` behind its first lock. -/
def finishStart (done : State → State) : Link → Thread ℤ
  | .answer ret => pure ret
  | .first e => startFirst e done
  | .busy e ret => Prog.await unlocked fun s _ => (ret, freeListener e (unlinkListener e s))

theorem startup_serviceStart (h : Startup m n (some sk) s) (hvalid : configInvalid config = false)
    (hlisten : (s.bridge.sock sk).state = .listen) :
    (serviceStart sk config done).drive {} s =
      (finishStart done (beginStart sk config done s {}).1).drive {}
        (beginStart sk config done s {}).2 := by
  have hready : (unlocked s {} && Reply.status {}) = true := by
    simp [unlocked, h.unlocked, Reply.status]
  rw [serviceStart, Prog.drive_bind, Prog.drive_block]
  simp only [Option.bind_some, hvalid, hlisten, ne_eq, not_true, decide_false, Bool.or_false,
    Bool.false_eq_true, if_false]
  rw [Prog.drive_bind, Prog.drive_await, if_pos hready, Option.bind_some]
  cases (beginStart sk config done s {}).1 <;> rfl

theorem startup_full (h : Startup m n (some sk) s) (hn : maxListeners ≤ n)
    (hpolicy : config.maxConnections = m ∧ config.acceptBatch = maxAcceptBatch) :
    beginStart sk config done s {} = (.answer (-ENOSPC), s) := by
  obtain ⟨hallocated, hdraining, hstopping, hmax, hbatch, hcount⟩ :=
    h.serves (lt_of_lt_of_le (by decide) hn)
  simp [beginStart, hallocated, hdraining, hstopping, policyMatches, hmax, hbatch, hpolicy, hcount,
    hn]

theorem Startup.startDone {e : ListenerId} (h : Startup m (n + 1) (some sk) s) :
    Startup m (n + 1) none (startDone e (takeSocket 1 sk) s) where
  table := by
    change Function.update s.table 0 none = _
    rw [h.table, Function.update_idem]
  unlocked := h.unlocked
  uncalled := h.uncalled
  queues := h.queues
  idle := nofun
  serves := h.serves

theorem startup_next (h : Startup m n (some sk) s) (hn : 0 < n) (hroom : n < maxListeners)
    (hpolicy : config.maxConnections = m ∧ config.acceptBatch = maxAcceptBatch)
    (hnull : (s.bridge.sock sk).userData = .null) :
    ∃ t, beginStart sk config (takeSocket 1 sk) s {} = (.answer 0, t) ∧
      Startup m (n + 1) none t := by
  obtain ⟨hallocated, hdraining, hstopping, hmax, hbatch, hcount⟩ := h.serves hn
  have hsock := linkListener_sock s sk config
  have hinstall := installListenerCallback_ok (s := (linkListener sk config s).2)
    (e := s.nextListener) (by rw [hsock]; exact hnull)
  have hlink : (linkListener sk config s).1 = s.nextListener := rfl
  have hbusy : (s.draining || s.stopping) = false := by simp [hdraining, hstopping]
  have hmatch : policyMatches config s = true := by simp [policyMatches, hmax, hbatch, hpolicy]
  have hfull : ¬s.listenerCount ≥ maxListeners := by omega
  have hstarted : Startup m (n + 1) (some sk) (openRoute s.nextListener
      (installListenerCallback s.nextListener (linkListener sk config s).2).2) := by
    rw [hinstall]
    refine { h with idle := nofun, serves := fun _ => ?_ }
    exact ⟨hallocated, hdraining, hstopping, hmax, hbatch, congrArg (· + 1) hcount⟩
  refine ⟨startDone s.nextListener (takeSocket 1 sk) (openRoute s.nextListener
    (installListenerCallback s.nextListener (linkListener sk config s).2).2), ?_,
    hstarted.startDone⟩
  unfold beginStart
  simp only [hallocated, hbusy, hmatch, hfull, hlink, hinstall, Bool.not_true,
    Bool.false_eq_true, if_false, ne_eq, not_true]
  rfl

theorem drive_setCompletionNotifier {α : Type} (notify : ℕ)
    (k : Bridge.Outcome → State → Reply → α × State) (hcall : s.call = none)
    (hactive : s.bridge.activeSessions = 0) (hnone : s.bridge.completionNotify = none) :
    (callBridge .control (.setCompletionNotifier notify) k).drive {} s =
      some (k (.value 0) { s with
        bridge := { s.bridge with initialized := true, completionNotify := some notify }
        call := none } {}) := by
  rw [callBridge, Prog.drive_bind, Prog.drive_await, if_pos (by simp [hcall])]
  simp only [Option.bind_some]
  rw [Prog.drive_bind]
  have hset : ((Bridge.Op.setCompletionNotifier notify).program.lift (fun s => s.bridge)
      State.putBridge).drive {}
        { s with call := some ⟨.control, .setCompletionNotifier notify, s.bridge.allocated⟩ } =
      some (.value 0, { s with
        bridge := { s.bridge with initialized := true, completionNotify := some notify }
        call := some ⟨.control, .setCompletionNotifier notify, s.bridge.allocated⟩ }) := by
    simp [Bridge.Op.program, Bridge.setCompletionNotifier, Prog.block, Prog.await, Prog.lift,
      Prog.drive, putBridge, hactive, hnone]
  rw [hset]
  rfl

theorem startup_startFirst {e : ListenerId} (h : Startup m 1 (some sk) s)
    (hsock : s.listenerSock e = sk) (hnull : (s.bridge.sock sk).userData = .null)
    (hactive : s.bridge.activeSessions = 0) (hnone : s.bridge.completionNotify = none) :
    ∃ t, (startFirst e (takeSocket 1 sk)).drive {} s = some (0, t) ∧ Startup m 1 none t := by
  let notified : State := { s with
    bridge := { s.bridge with initialized := true, completionNotify := some serviceNotifier }
    call := none }
  have hinstall := installListenerCallback_ok (s := notified) (e := e)
    (by rw [show notified.listenerSock e = sk from hsock]; exact hnull)
  have hhook : hookListener e notified = (0, (installListenerCallback e notified).2) := by
    simp [hookListener, hinstall]
  have hopened : Startup m 1 (some sk)
      (createWorker e (installListenerCallback e notified).2 {}).2 := by
    rw [hinstall]
    exact { h with uncalled := rfl, idle := fun hnone => absurd hnone Nat.one_ne_zero }
  refine ⟨startDone e (takeSocket 1 sk)
    { (createWorker e (installListenerCallback e notified).2 {}).2 with task := true }, ?_,
    Startup.startDone (n := 0) { hopened with }⟩
  rw [startFirst, Prog.drive_bind, drive_setCompletionNotifier _ _ h.uncalled hactive hnone]
  simp only [Option.bind_some]
  change Prog.drive ({} : Reply) (if (hookListener e notified).1 ≠ 0 then _ else _)
    (hookListener e notified).2 = _
  have hstatus : Reply.status {} = true := rfl
  rw [hhook, if_neg (fun hne => hne rfl), Prog.drive_bind, Prog.drive_await, if_pos hstatus]
  simp only [Option.bind_some]
  change Prog.drive ({} : Reply) (Prog.await unlocked _) _ = _
  rw [Prog.drive_await, if_pos (by simpa [unlocked] using hopened.unlocked)]

theorem startup_first (h : Startup m 0 (some sk) s) (hpolicy : config.maxConnections = m ∧
      config.acceptBatch = maxAcceptBatch) (hnull : (s.bridge.sock sk).userData = .null) :
    ∃ t, (finishStart (takeSocket 1 sk) (beginStart sk config (takeSocket 1 sk) s {}).1).drive {}
        (beginStart sk config (takeSocket 1 sk) s {}).2 = some (0, t) ∧ Startup m 1 none t := by
  obtain ⟨hdown, hactive, hnone⟩ := h.idle rfl
  have hbegin : beginStart sk config (takeSocket 1 sk) s {} =
      (.first s.nextListener, (linkListener sk config (resetStart config s)).2) := by
    simp [beginStart, hdown, linkListener, resetStart]
  have hlinked : Startup m 1 (some sk) (linkListener sk config (resetStart config s)).2 :=
    { h with
      idle := fun hnone => absurd hnone Nat.one_ne_zero
      serves := fun _ => ⟨rfl, rfl, rfl, hpolicy.1, hpolicy.2, rfl⟩ }
  rw [hbegin]
  exact startup_startFirst hlinked (linkListener_sock _ sk config) hnull hactive hnone

end

theorem drive_controlServiceStart (h : Startup m n (some sk) s) (hq : StartRequest m q) :
    (controlServiceStart q).drive {} s =
      ((serviceStart sk q.config (takeSocket 1 sk)).drive {} s).map fun a =>
        (if a.1 ≠ 0 then .ofStatus q a.1 else { status := 0, handle := serviceHandle }, a.2) := by
  have hvalid : ¬(q.arg0 ≠ 0 ∨ q.arg1 ≠ 0 ∨ q.length ≠ serviceConfigSize) := by
    simp [hq.arg0, hq.arg1, hq.length]
  rw [controlServiceStart, Prog.drive_bind, Prog.drive_block, hq.handle, h.lookup]
  simp only [Option.bind_some]
  rw [if_neg hvalid, Prog.drive_bind]
  exact Option.map_eq_bind.symm

theorem startup_started (h : Startup m n (some sk) s) (hq : StartRequest m q)
    (hlisten : (s.bridge.sock sk).state = .listen)
    (hnull : (s.bridge.sock sk).userData = .null) (hroom : n < maxListeners) :
    ∃ t, (controlServiceStart q).drive {} s =
        some ({ status := 0, handle := serviceHandle }, t) ∧ Startup m (n + 1) none t := by
  have hpolicy := And.intro hq.maxConnections hq.acceptBatch
  rw [drive_controlServiceStart h hq, startup_serviceStart h hq.valid hlisten]
  rcases Nat.eq_zero_or_pos n with rfl | hn
  · obtain ⟨t, hdrive, ht⟩ := startup_first h hpolicy hnull
    rw [hdrive]
    exact ⟨t, rfl, ht⟩
  · obtain ⟨t, hbegin, ht⟩ := startup_next h hn hroom hpolicy hnull
    rw [hbegin]
    exact ⟨t, rfl, ht⟩

theorem startup_refused (h : Startup m n (some sk) s) (hq : StartRequest m q)
    (hlisten : (s.bridge.sock sk).state = .listen) (hfull : maxListeners ≤ n) :
    (controlServiceStart q).drive {} s = some (.ofStatus q (-ENOSPC), s) := by
  have hpolicy := And.intro hq.maxConnections hq.acceptBatch
  rw [drive_controlServiceStart h hq, startup_serviceStart h hq.valid hlisten,
    startup_full h hfull hpolicy]
  rfl

theorem startup_bindIp {endpoint : Endpoint} (h : Startup m n (some sk) s)
    (hcheck : bindIpCheck q s = .ok (sk, endpoint))
    (hplace : s.place sk = { family := endpoint.version }) :
    ∃ t, (controlBindIp q).drive {} s = some (.ofStatus q 0, t) ∧ Startup m n (some sk) t ∧
      t.bridge = s.bridge := by
  rw [controlBindIp, Prog.drive_bind, Prog.drive_block, hcheck]
  obtain ⟨t, hdrive, ht, -, hbridge⟩ := startup_bindSock (fun _ => endpoint) h hplace
  exact ⟨t, hdrive, ht, hbridge⟩

end Tcpcc.Runtime

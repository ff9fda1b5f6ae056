import Tcpcc.Native.Lifecycle

/-!
# The native command as a transaction

Whatever step of `main` fails: the rules that it made are removed once, in reverse order, when the
child is gone and the TUN descriptor is still open; nothing else is removed; and it exits with
status 0 only if all of that and the child went well. The child is told and reaped by its own
identifier, unless the start of the process left a stale one behind.
-/

namespace Tcpcc.Native
open Control Trace

/-! ## Actions that leave the firewall alone -/

def Orderly (actions : List Action) : Prop :=
  Always (fun before a => ∀ c ok, a = .firewall c ok → c.isRemoval = true →
    running before = [] ∧ Action.closeTun ∉ before) actions

structure Quietly (s t : Supervisor) : Prop where
  netfilter : t.netfilter = s.netfilter
  journal : journal t.actions = journal s.actions
  tun : .closeTun ∈ t.actions → .closeTun ∈ s.actions
  orderly : Orderly s.actions → Orderly t.actions
  grows : s.actions ⊆ t.actions

theorem Quietly.refl (s : Supervisor) : Quietly s s := ⟨rfl, rfl, id, id, List.Subset.refl _⟩

variable {s t : Supervisor} {w : World} {stale : Bool} {config : Config} {n : Netfilter}

theorem Quietly.trans {u : Supervisor} (h : Quietly s t) (h' : Quietly t u) : Quietly s u where
  netfilter := h'.netfilter.trans h.netfilter
  journal := h'.journal.trans h.journal
  tun := h.tun ∘ h'.tun
  orderly := h'.orderly ∘ h.orderly
  grows := List.Subset.trans h.grows h'.grows

theorem quietly_append {l : List Action} (hn : t.netfilter = s.netfilter)
    (hactions : t.actions = s.actions ++ l) (hl : ∀ a ∈ l, commandOf a = none ∧ a ≠ .closeTun) :
    Quietly s t where
  netfilter := hn
  journal := by
    have hnone : l.filterMap commandOf = [] := List.filterMap_eq_nil_iff.mpr fun a ha => (hl a ha).1
    rw [hactions, journal, List.filterMap_append, hnone, List.append_nil]
    rfl
  tun := by
    intro h
    rw [hactions, List.mem_append] at h
    exact h.resolve_right fun h => (hl _ h).2 rfl
  orderly := by
    intro h
    rw [hactions]
    refine always_append.mpr ⟨h, ?_⟩
    rintro before a after rfl c ok rfl
    have := (hl (.firewall c ok) (by simp)).1
    cases this
  grows := by
    rw [hactions]
    exact List.subset_append_left _ _

theorem quietly_log (s : Supervisor) (c : Syscall) : Quietly s (s.log (.process c)) :=
  quietly_append rfl rfl (by simp [commandOf])

theorem quietly_talk {α : Type} {d : Dialogue α} : Quietly s (s.talk w d).2 := by
  refine quietly_append rfl rfl ?_
  intro a ha
  obtain ⟨e, -, rfl⟩ := List.mem_map.mp ha
  exact ⟨rfl, nofun⟩

theorem quietly_closeFd (s : Supervisor) (fd : ℤ) : Quietly s (closeFd s fd) := by
  unfold closeFd
  split
  · exact quietly_log _ _
  · exact .refl s

theorem quietly_closeChannels : Quietly s (hostedProcessCloseChannels s) := by
  have h := (quietly_closeFd s s.process.requestFd).trans
    (quietly_closeFd _ s.process.responseFd)
  exact ⟨h.netfilter, h.journal, h.tun, h.orderly, h.grows⟩

theorem quietly_signal : Quietly s (hostedProcessSignal s) := by
  unfold hostedProcessSignal
  split
  · exact .refl s
  · exact quietly_log _ _

theorem quietly_wait : Quietly s (hostedProcessWait s).2 := by
  unfold hostedProcessWait
  split
  · exact .refl s
  · split
    · have h := (quietly_log s (.waited s.process.pid true)).trans
        (quietly_closeFd _ s.process.pidFd)
      exact ⟨h.netfilter, h.journal, h.tun, h.orderly, h.grows⟩
    · exact quietly_log _ _

theorem quietly_runtimeStart (w : World) (inet : Inet) (config : Config) (s : Supervisor) :
    Quietly s (runtimeStart w inet config s).2 := by
  unfold runtimeStart
  split
  · exact .refl s
  · have h : Quietly s { s with
        process := (hostedProcessStart w.start).2.process
        actions := s.actions ++ (hostedProcessStart w.start).2.trace.map .process } := by
      refine quietly_append rfl rfl ?_
      intro a ha
      obtain ⟨c, -, rfl⟩ := List.mem_map.mp ha
      exact ⟨rfl, nofun⟩
    dsimp only
    split
    · exact h
    · exact h.trans quietly_talk

theorem quietly_abandonRuntime {service : Option ℕ} : Quietly s (abandonRuntime w service s) := by
  unfold abandonRuntime
  cases service with
  | none => exact (quietly_signal.trans quietly_closeChannels).trans quietly_wait
  | some handle =>
    exact ((quietly_talk.trans quietly_signal).trans quietly_closeChannels).trans quietly_wait

theorem quietly_awaitExit : Quietly s (awaitExit w s).2 := by
  unfold awaitExit
  split
  · exact quietly_wait
  · exact .refl s

theorem quietly_serve (w : World) (inet : Inet) (config : Config) (fs : List Firewall)
    (s : Supervisor) : Quietly s (serve w inet config fs s).supervisor ∧
      (serve w inet config fs s).firewalls = fs := by
  have hstart := quietly_runtimeStart w inet config s
  unfold serve
  dsimp only
  split
  · exact ⟨hstart, rfl⟩
  · split
    · refine ⟨?_, rfl⟩
      dsimp only
      exact hstart.trans quietly_talk
    · refine ⟨?_, rfl⟩
      dsimp only
      exact ((hstart.trans quietly_talk).trans quietly_closeChannels).trans quietly_awaitExit

/-! ## The child -/

theorem syscalls_append (l k : List Action) : syscalls (l ++ k) = syscalls l ++ syscalls k :=
  List.filterMap_append

theorem children_snoc (l : List Action) (c : Syscall) :
    running (l ++ [.process c]) = childrenAfter (running l) c := by
  rw [running, syscalls_append]
  exact children_append _ _

structure Follows (s t : Supervisor) : Prop where
  running : running t.actions = running s.actions
  tended : Tended (syscalls t.actions) ↔ Tended (syscalls s.actions)
  pid : t.process.pid = s.process.pid

theorem Follows.trans {u : Supervisor} (h : Follows s t) (h' : Follows t u) : Follows s u where
  running := h'.running.trans h.running
  tended := h'.tended.trans h.tended
  pid := h'.pid.trans h.pid

theorem follows_talk {α : Type} (w : World) (d : Dialogue α) (s : Supervisor) :
    Follows s (s.talk w d).2 := by
  have hsame : syscalls (s.talk w d).2.actions = syscalls s.actions := by
    have hnone :
        syscalls ((d.run w.answer s.asked).2.map fun e => Action.control e.1 e.2) = [] := by
      simp [syscalls, syscallOf, List.filterMap_eq_nil_iff]
    change syscalls (s.actions ++ _) = _
    rw [syscalls_append, hnone, List.append_nil]
  exact ⟨congrArg children hsame, by rw [hsame], rfl⟩

theorem tended_log {c : Syscall} :
    Tended (syscalls (s.log (.process c)).actions) ↔
      Tended (syscalls s.actions) ∧ ∀ pid, c.target = some pid → pid ∈ running s.actions := by
  change Tended (syscalls (s.actions ++ _)) ↔ _
  rw [syscalls_append]
  exact always_concat

theorem follows_closeFd (s : Supervisor) (fd : ℤ) : Follows s (closeFd s fd) := by
  unfold closeFd
  split
  · refine ⟨children_snoc _ _, ?_, rfl⟩
    rw [tended_log]
    exact and_iff_left nofun
  · exact ⟨rfl, .rfl, rfl⟩

theorem follows_closeChannels (s : Supervisor) : Follows s (hostedProcessCloseChannels s) := by
  have h := (follows_closeFd s s.process.requestFd).trans (follows_closeFd _ s.process.responseFd)
  exact ⟨h.running, h.tended, rfl⟩

structure Raised (s : Supervisor) (pid : ℤ) : Prop where
  positive : 0 < pid
  running : running s.actions = [pid]
  process : s.process.pid = pid
  tended : Tended (syscalls s.actions)

theorem Raised.follows {pid : ℤ} (h : Raised s pid) (hfollows : Follows s t) :
    Raised t pid where
  positive := h.positive
  running := hfollows.running.trans h.running
  process := hfollows.pid.trans h.process
  tended := hfollows.tended.mpr h.tended

/-- Where the process stands: there is none, the child runs and the runtime was not stopped, or
the record names a child that was reaped. -/
inductive Standing (s : Supervisor) : Bool → Bool → Prop
  | none {stopped : Bool} (hrunning : running s.actions = []) (hpid : s.process.pid ≤ 0)
    (htended : Tended (syscalls s.actions)) : Standing s stopped false
  | child {pid : ℤ} (h : Raised s pid) : Standing s false false
  | stale (hrunning : running s.actions = []) (hpid : 0 < s.process.pid)
    (htended : Tended (syscalls s.actions)) : Standing s false true

theorem Standing.follows {stopped : Bool} (h : Standing s stopped stale) (hfollows : Follows s t) :
    Standing t stopped stale := by
  cases h with
  | none hrunning hpid htended =>
    exact .none (hfollows.running.trans hrunning) (hfollows.pid ▸ hpid)
      (hfollows.tended.mpr htended)
  | child hraised => exact .child (hraised.follows hfollows)
  | stale hrunning hpid htended =>
    exact .stale (hfollows.running.trans hrunning) (hfollows.pid ▸ hpid)
      (hfollows.tended.mpr htended)

theorem wait_child {pid : ℤ} (h : Raised s pid) :
    (hostedProcessWait s).1 = true ∧ running (hostedProcessWait s).2.actions = [] ∧
      (hostedProcessWait s).2.process.pid = -1 ∧
      Tended (syscalls (hostedProcessWait s).2.actions) ∧
      .process (.waited pid true) ∈ (hostedProcessWait s).2.actions := by
  have hmem : s.process.pid ∈ running s.actions := by simp [h.running, h.process]
  have hnot : ¬ s.process.pid ≤ 0 := by
    rw [h.process]
    exact Int.not_le.mpr h.positive
  have hclosed := follows_closeFd (s.log (.process (.waited s.process.pid true))) s.process.pidFd
  have hlogged : .process (.waited pid true) ∈
      (s.log (.process (.waited s.process.pid true))).actions := by
    simp [Supervisor.log, h.process]
  simp only [hostedProcessWait, hnot, hmem, if_false, if_true, true_and]
  refine ⟨?_, ?_, ?_⟩
  · rw [hclosed.running, Supervisor.log, children_snoc, h.running, h.process]
    simp [childrenAfter]
  · refine hclosed.tended.mpr (tended_log.mpr ⟨h.tended, ?_⟩)
    rintro _ ⟨⟩
    exact hmem
  · unfold closeFd
    split
    · exact List.mem_append_left _ hlogged
    · exact hlogged

theorem abandon_standing {service : Option ℕ} (h : Standing s false stale)
    (hpid : 0 < s.process.pid) :
    running (abandonRuntime w service s).actions = [] ∧
      (Tended (syscalls (abandonRuntime w service s).actions) ↔ stale = false) := by
  have key : ∀ t, Follows s t →
      running (hostedProcessWait (hostedProcessCloseChannels (hostedProcessSignal t))).2.actions =
        [] ∧
      (Tended (syscalls (hostedProcessWait (hostedProcessCloseChannels
        (hostedProcessSignal t))).2.actions) ↔ stale = false) := by
    intro t hfollows
    have hnot : ¬ t.process.pid ≤ 0 := by
      have := hfollows.pid
      omega
    have hsignal : hostedProcessSignal t = t.log (.process (.killed t.process.pid)) := by
      rw [hostedProcessSignal, if_neg hnot]
    have hsent : running (hostedProcessSignal t).actions = running t.actions := by
      rw [hsignal, Supervisor.log, children_snoc]
      rfl
    have hclosed := follows_closeChannels (hostedProcessSignal t)
    have hclosedPid : (hostedProcessCloseChannels (hostedProcessSignal t)).process.pid =
        t.process.pid := by
      rw [hclosed.pid, hsignal]
      rfl
    cases h with
    | none _ hnone => omega
    | child hraised =>
      have hraised' := hraised.follows hfollows
      have htold : Tended (syscalls (hostedProcessSignal t).actions) := by
        rw [hsignal]
        refine tended_log.mpr ⟨hraised'.tended, ?_⟩
        rintro _ ⟨⟩
        simp [hraised'.running, hraised'.process]
      obtain ⟨-, hrunning, -, htended, -⟩ := wait_child ⟨hraised'.positive,
        hclosed.running.trans (hsent.trans hraised'.running), hclosedPid.trans hraised'.process,
        hclosed.tended.mpr htold⟩
      exact ⟨hrunning, iff_of_true htended rfl⟩
    | stale hrunning hchild htended =>
      have hkids : running t.actions = [] := hfollows.running.trans hrunning
      have hgone : running (hostedProcessCloseChannels (hostedProcessSignal t)).actions = [] :=
        hclosed.running.trans (hsent.trans hkids)
      simp only [hostedProcessWait, hclosedPid, hnot, hgone, List.not_mem_nil, if_false]
      refine ⟨?_, iff_of_false (fun htended' => ?_) (by simp)⟩
      · rw [Supervisor.log, children_snoc, hgone]
        rfl
      · -- the signal went to a process that was reaped before
        have htold := hclosed.tended.mp (tended_log.mp htended').1
        rw [hsignal] at htold
        have hin := (tended_log.mp htold).2 _ rfl
        rw [hkids] at hin
        cases hin
  unfold abandonRuntime
  cases service with
  | none => exact key s ⟨rfl, .rfl, rfl⟩
  | some handle => exact key _ (follows_talk w _ s)

/-! ## The stages of `main` -/

theorem runtimeStart_standing (inet : Inet) (config : Config) {s : Supervisor}
    (hfresh : w.start.Fresh) (hblank : s.process = {}) (hnone : syscalls s.actions = []) :
    Standing (runtimeStart w inet config s).2 false (w.arguments && w.start.eventFails) ∧
      ((runtimeStart w inet config s).1.1 = true → w.start.eventFails = false ∧
        ∃ pid, w.start.fork = some pid ∧ Raised (runtimeStart w inet config s).2 pid) := by
  unfold runtimeStart
  cases harguments : w.arguments with
  | false =>
    simp only [if_true, Bool.false_and]
    refine ⟨.none ?_ ?_ ?_, nofun⟩
    · rw [running, hnone]
      rfl
    · simp [hblank]
    · rw [hnone]
      exact always_nil
  | true =>
  have hsyscalls : syscalls (s.actions ++ (hostedProcessStart w.start).2.trace.map .process) =
      (hostedProcessStart w.start).2.trace := by
    rw [syscalls_append, hnone, syscalls, List.filterMap_map]
    exact List.filterMap_some
  simp only [Bool.true_eq_false, if_false, Bool.true_and]
  rcases start_cases hfresh with ⟨hfail, p, ⟨closed, haccounted, -⟩, hprocess⟩ |
    ⟨hok, child, ⟨p, closed, haccounted, hpid⟩, hfork, hevent⟩
  · rw [if_pos (by simp [hfail])]
    refine ⟨?_, nofun⟩
    have hrunning : running (s.actions ++ (hostedProcessStart w.start).2.trace.map .process) = [] :=
      (congrArg children hsyscalls).trans haccounted.children
    have htended := haccounted.tended
    rw [← hsyscalls] at htended
    rcases hprocess with ⟨hevent, hp⟩ | ⟨hevent, child, hfork, hpid⟩
    · rw [hevent]
      refine .none hrunning ?_ htended
      simp [haccounted.process, hp]
    · rw [hevent]
      refine .stale hrunning ?_ htended
      have := hfresh.child child hfork
      simpa [haccounted.process, hpid] using this
  · have hpositive := hfresh.child child hfork
    have hraised : Raised { s with
        process := (hostedProcessStart w.start).2.process
        actions := s.actions ++ (hostedProcessStart w.start).2.trace.map .process } child := by
      have htended := haccounted.tended
      rw [← hsyscalls] at htended
      refine ⟨hpositive, ?_, ?_, htended⟩
      · exact (congrArg children hsyscalls).trans haccounted.children
      · simpa [haccounted.process] using hpid
    rw [hevent]
    split
    · exact ⟨.child hraised, nofun⟩
    · have hraised' := hraised.follows (follows_talk w (Dialogue.runtimeStart inet config) _)
      exact ⟨.child hraised', fun _ => ⟨rfl, child, hfork, hraised'⟩⟩

structure Stage.Settled (stage : Stage) (w : World) (stale : Bool) : Prop where
  standing : Standing stage.supervisor stage.stopped stale
  success : stage.result = 0 → w.exitsCleanly = true ∧
    ∃ pid, w.start.fork = some pid ∧ .process (.waited pid true) ∈ stage.supervisor.actions

theorem serve_settled {inet : Inet} {fs : List Firewall} (hfresh : w.start.Fresh)
    (hblank : s.process = {}) (hnone : syscalls s.actions = []) :
    (serve w inet config fs s).Settled w (w.arguments && w.start.eventFails) := by
  obtain ⟨hstanding, hstarted⟩ :=
    runtimeStart_standing inet config hfresh hblank hnone
  unfold serve
  rcases hruntime : runtimeStart w inet config s with ⟨⟨ok, service⟩, t⟩
  rw [hruntime] at hstanding hstarted
  dsimp only at hstanding hstarted ⊢
  split
  · exact ⟨hstanding, nofun⟩
  case isFalse hgo =>
  obtain ⟨hok, -⟩ := not_or.mp hgo
  obtain ⟨hevent, pid, hfork, hraised⟩ := hstarted (by simpa using hok)
  have hfollows := follows_talk w (Dialogue.shutdownRuntime config.graceMs (service.getD 0)) t
  rcases htalk : t.talk w (Dialogue.shutdownRuntime config.graceMs (service.getD 0)) with ⟨shut, u⟩
  rw [htalk] at hfollows
  dsimp only at hfollows ⊢
  split
  · exact ⟨hstanding.follows hfollows, nofun⟩
  · have hafter := (hraised.follows hfollows).follows (follows_closeChannels u)
    obtain ⟨hwaited, hrunning, hpid, htended, hlogged⟩ := wait_child hafter
    have hpositive : 0 < (hostedProcessCloseChannels u).process.pid := by
      rw [hafter.process]
      exact hafter.positive
    simp only [awaitExit, hpositive, if_true, hwaited, Bool.true_and, hevent, Bool.and_false]
    refine ⟨.none hrunning (by rw [hpid]; decide) htended, fun hresult => ⟨?_, pid, hfork, hlogged⟩⟩
    by_contra hdirty
    simp [hdirty] at hresult

def reachesStart (w : World) (config : Config) (n : Netfilter) : Bool :=
  w.masked && w.signalFd &&
    match tunOpen w config with
    | none => false
    | some config => (installAll w config 0 config.routes n).1 && w.arguments

theorem syscalls_commanded (s : Supervisor) (n : Netfilter) (j : Journal) :
    syscalls (s.commanded n j).actions = syscalls s.actions := by
  have hnone : syscalls (j.map fun e => Action.firewall e.1 e.2) = [] := by
    simp [syscalls, syscallOf, List.filterMap_eq_nil_iff]
  change syscalls (s.actions ++ _) = _
  rw [syscalls_append, hnone, List.append_nil]

theorem launch_settled {inet : Inet} (hfresh : w.start.Fresh) :
    (launch w inet config n).Settled w (reachesStart w config n && w.start.eventFails) := by
  have hidle : ∀ s : Supervisor, s.process = {} → syscalls s.actions = [] →
      ∀ fs tun, Stage.Settled { supervisor := s, firewalls := fs, tun := tun } w false := by
    intro s hblank hnone fs tun
    refine ⟨.none ?_ (by simp [hblank]) ?_, nofun⟩
    · rw [running, hnone]
      rfl
    · rw [hnone]
      exact always_nil
  unfold launch reachesStart
  split
  case isTrue hsignals =>
    have hunreached : (w.masked && w.signalFd) = false := by
      rcases hsignals with h | h <;> simp [h]
    rw [hunreached]
    exact hidle _ rfl rfl _ _
  case isFalse hsignals =>
    have hreached : (w.masked && w.signalFd) = true := by simpa using hsignals
    rw [hreached]
    cases tunOpen w config with
    | none => exact hidle _ rfl rfl _ _
    | some config =>
      rcases hinstall : installAll w config 0 config.routes n with ⟨ok, fs, n', j⟩
      have hnone := syscalls_commanded { netfilter := n } n' j
      simp only [hinstall, Bool.true_and]
      cases ok with
      | false => exact hidle _ rfl hnone _ _
      | true => exact serve_settled hfresh rfl hnone

/-! ## The policies of the routes -/

structure Opened (fs installed : List Firewall) (n n' : Netfilter) (j : Journal) : Prop where
  split : ∃ g attempt, j = creations installed ++ attempt ∧ Attempt g attempt
  named : ∀ f ∈ installed, f.Named
  installed : fs.filter (·.installed) = installed
  replayed : replay n j = some n'

theorem installAll_opened {i : ℕ} {routes : List Route} {n' : Netfilter} {ok : Bool}
    {fs : List Firewall} {j : Journal} (h : installAll w config i routes n = (ok, fs, n', j)) :
    Opened fs (fs.filter (·.installed)) n n' j ∧
      (ok = true → j = creations (fs.filter (·.installed))) := by
  induction routes generalizing i n n' ok fs j with
  | nil =>
    cases h
    exact ⟨⟨⟨{}, [], rfl, .none⟩, nofun, rfl, rfl⟩, fun _ => rfl⟩
  | cons route routes ih =>
    rcases hinstall : firewallInstall config w.pid route.listen (w.install i) n with ⟨f, n₁, j₁⟩
    obtain ⟨hreplay, hok, hfailed⟩ := firewallInstall_journal hinstall
    simp only [installAll, hinstall] at h
    cases hinstalled : f.installed with
    | false =>
      simp only [hinstalled, if_true] at h
      cases h
      have hnone : (f :: List.replicate routes.length {}).filter (·.installed) = [] := by
        rw [List.filter_cons_of_neg (by simp [hinstalled]), List.filter_eq_nil_iff]
        intro g hg
        rw [List.eq_of_mem_replicate hg]
        decide
      rw [hnone]
      exact ⟨⟨⟨f, j, rfl, hfailed hinstalled⟩, nofun, hnone, hreplay⟩, nofun⟩
    | true =>
      obtain ⟨hnamed, rfl⟩ := hok hinstalled
      rcases hrest : installAll w config (i + 1) routes n₁ with ⟨oks, gs, n₂, js⟩
      obtain ⟨⟨⟨g, attempt, rfl, hattempt⟩, hgs, -, hreplays⟩, hall⟩ := ih hrest
      simp only [hinstalled, hrest, Bool.true_eq_false, if_false] at h
      cases h
      have hcons : (f :: gs).filter (·.installed) = f :: gs.filter (·.installed) :=
        List.filter_cons_of_pos hinstalled
      rw [hcons]
      refine ⟨⟨⟨g, attempt, by simp [creations], hattempt⟩, ?_, hcons, ?_⟩, fun hoks => ?_⟩
      · exact List.forall_mem_cons.mpr ⟨hnamed, hgs⟩
      · exact replay_append.mpr ⟨n₁, hreplay, hreplays⟩
      · rw [hall hoks]
        rfl

theorem closeAll_closed {fs : List Firewall} {n' : Netfilter} {ok : Bool} {j : Journal}
    (h : closeAll w fs n = (ok, n', j)) :
    replay n j = some n' ∧
      j.map Prod.fst = (fs.filter (·.installed)).flatMap Firewall.removal ∧
      (ok = true ↔ ∀ e ∈ j, e.2 = true) := by
  induction fs generalizing n n' ok j with
  | nil =>
    cases h
    exact ⟨rfl, rfl, by simp⟩
  | cons f fs ih =>
    rcases hclose : firewallClose f (w.close fs.length) n with ⟨ok₁, n₁, j₁⟩
    rcases hrest : closeAll w fs n₁ with ⟨oks, n₂, js⟩
    obtain ⟨hreplay, hcommands, hok⟩ := firewallClose_journal hclose
    obtain ⟨hreplays, hcommandss, hoks⟩ := ih hrest
    simp only [closeAll, hclose, hrest] at h
    cases h
    refine ⟨replay_append.mpr ⟨n₁, hreplay, hreplays⟩, ?_, ?_⟩
    · rw [List.map_append, hcommands, hcommandss]
      cases hinstalled : f.installed <;> simp [hinstalled]
    · rw [Bool.and_eq_true, hok, hoks]
      simp only [List.mem_append, or_imp, forall_and]

theorem journal_commanded (s : Supervisor) (n : Netfilter) (j : Journal) :
    journal (s.commanded n j).actions = journal s.actions ++ j := by
  change journal (s.actions ++ _) = _
  rw [journal, List.filterMap_append, List.filterMap_map]
  congr 1
  exact List.filterMap_some

theorem orderly_commanded {j : Journal} (h : Orderly s.actions) (hrunning : running s.actions = [])
    (htun : Action.closeTun ∉ s.actions) : Orderly (s.commanded n j).actions := by
  refine always_append.mpr ⟨h, ?_⟩
  intro before a after hsplit c ok _ _
  have hbefore : ∀ b ∈ before, ∃ e : Command × Bool, b = .firewall e.1 e.2 := by
    intro b hb
    have hin : b ∈ j.map fun e => Action.firewall e.1 e.2 := by
      rw [hsplit]
      exact List.mem_append_left _ hb
    obtain ⟨e, -, rfl⟩ := List.mem_map.mp hin
    exact ⟨e, rfl⟩
  constructor
  · have hnone : syscalls before = [] := by
      rw [syscalls, List.filterMap_eq_nil_iff]
      intro b hb
      obtain ⟨e, rfl⟩ := hbefore b hb
      rfl
    rw [running, syscalls_append, hnone, List.append_nil]
    exact hrunning
  · rw [List.mem_append, not_or]
    refine ⟨htun, fun hin => ?_⟩
    obtain ⟨e, he⟩ := hbefore _ hin
    cases he

structure Stage.Guarded (stage : Stage) (n : Netfilter) : Prop where
  opened : Opened stage.firewalls (stage.firewalls.filter (·.installed)) n
    stage.supervisor.netfilter (journal stage.supervisor.actions)
  orderly : Orderly stage.supervisor.actions
  tun : .closeTun ∉ stage.supervisor.actions
  success : stage.result = 0 →
    journal stage.supervisor.actions = creations (stage.firewalls.filter (·.installed))

theorem launch_guarded {inet : Inet} : (launch w inet config n).Guarded n := by
  have hblank : ∀ k : ℕ, Stage.Guarded ⟨{ netfilter := n }, List.replicate k {}, false, none,
      false, 1⟩ n := by
    intro k
    have hnone : (List.replicate k ({} : Firewall)).filter (·.installed) = [] := by
      rw [List.filter_eq_nil_iff]
      intro g hg
      rw [List.eq_of_mem_replicate hg]
      decide
    refine ⟨?_, always_nil, nofun, nofun⟩
    rw [hnone]
    exact ⟨⟨{}, [], rfl, .none⟩, nofun, hnone, rfl⟩
  unfold launch
  split
  · exact hblank _
  cases tunOpen w config with
  | none => exact hblank _
  | some config =>
    rcases hinstall : installAll w config 0 config.routes n with ⟨ok, fs, n', j⟩
    obtain ⟨hopened, hall⟩ := installAll_opened hinstall
    have hjournal : journal (Supervisor.commanded { netfilter := n } n' j).actions = j :=
      journal_commanded _ _ _
    have horderly : Orderly (Supervisor.commanded { netfilter := n } n' j).actions :=
      orderly_commanded always_nil rfl nofun
    have htun : .closeTun ∉ (Supervisor.commanded { netfilter := n } n' j).actions := by
      simp [Supervisor.commanded]
    simp only [hinstall]
    cases ok with
    | false => exact ⟨hjournal.symm ▸ hopened, horderly, htun, nofun⟩
    | true =>
      obtain ⟨hquiet, hfs⟩ := quietly_serve w inet config fs
        (Supervisor.commanded { netfilter := n } n' j)
      simp only [Bool.true_eq_false, if_false]
      refine ⟨?_, hquiet.orderly horderly, fun h => htun (hquiet.tun h), fun _ => ?_⟩
      · rw [hfs, hquiet.netfilter, hquiet.journal, hjournal]
        exact hopened
      · rw [hfs, hquiet.journal, hjournal]
        exact hall rfl

/-! ## The whole run -/

theorem cleanup_child {stage : Stage} (hsettled : stage.Settled w stale)
    (hs : (if 0 < stage.supervisor.process.pid ∧ stage.stopped = false then
      abandonRuntime w stage.service stage.supervisor else stage.supervisor) = s) :
    Quietly stage.supervisor s ∧ running s.actions = [] ∧
      (Tended (syscalls s.actions) ↔ stale = false) := by
  have hstanding := hsettled.standing
  split at hs
  case isTrue hpid =>
    subst hs
    rw [hpid.2] at hstanding
    exact ⟨quietly_abandonRuntime, abandon_standing hstanding hpid.1⟩
  case isFalse hpid =>
    subst hs
    refine ⟨.refl _, ?_⟩
    generalize hstopped : stage.stopped = stopped at hstanding
    cases hstanding with
    | none hrunning _ htended => exact ⟨hrunning, iff_of_true htended rfl⟩
    | child hraised => exact absurd ⟨hraised.process ▸ hraised.positive, hstopped⟩ hpid
    | stale _ hpositive => exact absurd ⟨hpositive, hstopped⟩ hpid

theorem creations_removed (fs : List Firewall) : Removed (creations fs) := by
  intro e he _
  obtain ⟨f, -, hin⟩ := List.mem_flatMap.mp he
  obtain ⟨c, -, rfl⟩ := List.mem_map.mp hin
  rfl

structure Kept (w : World) (n : Netfilter) (stale : Bool) (status : ℤ) (s : Supervisor) : Prop where
  balanced : ∃ installed g attempt closing,
    journal s.actions = creations installed ++ attempt ++ closing ∧ Attempt g attempt ∧
      closing.map Prod.fst = removals installed ∧ ∀ f ∈ installed, f.Named
  replayed : replay n (journal s.actions) = some s.netfilter
  orderly : Orderly s.actions
  tended : Tended (syscalls s.actions) ↔ stale = false
  success : status = 0 → (w.exitsCleanly = true ∧ ∃ pid, w.start.fork = some pid ∧
    .process (.waited pid true) ∈ s.actions) ∧ Removed (journal s.actions)

theorem Kept.closeTun {status : ℤ} (h : Kept w n stale status s) :
    Kept w n stale status (s.log .closeTun) := by
  have hjournal : Native.journal (s.log .closeTun).actions = Native.journal s.actions := by
    change Native.journal (s.actions ++ _) = _
    rw [Native.journal, List.filterMap_append]
    exact List.append_nil _
  have hsyscalls : syscalls (s.log .closeTun).actions = syscalls s.actions := by
    change syscalls (s.actions ++ _) = _
    rw [syscalls_append]
    exact List.append_nil _
  constructor
  · rw [hjournal]
    exact h.balanced
  · rw [hjournal]
    exact h.replayed
  · exact always_concat.mpr ⟨h.orderly, nofun⟩
  · rw [hsyscalls]
    exact h.tended
  · intro hstatus
    obtain ⟨⟨hclean, pid, hfork, hwaited⟩, hremoved⟩ := h.success hstatus
    rw [hjournal]
    exact ⟨⟨hclean, pid, hfork, List.mem_append_left _ hwaited⟩, hremoved⟩

theorem cleanup_kept {stage : Stage} (hsettled : stage.Settled w stale)
    (hguarded : stage.Guarded n) :
    Kept w n stale (cleanup w stage).1 (cleanup w stage).2 := by
  unfold cleanup
  dsimp only
  generalize hs : (if 0 < stage.supervisor.process.pid ∧ stage.stopped = false then
    abandonRuntime w stage.service stage.supervisor else stage.supervisor) = s
  obtain ⟨hquiet, hrunning, htended⟩ := cleanup_child hsettled hs
  rcases hclose : closeAll w stage.firewalls.reverse s.netfilter with ⟨ok, n', closing⟩
  obtain ⟨hreplay, hcommands, hok⟩ := closeAll_closed hclose
  obtain ⟨⟨g, attempt, hopening, hattempt⟩, hnamed, -, hreplayed⟩ := hguarded.opened
  have hjournal : journal (s.commanded n' closing).actions =
      creations (stage.firewalls.filter (·.installed)) ++ attempt ++ closing := by
    rw [journal_commanded, hquiet.journal, hopening]
  have hkept : Kept w n stale (if ok then stage.result else 1) (s.commanded n' closing) := by
    refine ⟨⟨_, g, attempt, closing, hjournal, hattempt, ?_, hnamed⟩, ?_, ?_, ?_, ?_⟩
    · rw [hcommands, List.filter_reverse]
      rfl
    · rw [journal_commanded, hquiet.journal]
      exact replay_append.mpr ⟨_, hreplayed, hquiet.netfilter ▸ hreplay⟩
    · exact orderly_commanded (hquiet.orderly hguarded.orderly) hrunning
        fun h => hguarded.tun (hquiet.tun h)
    · rw [syscalls_commanded]
      exact htended
    · intro hstatus
      cases hclosed : ok with
      | false =>
        rw [hclosed] at hstatus
        cases hstatus
      | true =>
        rw [hclosed] at hstatus
        obtain ⟨hclean, pid, hfork, hwaited⟩ := hsettled.success hstatus
        refine ⟨⟨hclean, pid, hfork, List.mem_append_left _ (hquiet.grows hwaited)⟩, ?_⟩
        rw [journal_commanded, hquiet.journal, hguarded.success hstatus]
        intro e he hremoval
        rcases List.mem_append.mp he with he | he
        · exact creations_removed _ e he hremoval
        · exact hok.mp hclosed e he
  cases stage.tun with
  | false => exact hkept
  | true => exact hkept.closeTun

def startsProcess (w : World) (config : Config) (n : Netfilter) : Bool :=
  w.preflight && w.inspected && !config.checkOnly && w.allocated && reachesStart w config n

theorem main_kept (inet : Inet) {config : Config} {n : Netfilter} (hfresh : w.start.Fresh)
    (hcheck : config.checkOnly = false) :
    Kept w n (startsProcess w config n && w.start.eventFails) (main w inet config n).1
      (main w inet config n).2 := by
  have hidle : Kept w n false 1 { netfilter := n } :=
    ⟨⟨[], {}, [], [], rfl, .none, rfl, nofun⟩, rfl, always_nil, iff_of_true always_nil rfl, nofun⟩
  unfold main startsProcess
  rw [hcheck]
  by_cases hready : w.preflight = false ∨ w.inspected = false
  · have hunready : (w.preflight && w.inspected) = false := by
      rcases hready with h | h <;> simp [h]
    rw [if_pos hready, hunready]
    exact hidle
  · have hready' : (w.preflight && w.inspected) = true := by simpa using hready
    rw [if_neg hready, hready']
    cases w.allocated with
    | false => exact hidle
    | true => exact cleanup_kept (launch_settled hfresh) launch_guarded

/-- The native command is a transaction on the rules of the host: what it made is removed in
reverse order when the child is gone and before the TUN descriptor is closed, what it found is left
alone, and status 0 means that the child exited cleanly and all removals succeeded. -/
theorem main_transactional {w : World} {inet : Inet} {config : Config} {n : Netfilter}
    (hcheck : config.checkOnly = false) (hfresh : w.start.Fresh) (hlinked : n.Linked) :
    let made := journal (main w inet config n).2.actions
    (∃ installed g attempt closing, made = creations installed ++ attempt ++ closing ∧
      Attempt g attempt ∧ closing.map Prod.fst = removals installed) ∧
    (created made).Nodup ∧ (∀ x ∈ created made, x ∉ n.resources) ∧
    Orderly (main w inet config n).2.actions ∧
    (main w inet config n).2.netfilter.without (created made) = n ∧
    (Removed made → (main w inet config n).2.netfilter = n) ∧
    ((main w inet config n).1 = 0 →
      (w.exitsCleanly = true ∧ ∃ pid, w.start.fork = some pid ∧
        .process (.waited pid true) ∈ (main w inet config n).2.actions) ∧ Removed made) := by
  have hkept := main_kept inet (n := n) hfresh hcheck
  obtain ⟨installed, g, attempt, closing, hmade, hattempt, hclosing, hnamed⟩ := hkept.balanced
  have hreplayed := hkept.replayed
  rw [hmade] at hreplayed
  obtain ⟨hnodup, hnew, hwithout, hrestored⟩ :=
    replay_transaction hnamed hlinked hattempt hclosing hreplayed
  dsimp only
  rw [← hmade] at hnodup hnew hwithout hrestored
  exact ⟨⟨installed, g, attempt, closing, hmade, hattempt, hclosing⟩, hnodup, hnew, hkept.orderly,
    hwithout, hrestored, hkept.success⟩

/-! Two routes, and a hosted kernel that does not answer. -/

def sampleListen (port : ℕ) : Endpoint := ⟨4, "192.0.2.1", [192, 0, 2, 1], port⟩

def sampleRoute (port : ℕ) : Route := ⟨sampleListen port, ⟨4, "127.0.0.1", [127, 0, 0, 1], 80⟩⟩

def sampleConfig : Config :=
  { kernel := "vmlinux", routes := [sampleRoute 80, sampleRoute 443], cc := "cubic",
    firewall := .iptables, tunHost := "198.18.0.1", tunGuest := "198.18.0.2", tunName := "tun0" }

def silentInet : Inet := ⟨fun _ _ => some [], fun _ _ => ""⟩

def sampleStart : Startup :=
  { requests := some (4, 5), responses := some (6, 7), execStatus := some (8, 9),
    fork := some 100, pidfd := .fd 10 }

theorem sampleStart_fresh : sampleStart.Fresh := ⟨by decide, by decide, by rintro _ ⟨⟩; decide⟩

def sampleWorld : World :=
  { pid := 50, install := fun i => { random := some (toString i), startTime := some 7 },
    start := sampleStart, answer := fun _ => none, close := fun _ => {} }

theorem main_transactional_sample :
    created (journal (main sampleWorld silentInet sampleConfig {}).2.actions) =
        [.chain "iptables" "TCPCC_0", .chain "iptables" "TCPCC_1"] ∧
      (main sampleWorld silentInet sampleConfig {}).2.netfilter = {} := by
  refine ⟨by decide +kernel, ?_⟩
  have hlinked : Netfilter.Linked {} := by
    intro r hr
    cases hr
  refine (main_transactional rfl sampleStart_fresh hlinked).2.2.2.2.2.1 ?_
  unfold Removed
  decide +kernel

/-- The start of the process is all or nothing, and `main` never signals or waits for a process
that is not its child, unless opening the child event descriptor fails. -/
theorem start_all_or_nothing_iff {w : World} {inet : Inet} {config : Config} {n : Netfilter}
    (hfresh : w.start.Fresh) :
    (((hostedProcessStart w.start).1 ≠ 0 → (hostedProcessStart w.start).1 = -1 ∧
      Nothing (hostedProcessStart w.start).2) ↔ w.start.eventFails = false) ∧
    (Tended (syscalls (main w inet config n).2.actions) ↔
      (startsProcess w config n && w.start.eventFails) = false) := by
  constructor
  · rcases start_cases hfresh with ⟨hfail, -⟩ | ⟨hok, child, hstarted⟩
    · rw [← start_nothing_iff hfresh hfail, hfail]
      simp
    · exact iff_of_true (fun h => absurd hok h) hstarted.event
  · cases hcheck : config.checkOnly with
    | false => exact (main_kept inet hfresh hcheck).tended
    | true =>
      have hnone : syscalls (main w inet config n).2.actions = [] := by
        unfold main
        split
        · rfl
        · rfl
      rw [hnone]
      refine iff_of_true always_nil ?_
      simp [startsProcess, hcheck]

theorem start_all_or_nothing_sample :
    startsProcess sampleWorld sampleConfig {} = true ∧
      Tended (syscalls (main sampleWorld silentInet sampleConfig {}).2.actions) :=
  ⟨by decide +kernel, (start_all_or_nothing_iff sampleStart_fresh).2.mpr (by decide +kernel)⟩

def eventlessWorld : World :=
  { sampleWorld with start := { sampleStart with pidfd := .failed } }

theorem stale_child_signalled :
    (hostedProcessStart eventlessWorld.start).1 = -1 ∧
      (hostedProcessStart eventlessWorld.start).2.process.pid = 100 ∧
      ∃ before after,
        syscalls (main eventlessWorld silentInet sampleConfig {}).2.actions =
          before ++ .killed 100 :: .waited 100 false :: after ∧
        .waited 100 true ∈ before ∧ children before = [] := by
  refine ⟨by decide +kernel, by decide +kernel, ?_⟩
  refine ⟨(syscalls (main eventlessWorld silentInet sampleConfig {}).2.actions).dropLast.dropLast,
    [], ?_, ?_, ?_⟩ <;> decide +kernel

end Tcpcc.Native

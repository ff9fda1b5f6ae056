import Mathlib.Data.List.Nodup
import Tcpcc.Native.Config

/-!
# Rules of the host

`tcpcc_firewall_install` and `tcpcc_firewall_close` with the commands they run. A command either
takes effect and reports success, or reports failure and changes nothing; it cannot take effect
where the state of the host does not allow it, and may fail where it does.
-/

namespace Tcpcc.Native
open Machine

/-! ## The state of the host -/

/-- A table as the batch of `tcpcc_firewall_nft` makes it. -/
structure NftTable where
  family : String
  name : String
  daddr : String
  dport : ℕ
  destination : String
  comment : String
  deriving DecidableEq, Repr

/-- The arguments of a rule: what it matches, the target behind `-j` and its options. -/
structure Rule where
  selector : List String
  target : String
  options : List String := []
  deriving DecidableEq, Repr

structure Chain where
  command : String
  name : String
  rules : List Rule
  deriving DecidableEq, Repr

structure Netfilter where
  tables : List NftTable := []
  chains : List Chain := []
  /-- The rules of the PREROUTING chains, with the executable that sees them. -/
  prerouting : List (String × Rule) := []
  deriving DecidableEq, Repr

inductive Resource
  | table (family name : String)
  | chain (command name : String)
  deriving DecidableEq, Repr

inductive Command
  | nftCheck (t : NftTable)
  | nftCreate (t : NftTable)
  | nftDelete (family name : String)
  | newChain (command name : String)
  | append (command name : String) (rule : Rule)
  | appendPrerouting (command : String) (rule : Rule)
  | deletePrerouting (command : String) (rule : Rule)
  | flush (command name : String)
  | deleteChain (command name : String)
  deriving DecidableEq, Repr

def NftTable.resource (t : NftTable) : Resource := .table t.family t.name

def Chain.resource (c : Chain) : Resource := .chain c.command c.name

def Rule.resource (r : Rule) (command : String) : Resource := .chain command r.target

def Netfilter.hasChain (n : Netfilter) (command name : String) : Bool :=
  n.chains.any fun c => c.resource == .chain command name

def Netfilter.refersTo (n : Netfilter) (command name : String) : Bool :=
  (n.prerouting.any fun r => r.2.resource r.1 == .chain command name) ||
    n.chains.any fun c => c.rules.any fun r => r.resource c.command == .chain command name

def Netfilter.setRules (n : Netfilter) (command name : String)
    (f : List Rule → List Rule) : Netfilter :=
  { n with chains := n.chains.map fun c =>
      if c.resource = .chain command name then { c with rules := f c.rules } else c }

def Command.apply (n : Netfilter) : Command → Option Netfilter
  | .nftCheck t => if n.tables.any (·.resource == t.resource) then none else some n
  | .nftCreate t =>
    if n.tables.any (·.resource == t.resource) then none
    else some { n with tables := n.tables ++ [t] }
  | .nftDelete family name =>
    if n.tables.any (·.resource == .table family name) then
      some { n with tables := n.tables.eraseP (·.resource == .table family name) }
    else none
  | .newChain command name =>
    if n.hasChain command name then none
    else some { n with chains := n.chains ++ [⟨command, name, []⟩] }
  | .append command name rule =>
    if n.hasChain command name then some (n.setRules command name (· ++ [rule])) else none
  | .appendPrerouting command rule =>
    if n.hasChain command rule.target then
      some { n with prerouting := n.prerouting ++ [(command, rule)] }
    else none
  | .deletePrerouting command rule =>
    if (command, rule) ∈ n.prerouting then
      some { n with prerouting := n.prerouting.erase (command, rule) }
    else none
  | .flush command name =>
    if n.hasChain command name then some (n.setRules command name fun _ => []) else none
  | .deleteChain command name =>
    if n.chains.any (fun c => c.resource == .chain command name && c.rules.isEmpty) &&
        !n.refersTo command name then
      some { n with chains := n.chains.eraseP (·.resource == .chain command name) }
    else none

def Command.exec (c : Command) (works : Bool) (n : Netfilter) : Bool × Netfilter :=
  match c.apply n with
  | some n' => if works then (true, n') else (false, n)
  | none => (false, n)

abbrev Journal := List (Command × Bool)

/-! ## The policy of one route -/

/-- `struct tcpcc_firewall`, with the process that installs it. -/
structure Firewall where
  kind : FirewallKind := .nftLib
  version : ℕ := 0
  resource : String := ""
  command : String := ""
  listen : String := ""
  guest : String := ""
  tunName : String := ""
  port : ℕ := 0
  pid : ℕ := 0
  ownerStart : ℕ := 0
  installed : Bool := false
  deriving DecidableEq, Repr

def marker (pid start : ℕ) (tun : String) : String :=
  "tcpcc.owner.v1 pid=" ++ toString pid ++ " start=" ++ toString start ++ " tun=" ++ tun

namespace Firewall

def family (f : Firewall) : String := if f.version = 4 then "ip" else "ip6"

def destination (f : Firewall) : String :=
  if f.version = 6 then "[" ++ f.guest ++ "]:" ++ toString f.port
  else f.guest ++ ":" ++ toString f.port

def listenRange (f : Firewall) : String :=
  f.listen ++ "/" ++ (if f.version = 4 then "32" else "128")

def comment (f : Firewall) : String := marker f.pid f.ownerStart f.tunName

def nftTable (f : Firewall) : NftTable where
  family := f.family
  name := f.resource
  daddr := f.listen
  dport := f.port
  destination := f.destination
  comment := f.comment

def selector (f : Firewall) : List String :=
  ["-d", f.listenRange, "-p", "tcp", "-m", "tcp", "--dport", toString f.port, "-m", "comment",
    "--comment", f.comment]

def dnatRule (f : Firewall) : Rule := ⟨f.selector, "DNAT", ["--to-destination", f.destination]⟩

def jumpRule (f : Firewall) : Rule := ⟨f.selector, f.resource, []⟩

end Firewall

structure InstallOutcome where
  random : Option String
  startTime : Option ℕ
  /-- The rules could be listed and their owners were found alive. -/
  inspected : Bool := true
  check : Bool := true
  apply : Bool := true
  create : Bool := true
  dnat : Bool := true
  jump : Bool := true
  flush : Bool := true
  remove : Bool := true

structure CloseOutcome where
  delete : Bool := true
  jump : Bool := true
  flush : Bool := true
  remove : Bool := true

def iptablesCommand (config : Config) (version : ℕ) : Option String :=
  if version = 6 then
    if config.iptablesVariant = "iptables" then some "ip6tables"
    else if config.iptablesVariant = "iptables-nft" then some "ip6tables-nft"
    else if config.iptablesVariant = "iptables-legacy" then some "ip6tables-legacy"
    else none
  else some config.iptablesVariant

/-- `tcpcc_firewall_nft` twice: the check and the policy itself. -/
def installNft (f : Firewall) (o : InstallOutcome) (n : Netfilter) : Bool × Netfilter × Journal :=
  let (ok, n) := (Command.nftCheck f.nftTable).exec o.check n
  if ok = false then (false, n, [(.nftCheck f.nftTable, false)])
  else
    let (ok, n) := (Command.nftCreate f.nftTable).exec o.apply n
    (ok, n, [(.nftCheck f.nftTable, true), (.nftCreate f.nftTable, ok)])

/-- What `tcpcc_firewall_install_iptables` does when a rule could not be added. -/
def rollback (f : Firewall) (o : InstallOutcome) (n : Netfilter) : Netfilter × Journal :=
  let (flushed, n) := (Command.flush f.command f.resource).exec o.flush n
  let (removed, n) := (Command.deleteChain f.command f.resource).exec o.remove n
  (n, [(.flush f.command f.resource, flushed), (.deleteChain f.command f.resource, removed)])

def installIptables (f : Firewall) (o : InstallOutcome) (n : Netfilter) :
    Bool × Netfilter × Journal :=
  let create : Command := .newChain f.command f.resource
  let dnat : Command := .append f.command f.resource f.dnatRule
  let jump : Command := .appendPrerouting f.command f.jumpRule
  let (ok, n) := create.exec o.create n
  if ok = false then (false, n, [(create, false)])
  else
    let (ok, n) := dnat.exec o.dnat n
    if ok = false then
      let (n, journal) := rollback f o n
      (false, n, [(create, true), (dnat, false)] ++ journal)
    else
      let (ok, n) := jump.exec o.jump n
      if ok = false then
        let (n, journal) := rollback f o n
        (false, n, [(create, true), (dnat, true), (jump, false)] ++ journal)
      else (true, n, [(create, true), (dnat, true), (jump, true)])

/-- `tcpcc_firewall_install` by the process `pid`. -/
def firewallInstall (config : Config) (pid : ℕ) (listen : Endpoint) (o : InstallOutcome)
    (n : Netfilter) : Firewall × Netfilter × Journal :=
  match o.random with
  | none => ({}, n, [])
  | some random =>
    let f : Firewall := {
      kind := config.firewall
      version := listen.version
      port := listen.port
      listen := listen.address
      guest := config.tunGuest
      tunName := config.tunName
      pid := pid }
    match o.startTime with
    | none => (f, n, [])
    | some start =>
      let f := { f with ownerStart := start }
      if config.firewall = .iptables then
        let f := { f with resource := "TCPCC_" ++ random }
        match iptablesCommand config listen.version with
        | none => (f, n, [])
        | some command =>
          let f := { f with command := command }
          if o.inspected = false then (f, n, [])
          else
            let (ok, n, journal) := installIptables f o n
            ({ f with installed := ok }, n, journal)
      else
        let f := { f with resource := "tcpcc_" ++ random }
        if o.inspected = false then (f, n, [])
        else
          let (ok, n, journal) := installNft f o n
          ({ f with installed := ok }, n, journal)

def firewallClose (f : Firewall) (o : CloseOutcome) (n : Netfilter) : Bool × Netfilter × Journal :=
  if f.installed = false then (true, n, [])
  else if f.kind ≠ .iptables then
    let delete : Command := .nftDelete f.family f.resource
    let (ok, n) := delete.exec o.delete n
    (ok, n, [(delete, ok)])
  else
    let jump : Command := .deletePrerouting f.command f.jumpRule
    let flush : Command := .flush f.command f.resource
    let remove : Command := .deleteChain f.command f.resource
    let (unlinked, n) := jump.exec o.jump n
    let (flushed, n) := flush.exec o.flush n
    let (removed, n) := remove.exec o.remove n
    (unlinked && flushed && removed, n, [(jump, unlinked), (flush, flushed), (remove, removed)])

/-! ## What a policy owns -/

namespace Firewall

def owned (f : Firewall) : Resource :=
  if f.kind = .iptables then .chain f.command f.resource else .table f.family f.resource

def creation (f : Firewall) : List Command :=
  if f.kind = .iptables then
    [.newChain f.command f.resource, .append f.command f.resource f.dnatRule,
      .appendPrerouting f.command f.jumpRule]
  else [.nftCheck f.nftTable, .nftCreate f.nftTable]

def removal (f : Firewall) : List Command :=
  if f.kind = .iptables then
    [.deletePrerouting f.command f.jumpRule, .flush f.command f.resource,
      .deleteChain f.command f.resource]
  else [.nftDelete f.family f.resource]

end Firewall

def Netfilter.add (n : Netfilter) (f : Firewall) : Netfilter :=
  if f.kind = .iptables then
    { n with
      chains := n.chains ++ [⟨f.command, f.resource, [f.dnatRule]⟩]
      prerouting := n.prerouting ++ [(f.command, f.jumpRule)] }
  else { n with tables := n.tables ++ [f.nftTable] }

def Netfilter.resources (n : Netfilter) : List Resource :=
  n.tables.map NftTable.resource ++ n.chains.map Chain.resource

def Netfilter.Linked (n : Netfilter) : Prop :=
  ∀ r ∈ n.prerouting, ∀ command random,
    r.2.resource r.1 = .chain command ("TCPCC_" ++ random) →
      .chain command ("TCPCC_" ++ random) ∈ n.resources

variable {n n' : Netfilter} {c : Command} {journal : Journal} {f : Firewall} {o : InstallOutcome}
  {gone : List Resource}

theorem hasChain_iff {command name : String} :
    n.hasChain command name = true ↔ .chain command name ∈ n.resources := by
  simp only [Netfilter.hasChain, Netfilter.resources, List.any_eq_true, beq_iff_eq,
    List.mem_append, List.mem_map]
  constructor
  · rintro ⟨c, hc, heq⟩
    exact .inr ⟨c, hc, heq⟩
  · rintro (⟨t, -, ht⟩ | ⟨c, hc, heq⟩)
    · cases ht
    · exact ⟨c, hc, heq⟩

theorem hasTable_iff {family name : String} :
    (n.tables.any fun t => t.resource == .table family name) = true ↔
      .table family name ∈ n.resources := by
  simp only [Netfilter.resources, List.any_eq_true, beq_iff_eq, List.mem_append, List.mem_map]
  constructor
  · rintro ⟨t, ht, heq⟩
    exact .inl ⟨t, ht, heq⟩
  · rintro (⟨t, ht, heq⟩ | ⟨c, -, hc⟩)
    · exact ⟨t, ht, heq⟩
    · cases hc

theorem exec_eq_true {works : Bool} :
    c.exec works n = (true, n') ↔ works = true ∧ c.apply n = some n' := by
  unfold Command.exec
  cases c.apply n with
  | none => simp
  | some m =>
    cases works
    · simp
    · simp

theorem exec_eq_false {works : Bool} (h : c.exec works n = (false, n')) : n' = n := by
  unfold Command.exec at h
  split at h
  · split at h
    · cases h
    · cases h
      rfl
  · cases h
    rfl

/-! ## Journals

The state after a journal depends on the journal only: a command that reported success has taken
effect, and one that reported failure has not. -/

def replayStep (n : Netfilter) (e : Command × Bool) : Option Netfilter :=
  if e.2 then e.1.apply n else some n

def replay (n : Netfilter) (journal : Journal) : Option Netfilter := run replayStep n journal

theorem replay_exec {works ok : Bool} (h : c.exec works n = (ok, n')) :
    replayStep n (c, ok) = some n' := by
  cases ok with
  | true => exact (exec_eq_true.mp h).2
  | false =>
    rw [exec_eq_false h]
    rfl

theorem replay_cons {m : Netfilter} {e : Command × Bool} (h : replayStep n e = some m)
    (h' : replay m journal = some n') :
    replay n (e :: journal) = some n' := run_cons.mpr ⟨m, h, h'⟩

def Command.isRemoval : Command → Bool
  | .nftDelete _ _ => true
  | .deletePrerouting _ _ => true
  | .flush _ _ => true
  | .deleteChain _ _ => true
  | _ => false

def Removed (journal : Journal) : Prop := ∀ e ∈ journal, e.1.isRemoval = true → e.2 = true

def Firewall.Named (f : Firewall) : Prop :=
  f.kind = .iptables → ∃ random, f.resource = "TCPCC_" ++ random

inductive Attempt (f : Firewall) : Journal → Prop
  | none : Attempt f []
  | checkFailed (h : f.kind ≠ .iptables) : Attempt f [(.nftCheck f.nftTable, false)]
  | applyFailed (h : f.kind ≠ .iptables) :
    Attempt f [(.nftCheck f.nftTable, true), (.nftCreate f.nftTable, false)]
  | createFailed (h : f.kind = .iptables) : Attempt f [(.newChain f.command f.resource, false)]
  | dnatFailed (h : f.kind = .iptables) (hnamed : f.Named) (flushed removed : Bool) :
    Attempt f [(.newChain f.command f.resource, true),
      (.append f.command f.resource f.dnatRule, false), (.flush f.command f.resource, flushed),
      (.deleteChain f.command f.resource, removed)]
  | jumpFailed (h : f.kind = .iptables) (hnamed : f.Named) (flushed removed : Bool) :
    Attempt f [(.newChain f.command f.resource, true),
      (.append f.command f.resource f.dnatRule, true),
      (.appendPrerouting f.command f.jumpRule, false), (.flush f.command f.resource, flushed),
      (.deleteChain f.command f.resource, removed)]

def succeeded (commands : List Command) : Journal := commands.map fun c => (c, true)

theorem installNft_journal {ok : Bool} (hkind : f.kind ≠ .iptables)
    (h : installNft f o n = (ok, n', journal)) :
    replay n journal = some n' ∧
      (ok = true → journal = succeeded f.creation) ∧ (ok = false → Attempt f journal) := by
  unfold installNft at h
  rcases hcheck : (Command.nftCheck f.nftTable).exec o.check n with ⟨checked, n₁⟩
  have hstep₁ := replay_exec hcheck
  cases checked with
  | false =>
    simp only [hcheck, if_true] at h
    cases h
    exact ⟨replay_cons hstep₁ rfl, by simp, fun _ => .checkFailed hkind⟩
  | true =>
    rcases hcreate : (Command.nftCreate f.nftTable).exec o.apply n₁ with ⟨created, n₂⟩
    have hstep₂ := replay_exec hcreate
    simp only [hcheck, hcreate, Bool.true_eq_false, if_false] at h
    cases h
    refine ⟨replay_cons hstep₁ (replay_cons hstep₂ rfl), ?_, ?_⟩
    · rintro rfl
      simp [succeeded, Firewall.creation, hkind]
    · rintro rfl
      exact .applyFailed hkind

theorem rollback_journal (h : rollback f o n = (n', journal)) :
    replay n journal = some n' ∧ ∃ flushed removed,
      journal = [(.flush f.command f.resource, flushed),
        (.deleteChain f.command f.resource, removed)] := by
  unfold rollback at h
  rcases hflush : (Command.flush f.command f.resource).exec o.flush n with ⟨flushed, n₁⟩
  rcases hremove : (Command.deleteChain f.command f.resource).exec o.remove n₁ with ⟨removed, n₂⟩
  simp only [hflush, hremove] at h
  cases h
  exact ⟨replay_cons (replay_exec hflush) (replay_cons (replay_exec hremove) rfl), _, _, rfl⟩

theorem installIptables_journal {ok : Bool} (hkind : f.kind = .iptables) (hnamed : f.Named)
    (h : installIptables f o n = (ok, n', journal)) :
    replay n journal = some n' ∧
      (ok = true → journal = succeeded f.creation) ∧ (ok = false → Attempt f journal) := by
  unfold installIptables at h
  rcases hcreate : (Command.newChain f.command f.resource).exec o.create n with ⟨created, n₁⟩
  have hstep₁ := replay_exec hcreate
  cases created with
  | false =>
    simp only [hcreate, if_true] at h
    cases h
    exact ⟨replay_cons hstep₁ rfl, by simp, fun _ => .createFailed hkind⟩
  | true =>
  rcases hdnat : (Command.append f.command f.resource f.dnatRule).exec o.dnat n₁ with ⟨added, n₂⟩
  have hstep₂ := replay_exec hdnat
  cases added with
  | false =>
    rcases hback : rollback f o n₂ with ⟨n₃, undone⟩
    obtain ⟨hreplay, flushed, removed, rfl⟩ := rollback_journal hback
    simp only [hcreate, hdnat, hback, Bool.true_eq_false, if_false, if_true] at h
    cases h
    exact ⟨replay_cons hstep₁ (replay_cons hstep₂ hreplay), by simp,
      fun _ => .dnatFailed hkind hnamed flushed removed⟩
  | true =>
  rcases hjump : (Command.appendPrerouting f.command f.jumpRule).exec o.jump n₂ with ⟨linked, n₃⟩
  have hstep₃ := replay_exec hjump
  cases linked with
  | false =>
    rcases hback : rollback f o n₃ with ⟨n₄, undone⟩
    obtain ⟨hreplay, flushed, removed, rfl⟩ := rollback_journal hback
    simp only [hcreate, hdnat, hjump, hback, Bool.true_eq_false, if_false, if_true] at h
    cases h
    exact ⟨replay_cons hstep₁ (replay_cons hstep₂ (replay_cons hstep₃ hreplay)), by simp,
      fun _ => .jumpFailed hkind hnamed flushed removed⟩
  | true =>
    simp only [hcreate, hdnat, hjump, Bool.true_eq_false, if_false] at h
    cases h
    refine ⟨replay_cons hstep₁ (replay_cons hstep₂ (replay_cons hstep₃ rfl)), fun _ => ?_, by simp⟩
    simp [succeeded, Firewall.creation, hkind]

theorem firewallInstall_journal {config : Config} {pid : ℕ} {listen : Endpoint}
    (h : firewallInstall config pid listen o n = (f, n', journal)) :
    replay n journal = some n' ∧
      (f.installed = true → f.Named ∧ journal = succeeded f.creation) ∧
      (f.installed = false → Attempt f journal) := by
  unfold firewallInstall at h
  rcases hrandom : o.random with _ | random
  · simp only [hrandom] at h
    cases h
    exact ⟨rfl, nofun, fun _ => .none⟩
  rcases hstart : o.startTime with _ | start
  · simp only [hrandom, hstart] at h
    cases h
    exact ⟨rfl, nofun, fun _ => .none⟩
  by_cases hkind : config.firewall = .iptables
  · rcases hcommand : iptablesCommand config listen.version with _ | command
    · simp only [hrandom, hstart, hkind, hcommand, if_true] at h
      cases h
      exact ⟨rfl, nofun, fun _ => .none⟩
    rcases hinspected : o.inspected with _ | _
    · simp only [hrandom, hstart, hkind, hcommand, hinspected, if_true] at h
      cases h
      exact ⟨rfl, nofun, fun _ => .none⟩
    simp only [hrandom, hstart, hkind, hcommand, hinspected, if_true, Bool.true_eq_false,
      if_false] at h
    generalize hinstall : installIptables _ o n = r at h
    obtain ⟨ok, n₁, j⟩ := r
    obtain ⟨hreplay, hok, hfailed⟩ :=
      installIptables_journal (by rfl) (fun _ => ⟨random, rfl⟩) hinstall
    cases h
    refine ⟨hreplay, fun hinstalled => ⟨fun _ => ⟨random, rfl⟩, hok hinstalled⟩, ?_⟩
    rintro ⟨⟩
    exact hfailed rfl
  · rcases hinspected : o.inspected with _ | _
    · simp only [hrandom, hstart, hkind, hinspected, if_true, if_false] at h
      cases h
      exact ⟨rfl, nofun, fun _ => .none⟩
    simp only [hrandom, hstart, hkind, hinspected, Bool.true_eq_false, if_false] at h
    generalize hinstall : installNft _ o n = r at h
    obtain ⟨ok, n₁, j⟩ := r
    obtain ⟨hreplay, hok, hfailed⟩ := installNft_journal (by exact hkind) hinstall
    cases h
    refine ⟨hreplay, fun hinstalled => ⟨fun hk => absurd hk hkind, hok hinstalled⟩, ?_⟩
    rintro ⟨⟩
    exact hfailed rfl

theorem firewallClose_journal {o : CloseOutcome} {ok : Bool}
    (h : firewallClose f o n = (ok, n', journal)) :
    replay n journal = some n' ∧
      journal.map Prod.fst = (if f.installed then f.removal else []) ∧
      (ok = true ↔ ∀ e ∈ journal, e.2 = true) := by
  unfold firewallClose at h
  cases hinstalled : f.installed with
  | false =>
    simp only [hinstalled, if_true] at h
    cases h
    exact ⟨rfl, rfl, by simp⟩
  | true =>
  by_cases hkind : f.kind = .iptables
  · rcases hjump : (Command.deletePrerouting f.command f.jumpRule).exec o.jump n with ⟨unlinked, n₁⟩
    rcases hflush : (Command.flush f.command f.resource).exec o.flush n₁ with ⟨flushed, n₂⟩
    rcases hremove : (Command.deleteChain f.command f.resource).exec o.remove n₂ with ⟨removed, n₃⟩
    simp only [hinstalled, hkind, hjump, hflush, hremove, Bool.true_eq_false, if_false, ne_eq,
      not_true] at h
    cases h
    refine ⟨replay_cons (replay_exec hjump) (replay_cons (replay_exec hflush)
      (replay_cons (replay_exec hremove) rfl)), ?_, ?_⟩
    · simp [Firewall.removal, hkind]
    · simp [and_assoc]
  · rcases hdelete : (Command.nftDelete f.family f.resource).exec o.delete n with ⟨deleted, n₁⟩
    simp only [hinstalled, hkind, hdelete, Bool.true_eq_false, if_false, ne_eq,
      not_false_eq_true, if_true] at h
    cases h
    refine ⟨replay_cons (replay_exec hdelete) rfl, ?_, ?_⟩
    · simp [Firewall.removal, hkind]
    · simp

/-! ## What journals do to the host -/

theorem replay_cons_iff {e : Command × Bool} :
    replay n (e :: journal) = some n' ↔
      ∃ m, replayStep n e = some m ∧ replay m journal = some n' := run_cons

section
variable {n n' : Netfilter} {command name : String} {rules : List Rule}

theorem chain_not_mem_resources (h : .chain command name ∉ n.resources) :
    ∀ c ∈ n.chains, c.resource ≠ .chain command name := by
  intro c hc heq
  exact h (List.mem_append_right _ (List.mem_map.mpr ⟨c, hc, heq⟩))

theorem setRules_last (h : .chain command name ∉ n.resources) (prerouting : List (String × Rule))
    (f : List Rule → List Rule) :
    Netfilter.setRules ⟨n.tables, n.chains ++ [⟨command, name, rules⟩], prerouting⟩ command name f =
      ⟨n.tables, n.chains ++ [⟨command, name, f rules⟩], prerouting⟩ := by
  have hsame : n.chains.map (fun c =>
      if c.resource = .chain command name then { c with rules := f c.rules } else c) =
        n.chains.map id :=
    List.map_congr_left fun c hc => if_neg (chain_not_mem_resources h c hc)
  simp only [Netfilter.setRules, List.map_append, hsame, List.map_id]
  simp [Chain.resource]

theorem eraseP_last_chain (h : .chain command name ∉ n.resources) :
    (n.chains ++ [Chain.mk command name rules]).eraseP (·.resource == .chain command name) =
      n.chains := by
  have hkeep : ∀ c ∈ n.chains, ¬(c.resource == .chain command name) = true := by
    intro c hc heq
    exact chain_not_mem_resources h c hc (beq_iff_eq.mp heq)
  rw [List.eraseP_append_right _ hkeep]
  simp [Chain.resource]

theorem step_newChain (h : replayStep n (.newChain command name, true) = some n') :
    .chain command name ∉ n.resources ∧
      n' = ⟨n.tables, n.chains ++ [⟨command, name, []⟩], n.prerouting⟩ := by
  simp only [replayStep, Command.apply, if_true] at h
  split at h
  · cases h
  case isFalse hfree =>
    cases h
    exact ⟨fun hmem => hfree (hasChain_iff.mpr hmem), rfl⟩

theorem step_setRules {prerouting : List (String × Rule)} {f : List Rule → List Rule}
    (hfresh : .chain command name ∉ n.resources)
    (hc : ∀ m, c.apply m =
      if m.hasChain command name then some (m.setRules command name f) else none)
    (h : replayStep ⟨n.tables, n.chains ++ [⟨command, name, rules⟩], prerouting⟩ (c, true) =
      some n') :
    n' = ⟨n.tables, n.chains ++ [⟨command, name, f rules⟩], prerouting⟩ := by
  simp only [replayStep, hc, if_true] at h
  split at h
  · cases h
    exact setRules_last hfresh prerouting f
  · cases h

theorem step_deleteChain (hfresh : .chain command name ∉ n.resources)
    {prerouting : List (String × Rule)}
    (h : replayStep ⟨n.tables, n.chains ++ [⟨command, name, rules⟩], prerouting⟩
      (.deleteChain command name, true) = some n') :
    n' = ⟨n.tables, n.chains, prerouting⟩ := by
  simp only [replayStep, Command.apply, if_true] at h
  split at h
  · cases h
    rw [eraseP_last_chain hfresh]
  · cases h

theorem replay_dropChain (hfresh : .chain command name ∉ n.resources)
    {prerouting : List (String × Rule)}
    (h : replay ⟨n.tables, n.chains ++ [⟨command, name, rules⟩], prerouting⟩
      [(.flush command name, true), (.deleteChain command name, true)] = some n') :
    n' = ⟨n.tables, n.chains, prerouting⟩ := by
  obtain ⟨n₁, hflush, h₁⟩ := replay_cons_iff.mp h
  obtain ⟨n₂, hremove, h₂⟩ := replay_cons_iff.mp h₁
  have hn' : n₂ = n' := Option.some.inj h₂
  obtain rfl := step_setRules hfresh (fun _ => rfl) hflush
  rw [← hn', step_deleteChain hfresh hremove]

theorem step_nftCheck {t : NftTable} (h : replayStep n (.nftCheck t, true) = some n') :
    .table t.family t.name ∉ n.resources ∧ n' = n := by
  simp only [replayStep, Command.apply, if_true] at h
  split at h
  · cases h
  case isFalse hfree =>
    cases h
    exact ⟨fun hmem => hfree (hasTable_iff.mpr hmem), rfl⟩

theorem step_nftCreate {t : NftTable} (h : replayStep n (.nftCreate t, true) = some n') :
    n' = ⟨n.tables ++ [t], n.chains, n.prerouting⟩ := by
  simp only [replayStep, Command.apply, if_true] at h
  split at h
  · cases h
  · cases h
    rfl

theorem step_nftDelete {t : NftTable} (hfresh : .table t.family t.name ∉ n.resources)
    (h : replayStep ⟨n.tables ++ [t], n.chains, n.prerouting⟩
      (.nftDelete t.family t.name, true) = some n') : n' = n := by
  simp only [replayStep, Command.apply, if_true] at h
  split at h
  · cases h
    have hkeep : ∀ u ∈ n.tables, ¬(u.resource == .table t.family t.name) = true := by
      intro u hu heq
      exact hfresh (List.mem_append_left _ (List.mem_map.mpr ⟨u, hu, beq_iff_eq.mp heq⟩))
    rw [List.eraseP_append_right _ hkeep]
    simp [NftTable.resource]
  · cases h

end

theorem replay_creation (h : replay n (succeeded f.creation) = some n') :
    f.owned ∉ n.resources ∧ n' = n.add f := by
  by_cases hkind : f.kind = .iptables
  · simp only [Firewall.creation, hkind, if_true, succeeded, List.map_cons, List.map_nil] at h
    obtain ⟨n₁, hnew, h₁⟩ := replay_cons_iff.mp h
    obtain ⟨n₂, happend, h₂⟩ := replay_cons_iff.mp h₁
    obtain ⟨n₃, hjump, h₃⟩ := replay_cons_iff.mp h₂
    obtain ⟨hfresh, rfl⟩ := step_newChain hnew
    obtain rfl := step_setRules hfresh (fun _ => rfl) happend
    have hn' : n₃ = n' := Option.some.inj h₃
    simp only [replayStep, Command.apply, if_true] at hjump
    split at hjump
    · cases hjump
      refine ⟨by rwa [Firewall.owned, if_pos hkind], ?_⟩
      rw [← hn', Netfilter.add, if_pos hkind]
      rfl
    · cases hjump
  · simp only [Firewall.creation, hkind, if_false, succeeded, List.map_cons, List.map_nil] at h
    obtain ⟨n₁, hcheck, h₁⟩ := replay_cons_iff.mp h
    obtain ⟨n₂, hcreate, h₂⟩ := replay_cons_iff.mp h₁
    have hn' : n₂ = n' := Option.some.inj h₂
    obtain ⟨hfresh, rfl⟩ := step_nftCheck hcheck
    rw [step_nftCreate hcreate] at hn'
    refine ⟨by rwa [Firewall.owned, if_neg hkind], ?_⟩
    rw [← hn', Netfilter.add, if_neg hkind]

theorem replay_removal (hnamed : f.Named) (hlinked : n.Linked) (hfresh : f.owned ∉ n.resources)
    (h : replay (n.add f) (succeeded f.removal) = some n') : n' = n := by
  by_cases hkind : f.kind = .iptables
  · rw [Firewall.owned, if_pos hkind] at hfresh
    simp only [Firewall.removal, Netfilter.add, hkind, if_true, succeeded, List.map_cons,
      List.map_nil] at h
    obtain ⟨n₁, hjump, h₁⟩ := replay_cons_iff.mp h
    have hjumped : (f.command, f.jumpRule) ∉ n.prerouting := by
      intro hmem
      obtain ⟨random, hrandom⟩ := hnamed hkind
      rw [hrandom] at hfresh
      exact hfresh (hlinked _ hmem f.command random (congrArg _ hrandom))
    simp only [replayStep, Command.apply, if_true, List.erase_append_right _ hjumped,
      List.mem_append, List.mem_singleton, or_true, List.erase_cons_head, List.append_nil,
      Option.some.injEq] at hjump
    subst hjump
    exact replay_dropChain hfresh h₁
  · rw [Firewall.owned, if_neg hkind] at hfresh
    simp only [Firewall.removal, Netfilter.add, hkind, if_false, succeeded, List.map_cons,
      List.map_nil] at h
    obtain ⟨n₁, hdelete, h₁⟩ := replay_cons_iff.mp h
    have hn' : n₁ = n' := Option.some.inj h₁
    rw [← hn', step_nftDelete hfresh hdelete]

theorem replay_attempt (hattempt : Attempt f journal) (hremoved : Removed journal)
    (h : replay n journal = some n') : n' = n := by
  cases hattempt with
  | none | checkFailed => exact (Option.some.inj h).symm
  | applyFailed =>
    obtain ⟨n₁, hcheck, h₁⟩ := replay_cons_iff.mp h
    obtain ⟨-, rfl⟩ := step_nftCheck hcheck
    exact (Option.some.inj h₁).symm
  | createFailed => exact (Option.some.inj h).symm
  | dnatFailed hkind hnamed flushed removed =>
    obtain rfl : flushed = true := hremoved (.flush f.command f.resource, flushed) (by simp) rfl
    obtain rfl : removed = true :=
      hremoved (.deleteChain f.command f.resource, removed) (by simp) rfl
    obtain ⟨n₁, hnew, h₁⟩ := replay_cons_iff.mp h
    obtain ⟨hfresh, rfl⟩ := step_newChain hnew
    exact replay_dropChain hfresh h₁
  | jumpFailed hkind hnamed flushed removed =>
    obtain rfl : flushed = true := hremoved (.flush f.command f.resource, flushed) (by simp) rfl
    obtain rfl : removed = true :=
      hremoved (.deleteChain f.command f.resource, removed) (by simp) rfl
    obtain ⟨n₁, hnew, h₁⟩ := replay_cons_iff.mp h
    obtain ⟨n₂, happend, h₂⟩ := replay_cons_iff.mp h₁
    obtain ⟨hfresh, rfl⟩ := step_newChain hnew
    obtain rfl := step_setRules hfresh (fun _ => rfl) happend
    exact replay_dropChain hfresh h₂

theorem Netfilter.resources_add (n : Netfilter) (f : Firewall) {x : Resource} :
    x ∈ (n.add f).resources ↔ x ∈ n.resources ∨ x = f.owned := by
  by_cases hkind : f.kind = .iptables
  · simp [Netfilter.add, Netfilter.resources, Firewall.owned, hkind, Chain.resource, or_assoc]
  · simp only [Netfilter.add, Netfilter.resources, Firewall.owned, hkind, if_false,
      List.map_append, List.mem_append, List.map_cons, List.map_nil, List.mem_singleton]
    rw [or_right_comm]
    rfl

theorem Netfilter.Linked.add (h : n.Linked) (f : Firewall) : (n.add f).Linked := by
  intro r hr command random htarget
  rw [Netfilter.resources_add]
  by_cases hkind : f.kind = .iptables
  · simp only [Netfilter.add, hkind, if_true, List.mem_append, List.mem_singleton] at hr
    rcases hr with hr | rfl
    · exact .inl (h r hr command random htarget)
    · rw [← htarget, Firewall.owned, if_pos hkind]
      exact .inr rfl
  · simp only [Netfilter.add, hkind, if_false] at hr
    exact .inl (h r hr command random htarget)

theorem replay_append {j k : Journal} :
    replay n (j ++ k) = some n' ↔ ∃ m, replay n j = some m ∧ replay m k = some n' := run_append

def creations (fs : List Firewall) : Journal := fs.flatMap fun f => succeeded f.creation

def removals (fs : List Firewall) : List Command := fs.reverse.flatMap Firewall.removal

theorem removals_cons (f : Firewall) (fs : List Firewall) :
    removals (f :: fs) = removals fs ++ f.removal := by
  simp [removals]

theorem replay_creations {fs : List Firewall} (h : replay n (creations fs) = some n') :
    (∀ f ∈ fs, f.owned ∉ n.resources) ∧ (fs.map Firewall.owned).Nodup ∧
      ∀ x, x ∈ n'.resources ↔ x ∈ n.resources ∨ x ∈ fs.map Firewall.owned := by
  induction fs generalizing n with
  | nil =>
    obtain rfl := Option.some.inj h
    simp
  | cons f fs ih =>
    obtain ⟨m, hf, hfs⟩ := replay_append.mp h
    obtain ⟨hfresh, rfl⟩ := replay_creation hf
    obtain ⟨hrest, hnodup, hmem⟩ := ih hfs
    refine ⟨?_, ?_, ?_⟩
    · rw [List.forall_mem_cons]
      refine ⟨hfresh, fun g hg hold => hrest g hg ?_⟩
      exact (n.resources_add f).mpr (.inl hold)
    · rw [List.map_cons, List.nodup_cons]
      refine ⟨fun hin => ?_, hnodup⟩
      obtain ⟨g, hg, heq⟩ := List.mem_map.mp hin
      exact hrest g hg ((n.resources_add f).mpr (.inr heq))
    · intro x
      rw [hmem, n.resources_add f, List.map_cons, List.mem_cons, or_assoc]

theorem replay_balanced {fs : List Firewall} {middle : Journal} (hnamed : ∀ f ∈ fs, f.Named)
    (hlinked : n.Linked) (hmiddle : ∀ m m', replay m middle = some m' → m' = m)
    (h : replay n (creations fs ++ middle ++ succeeded (removals fs)) = some n') : n' = n := by
  induction fs generalizing n n' with
  | nil =>
    refine hmiddle n n' ?_
    simpa [creations, removals, succeeded] using h
  | cons f fs ih =>
    obtain ⟨hf, hfs⟩ := List.forall_mem_cons.mp hnamed
    have hsplit : creations (f :: fs) ++ middle ++ succeeded (removals (f :: fs)) =
        succeeded f.creation ++
          ((creations fs ++ middle ++ succeeded (removals fs)) ++ succeeded f.removal) := by
      simp [creations, removals_cons, succeeded]
    rw [hsplit] at h
    obtain ⟨n₁, hcreate, h₁⟩ := replay_append.mp h
    obtain ⟨n₂, hinner, hremove⟩ := replay_append.mp h₁
    obtain ⟨hfresh, rfl⟩ := replay_creation hcreate
    obtain rfl := ih hfs (hlinked.add f) hinner
    exact replay_removal hf hlinked hfresh hremove

/-! ## What journals leave alone -/

def Command.resource : Command → Option Resource
  | .nftCheck _ => none
  | .nftCreate t => some t.resource
  | .nftDelete family name => some (.table family name)
  | .newChain command name => some (.chain command name)
  | .append command name _ => some (.chain command name)
  | .appendPrerouting command rule => some (rule.resource command)
  | .deletePrerouting command rule => some (rule.resource command)
  | .flush command name => some (.chain command name)
  | .deleteChain command name => some (.chain command name)

def Command.creates : Command → Option Resource
  | .nftCreate t => some t.resource
  | .newChain command name => some (.chain command name)
  | _ => none

def created (journal : Journal) : List Resource :=
  journal.filterMap fun e => if e.2 then e.1.creates else none

def Netfilter.without (n : Netfilter) (gone : List Resource) : Netfilter where
  tables := n.tables.filter (·.resource ∉ gone)
  chains := n.chains.filter (·.resource ∉ gone)
  prerouting := n.prerouting.filter fun r => r.2.resource r.1 ∉ gone

theorem filter_eraseP_of_neg {α : Type} {p q : α → Bool} {l : List α}
    (h : ∀ a, p a = true → q a = false) : (l.eraseP p).filter q = l.filter q := by
  induction l with
  | nil => rfl
  | cons a l ih =>
    cases hp : p a with
    | true => rw [List.eraseP_cons_of_pos hp, List.filter_cons_of_neg (by simp [h a hp])]
    | false =>
      rw [List.eraseP_cons_of_neg (by simp [hp])]
      simp only [List.filter_cons, ih]

theorem without_setRules {command name : String} (h : .chain command name ∈ gone)
    (f : List Rule → List Rule) : (n.setRules command name f).without gone = n.without gone := by
  have hchains : (n.setRules command name f).chains.filter (·.resource ∉ gone) =
      n.chains.filter (·.resource ∉ gone) := by
    simp only [Netfilter.setRules]
    induction n.chains with
    | nil => rfl
    | cons c chains ih =>
      by_cases hc : c.resource = .chain command name
      · have hgone : Chain.resource ⟨c.command, c.name, f c.rules⟩ = .chain command name := hc
        simpa [hc, hgone, h] using ih
      · simp only [List.map_cons, hc, if_false, List.filter_cons, ih]
  simp only [Netfilter.without, hchains]
  rfl

theorem apply_without (h : c.apply n = some n') (hgone : ∀ x, c.resource = some x → x ∈ gone) :
    n'.without gone = n.without gone := by
  cases c with
  | nftCheck t =>
    obtain ⟨-, ⟨⟩⟩ := Option.ite_none_left_eq_some.mp h
    rfl
  | nftCreate t =>
    obtain ⟨-, ⟨⟩⟩ := Option.ite_none_left_eq_some.mp h
    simp [Netfilter.without, hgone _ rfl]
  | nftDelete family name =>
    obtain ⟨-, ⟨⟩⟩ := Option.ite_none_right_eq_some.mp h
    simp only [Netfilter.without]
    rw [filter_eraseP_of_neg]
    intro t ht
    simp [beq_iff_eq.mp ht, hgone _ rfl]
  | newChain command name =>
    obtain ⟨-, ⟨⟩⟩ := Option.ite_none_left_eq_some.mp h
    have hx : Chain.resource ⟨command, name, []⟩ ∈ gone := hgone _ rfl
    simp [Netfilter.without, hx]
  | append command name rule =>
    obtain ⟨-, ⟨⟩⟩ := Option.ite_none_right_eq_some.mp h
    exact without_setRules (hgone _ rfl) _
  | appendPrerouting command rule =>
    obtain ⟨-, ⟨⟩⟩ := Option.ite_none_right_eq_some.mp h
    simp [Netfilter.without, hgone _ rfl]
  | deletePrerouting command rule =>
    obtain ⟨-, ⟨⟩⟩ := Option.ite_none_right_eq_some.mp h
    simp only [Netfilter.without, List.erase_eq_eraseP]
    rw [filter_eraseP_of_neg]
    intro r hr
    obtain rfl := beq_iff_eq.mp hr
    simp [hgone _ rfl]
  | flush command name =>
    obtain ⟨-, ⟨⟩⟩ := Option.ite_none_right_eq_some.mp h
    exact without_setRules (hgone _ rfl) _
  | deleteChain command name =>
    obtain ⟨-, ⟨⟩⟩ := Option.ite_none_right_eq_some.mp h
    simp only [Netfilter.without]
    rw [filter_eraseP_of_neg]
    intro c hc
    simp [beq_iff_eq.mp hc, hgone _ rfl]

def Within (gone : List Resource) (journal : Journal) : Prop :=
  ∀ e ∈ journal, e.2 = true → ∀ x, e.1.resource = some x → x ∈ gone

theorem replay_without (hwithin : Within gone journal) (h : replay n journal = some n') :
    n'.without gone = n.without gone := by
  induction journal generalizing n with
  | nil =>
    obtain rfl := Option.some.inj h
    rfl
  | cons e journal ih =>
    obtain ⟨m, hstep, hrest⟩ := replay_cons_iff.mp h
    obtain ⟨he, hjournal⟩ := List.forall_mem_cons.mp hwithin
    rw [ih hjournal hrest]
    obtain ⟨c, ok⟩ := e
    cases ok with
    | true => exact apply_without hstep (he rfl)
    | false =>
      obtain rfl := Option.some.inj hstep
      rfl

theorem Firewall.creation_resource {x : Resource} (hc : c ∈ f.creation) (hx : c.resource = some x) :
    x = f.owned := by
  unfold Firewall.creation at hc
  unfold Firewall.owned
  split at hc
  case isTrue hkind =>
    rw [if_pos hkind]
    simp only [List.mem_cons, List.not_mem_nil, or_false] at hc
    rcases hc with rfl | rfl | rfl <;> exact (Option.some.inj hx).symm
  case isFalse hkind =>
    rw [if_neg hkind]
    simp only [List.mem_cons, List.not_mem_nil, or_false] at hc
    rcases hc with rfl | rfl
    · cases hx
    · exact (Option.some.inj hx).symm

theorem Firewall.removal_resource (hc : c ∈ f.removal) :
    c.resource = some f.owned ∧ c.creates = none ∧ c.isRemoval = true := by
  unfold Firewall.removal at hc
  unfold Firewall.owned
  split at hc
  case isTrue hkind =>
    rw [if_pos hkind]
    simp only [List.mem_cons, List.not_mem_nil, or_false] at hc
    rcases hc with rfl | rfl | rfl <;> exact ⟨rfl, rfl, rfl⟩
  case isFalse hkind =>
    rw [if_neg hkind]
    obtain rfl := List.mem_singleton.mp hc
    exact ⟨rfl, rfl, rfl⟩

theorem Firewall.Named.chain (h : f.Named) {command name : String}
    (howned : f.owned = .chain command name) : ∃ random, name = "TCPCC_" ++ random := by
  unfold Firewall.owned at howned
  split at howned
  case isTrue hkind =>
    injection howned with _ hname
    exact hname ▸ h hkind
  case isFalse => cases howned

theorem created_creation (f : Firewall) : created (succeeded f.creation) = [f.owned] := by
  unfold Firewall.creation Firewall.owned
  split <;> rfl

theorem created_append (j k : Journal) : created (j ++ k) = created j ++ created k :=
  List.filterMap_append

theorem created_creations (fs : List Firewall) :
    created (creations fs) = fs.map Firewall.owned := by
  induction fs with
  | nil => rfl
  | cons f fs ih =>
    change created (succeeded f.creation ++ creations fs) = _
    rw [created_append, created_creation, ih]
    rfl

theorem Attempt.created_cases {j : Journal} (h : Attempt f j) :
    (created j = [] ∨ created j = [f.owned] ∧ f.Named) ∧ Within (created j) j := by
  cases h with
  | none => exact ⟨.inl rfl, nofun⟩
  | checkFailed => exact ⟨.inl rfl, by simp [Within]⟩
  | applyFailed => exact ⟨.inl rfl, by simp [Within, Command.resource]⟩
  | createFailed => exact ⟨.inl rfl, by simp [Within]⟩
  | dnatFailed hkind hnamed flushed removed =>
    have hcreated : created [(.newChain f.command f.resource, true),
        (.append f.command f.resource f.dnatRule, false), (.flush f.command f.resource, flushed),
        (.deleteChain f.command f.resource, removed)] = [.chain f.command f.resource] := by
      simp [created, Command.creates]
    rw [hcreated]
    refine ⟨.inr ⟨by rw [Firewall.owned, if_pos hkind], hnamed⟩, ?_⟩
    simp [Within, Command.resource]
  | jumpFailed hkind hnamed flushed removed =>
    have hcreated : created [(.newChain f.command f.resource, true),
        (.append f.command f.resource f.dnatRule, true),
        (.appendPrerouting f.command f.jumpRule, false), (.flush f.command f.resource, flushed),
        (.deleteChain f.command f.resource, removed)] = [.chain f.command f.resource] := by
      simp [created, Command.creates]
    rw [hcreated]
    refine ⟨.inr ⟨by rw [Firewall.owned, if_pos hkind], hnamed⟩, ?_⟩
    simp [Within, Command.resource]

theorem Attempt.created_fresh {j : Journal} (h : Attempt f j) {n n' : Netfilter}
    (hreplay : replay n j = some n') : ∀ x ∈ created j, x ∉ n.resources := by
  cases h with
  | none | checkFailed | applyFailed | createFailed => nofun
  | dnatFailed hkind hnamed flushed removed =>
    obtain ⟨n₁, hnew, -⟩ := replay_cons_iff.mp hreplay
    have hfresh := (step_newChain hnew).1
    simpa [created, Command.creates] using hfresh
  | jumpFailed hkind hnamed flushed removed =>
    obtain ⟨n₁, hnew, -⟩ := replay_cons_iff.mp hreplay
    have hfresh := (step_newChain hnew).1
    simpa [created, Command.creates] using hfresh

theorem without_fresh (hlinked : n.Linked) (hfresh : ∀ x ∈ gone, x ∉ n.resources)
    (hnamed : ∀ command name, .chain command name ∈ gone → ∃ random, name = "TCPCC_" ++ random) :
    n.without gone = n := by
  have htables : n.tables.filter (·.resource ∉ gone) = n.tables := by
    rw [List.filter_eq_self]
    intro t ht
    simp only [decide_eq_true_eq]
    intro hgone
    exact hfresh _ hgone (List.mem_append_left _ (List.mem_map_of_mem ht))
  have hchains : n.chains.filter (·.resource ∉ gone) = n.chains := by
    rw [List.filter_eq_self]
    intro c hc
    simp only [decide_eq_true_eq]
    intro hgone
    exact hfresh _ hgone (List.mem_append_right _ (List.mem_map_of_mem hc))
  have hrules : n.prerouting.filter (fun r => r.2.resource r.1 ∉ gone) = n.prerouting := by
    rw [List.filter_eq_self]
    intro r hr
    simp only [decide_eq_true_eq]
    intro hgone
    obtain ⟨random, hname⟩ := hnamed _ _ hgone
    have htarget : r.2.resource r.1 = .chain r.1 ("TCPCC_" ++ random) := congrArg _ hname
    rw [htarget] at hgone
    exact hfresh _ hgone (hlinked r hr _ _ htarget)
  rw [Netfilter.without, htables, hchains, hrules]

/-- A run over the host that installs policies, fails at one or not, and closes the policies in
reverse order: whatever fails, what the host had is left as it was, and nothing else is left if
all removals succeed. -/
theorem replay_transaction {fs : List Firewall} {g : Firewall} {attempt closing : Journal}
    (hnamed : ∀ f ∈ fs, f.Named) (hlinked : n.Linked) (hattempt : Attempt g attempt)
    (hclosing : closing.map Prod.fst = removals fs)
    (h : replay n (creations fs ++ attempt ++ closing) = some n') :
    (created (creations fs ++ attempt ++ closing)).Nodup ∧
      (∀ x ∈ created (creations fs ++ attempt ++ closing), x ∉ n.resources) ∧
      n'.without (created (creations fs ++ attempt ++ closing)) = n ∧
      (Removed (creations fs ++ attempt ++ closing) → n' = n) := by
  have hremoval : ∀ e ∈ closing, ∃ f ∈ fs, e.1 ∈ f.removal := by
    intro e he
    have hmem : e.1 ∈ removals fs := hclosing ▸ List.mem_map_of_mem he
    obtain ⟨f, hf, hc⟩ := List.mem_flatMap.mp hmem
    exact ⟨f, List.mem_reverse.mp hf, hc⟩
  have hnone : created closing = [] := by
    rw [created, List.filterMap_eq_nil_iff]
    intro e he
    obtain ⟨f, -, hc⟩ := hremoval e he
    rw [(Firewall.removal_resource hc).2.1, ite_self]
  rw [created_append, created_append, hnone, List.append_nil, created_creations]
  obtain ⟨m, hopening, -⟩ := replay_append.mp h
  obtain ⟨m₁, hcreations, htried⟩ := replay_append.mp hopening
  obtain ⟨hfresh, hnodup, hresources⟩ := replay_creations hcreations
  have htriedfresh := hattempt.created_fresh htried
  obtain ⟨hcases, hwithin⟩ := hattempt.created_cases
  have hfresh' : ∀ x ∈ fs.map Firewall.owned ++ created attempt, x ∉ n.resources := by
    intro x hx
    rcases List.mem_append.mp hx with hx | hx
    · obtain ⟨f, hf, rfl⟩ := List.mem_map.mp hx
      exact hfresh f hf
    · exact fun hold => htriedfresh x hx ((hresources x).mpr (.inl hold))
  refine ⟨?_, hfresh', ?_, ?_⟩
  · refine List.nodup_append.mpr ⟨hnodup, ?_, ?_⟩
    · rcases hcases with hempty | ⟨hsingle, -⟩
      · rw [hempty]
        exact List.nodup_nil
      · rw [hsingle]
        exact List.nodup_singleton _
    · rintro x hx y hy rfl
      exact htriedfresh x hy ((hresources x).mpr (.inr hx))
  · rw [replay_without ?_ h, without_fresh hlinked hfresh' ?_]
    · intro command name hin
      rcases List.mem_append.mp hin with hin | hin
      · obtain ⟨f, hf, heq⟩ := List.mem_map.mp hin
        exact (hnamed f hf).chain heq
      · rcases hcases with hempty | ⟨hsingle, hg⟩
        · rw [hempty] at hin
          cases hin
        · rw [hsingle, List.mem_singleton] at hin
          exact hg.chain hin.symm
    · intro e he hok x hx
      rw [List.append_assoc, List.mem_append, List.mem_append] at he
      rcases he with he | he | he
      · obtain ⟨f, hf, hin⟩ := List.mem_flatMap.mp he
        obtain ⟨c, hc, rfl⟩ := List.mem_map.mp hin
        rw [Firewall.creation_resource hc hx]
        exact List.mem_append_left _ (List.mem_map_of_mem hf)
      · exact List.mem_append_right _ (hwithin e he hok x hx)
      · obtain ⟨f, hf, hc⟩ := hremoval e he
        rw [(Firewall.removal_resource hc).1] at hx
        obtain rfl := Option.some.inj hx
        exact List.mem_append_left _ (List.mem_map_of_mem hf)
  · intro hremoved
    have hall : closing = succeeded (removals fs) := by
      rw [← hclosing, succeeded, List.map_map]
      refine (List.map_id closing).symm.trans (List.map_congr_left fun e he => ?_)
      obtain ⟨f, -, hc⟩ := hremoval e he
      have hok := hremoved e (List.mem_append_right _ he) (Firewall.removal_resource hc).2.2
      exact Prod.ext rfl hok
    refine replay_balanced hnamed hlinked (fun m m' => replay_attempt hattempt ?_) (hall ▸ h)
    exact fun e he => hremoved e (List.mem_append_left _ (List.mem_append_right _ he))

end Tcpcc.Native

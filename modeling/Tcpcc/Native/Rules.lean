import Tcpcc.Native.Accepted
import Tcpcc.Native.Inet
import Tcpcc.Native.Lifecycle
import Tcpcc.Native.Numbers

/-!
# What the rules of the host do to a packet

The tables and chains of the host as functions on the destination of a TCP packet, read from the
texts that were given to nft and iptables: a rule applies to the packets that match its
destination address and port. Installing the policies of all routes adds, for a packet to one of
the routes, the one rewriting that belongs to this route.
-/

namespace Tcpcc.Native

structure Packet where
  version : ℕ
  address : List UInt8
  port : ℕ
  deriving DecidableEq, Repr

/-! ## Rules -/

def parseTarget (inet : Inet) (version : ℕ) (text : String) : Option Packet :=
  match splitEndpoint text.toList with
  | none => none
  | some (v, address, port) =>
    match inet.pton v (String.ofList address), parseUnsigned (String.ofList port) 65535 with
    | some address, some port => if v = version then some ⟨v, address, port⟩ else none
    | _, _ => none

def NftTable.dnat (inet : Inet) (t : NftTable) (p : Packet) : Option Packet :=
  if t.family = (if p.version = 4 then "ip" else "ip6") ∧
      inet.pton p.version t.daddr = some p.address ∧ t.dport = p.port then
    parseTarget inet p.version t.destination
  else none

def addressBit (bytes : List UInt8) (i : ℕ) : Bool :=
  (bytes.getD (i / 8) 0).toNat.testBit (7 - i % 8)

def inRange (inet : Inet) (p : Packet) (range : String) : Bool :=
  let address := range.toList.takeWhile (· != '/')
  let length := (range.toList.dropWhile (· != '/')).tail
  match inet.pton p.version (String.ofList address), parseUnsigned (String.ofList length) 128 with
  | some address, some length =>
    (List.range length).all fun i => addressBit address i == addressBit p.address i
  | _, _ => false

def optionValue (name : String) : List String → Option String
  | key :: value :: rest => if key = name then some value else optionValue name rest
  | _ => none

def Rule.selects (inet : Inet) (r : Rule) (p : Packet) : Bool :=
  (optionValue "-d" r.selector).all (inRange inet p) &&
    (optionValue "-p" r.selector).all (· == "tcp") &&
    (optionValue "--dport" r.selector).all fun port => parseUnsigned port 65535 == some p.port

def Rule.dnat (inet : Inet) (r : Rule) (p : Packet) : Option Packet :=
  if r.target = "DNAT" ∧ r.selects inet p = true then
    (optionValue "--to-destination" r.options).bind (parseTarget inet p.version)
  else none

def commandVersion (command : String) : ℕ :=
  if "ip6tables".toList.isPrefixOf command.toList then 6 else 4

/-- What a rule of a PREROUTING chain does, itself or through the chain that it jumps to. -/
def Netfilter.prerouted (inet : Inet) (n : Netfilter) (p : Packet) (command : String) (r : Rule) :
    List Packet :=
  if commandVersion command = p.version ∧ r.selects inet p = true then
    (r.dnat inet p).toList ++ (n.chains.filter (·.resource = r.resource command)).flatMap fun c =>
      c.rules.filterMap (·.dnat inet p)
  else []

def Netfilter.dnats (inet : Inet) (n : Netfilter) (p : Packet) : List Packet :=
  n.tables.filterMap (·.dnat inet p) ++
    n.prerouting.flatMap fun r => n.prerouted inet p r.1 r.2

def Firewall.rewrite (inet : Inet) (f : Firewall) (p : Packet) : Option Packet :=
  if f.kind = .iptables then
    if commandVersion f.command = p.version ∧ f.jumpRule.selects inet p = true then
      f.dnatRule.dnat inet p
    else none
  else f.nftTable.dnat inet p

/-! ## Adding a policy -/

variable {inet : Inet} {n n' : Netfilter} {f : Firewall} {p : Packet}

theorem prerouted_add (hkind : f.kind = .iptables) {command : String} {r : Rule}
    (hother : r.resource command ≠ f.owned) :
    (n.add f).prerouted inet p command r = n.prerouted inet p command r := by
  have hnew : ¬Chain.resource ⟨f.command, f.resource, [f.dnatRule]⟩ = r.resource command := by
    rw [Firewall.owned, if_pos hkind] at hother
    exact fun h => hother h.symm
  simp only [Netfilter.prerouted, Netfilter.add, if_pos hkind, List.filter_append,
    List.filter_cons, hnew, decide_false, Bool.false_eq_true, if_false, List.filter_nil,
    List.append_nil]

theorem prerouted_jumpRule (hkind : f.kind = .iptables) (hnamed : f.Named)
    (hfresh : f.owned ∉ n.resources) :
    (n.add f).prerouted inet p f.command f.jumpRule = (f.rewrite inet p).toList := by
  obtain ⟨random, hname⟩ := hnamed hkind
  have howned : f.owned = .chain f.command f.resource := by rw [Firewall.owned, if_pos hkind]
  have hold : n.chains.filter (·.resource = f.jumpRule.resource f.command) = [] := by
    rw [List.filter_eq_nil_iff]
    intro c hc heq
    refine hfresh (List.mem_append_right _ (List.mem_map.mpr ⟨c, hc, ?_⟩))
    rw [howned]
    exact of_decide_eq_true heq
  have hself : f.jumpRule.dnat inet p = none := by
    have htarget : f.jumpRule.target ≠ "DNAT" := by
      intro h
      have hchars := congrArg String.toList (hname.symm.trans h)
      rw [String.toList_append] at hchars
      have hfirst : some 'T' = some 'D' := congrArg List.head? hchars
      exact absurd hfirst (by decide)
    rw [Rule.dnat, if_neg (fun h => htarget h.1)]
  have hnew : Chain.resource ⟨f.command, f.resource, [f.dnatRule]⟩ =
      f.jumpRule.resource f.command := rfl
  simp only [Netfilter.prerouted, Netfilter.add, if_pos hkind, List.filter_append, hold,
    List.filter_cons, hnew, decide_true, if_true, List.filter_nil, hself, Firewall.rewrite]
  split
  · cases hdnat : f.dnatRule.dnat inet p with
    | none => simp [hdnat]
    | some target => simp [hdnat]
  · rfl

theorem dnats_add (hlinked : n.Linked) (hnamed : f.Named) (hfresh : f.owned ∉ n.resources) :
    ((n.add f).dnats inet p).Perm ((f.rewrite inet p).toList ++ n.dnats inet p) := by
  by_cases hkind : f.kind = .iptables
  · have howned : f.owned = .chain f.command f.resource := by rw [Firewall.owned, if_pos hkind]
    have hold : n.prerouting.flatMap (fun r => (n.add f).prerouted inet p r.1 r.2) =
        n.prerouting.flatMap fun r => n.prerouted inet p r.1 r.2 := by
      refine List.flatMap_congr fun r hr => prerouted_add hkind fun heq => ?_
      obtain ⟨random, hname⟩ := hnamed hkind
      rw [howned, hname] at heq hfresh
      exact hfresh (hlinked r hr f.command random heq)
    have htables : (n.add f).tables = n.tables := by rw [Netfilter.add, if_pos hkind]
    have hrules : (n.add f).prerouting = n.prerouting ++ [(f.command, f.jumpRule)] := by
      rw [Netfilter.add, if_pos hkind]
    rw [Netfilter.dnats, htables, hrules, List.flatMap_append, hold, List.flatMap_singleton,
      prerouted_jumpRule hkind hnamed hfresh, Netfilter.dnats, ← List.append_assoc]
    exact List.perm_append_comm
  · have hadd : n.add f = { n with tables := n.tables ++ [f.nftTable] } := by
      rw [Netfilter.add, if_neg hkind]
    have hrewrite : f.rewrite inet p = f.nftTable.dnat inet p := by
      rw [Firewall.rewrite, if_neg hkind]
    have hnew : [f.nftTable].filterMap (·.dnat inet p) = (f.nftTable.dnat inet p).toList := by
      cases hdnat : f.nftTable.dnat inet p with
      | none => simp [hdnat]
      | some target => simp [hdnat]
    rw [hadd, hrewrite]
    change (((n.tables ++ [f.nftTable]).filterMap (·.dnat inet p)) ++ _).Perm _
    rw [List.filterMap_append, hnew]
    rw [Netfilter.dnats, ← List.append_assoc]
    exact List.perm_append_comm.append_right _

/-! ## The policies of the routes -/

structure Policy (config : Config) (r : Route) (f : Firewall) : Prop where
  kind : f.kind = config.firewall
  version : f.version = r.listen.version
  listen : f.listen = r.listen.address
  port : f.port = r.listen.port
  guest : f.guest = config.tunGuest
  command : config.firewall = .iptables →
    iptablesCommand config r.listen.version = some f.command

theorem firewallInstall_policy {config : Config} {pid : ℕ} {r : Route} {o : InstallOutcome}
    {journal : Journal} (h : firewallInstall config pid r.listen o n = (f, n', journal))
    (hinstalled : f.installed = true) : Policy config r f := by
  unfold firewallInstall at h
  rcases hrandom : o.random with _ | random
  · simp only [hrandom] at h
    cases h
    cases hinstalled
  rcases hstart : o.startTime with _ | start
  · simp only [hrandom, hstart] at h
    cases h
    cases hinstalled
  simp only [hrandom, hstart] at h
  split at h
  case isTrue hkind =>
    rcases hcommand : iptablesCommand config r.listen.version with _ | command
    · simp only [hcommand] at h
      cases h
      cases hinstalled
    · simp only [hcommand] at h
      split at h
      · cases h
        cases hinstalled
      · cases h
        exact ⟨rfl, rfl, rfl, rfl, rfl, fun _ => hcommand⟩
  case isFalse hkind =>
    split at h
    · cases h
      cases hinstalled
    · cases h
      exact ⟨rfl, rfl, rfl, rfl, rfl, fun hkind' => absurd hkind' hkind⟩

theorem installAll_dnats {w : World} {config : Config} {i : ℕ} {routes : List Route}
    {fs : List Firewall} {j : Journal} (hlinked : n.Linked)
    (h : installAll w config i routes n = (true, fs, n', j)) :
    List.Forall₂ (Policy config) routes fs ∧
      (n'.dnats inet p).Perm (fs.filterMap (·.rewrite inet p) ++ n.dnats inet p) := by
  induction routes generalizing i n fs j with
  | nil =>
    cases h
    exact ⟨.nil, .refl _⟩
  | cons route routes ih =>
    rcases hinstall : firewallInstall config w.pid route.listen (w.install i) n with ⟨f, n₁, j₁⟩
    simp only [installAll, hinstall] at h
    cases hinstalled : f.installed with
    | false =>
      simp only [hinstalled, if_true] at h
      cases h
    | true =>
      obtain ⟨hreplay, hok, -⟩ := firewallInstall_journal hinstall
      obtain ⟨hnamed, rfl⟩ := hok hinstalled
      obtain ⟨hfresh, rfl⟩ := replay_creation hreplay
      rcases hrest : installAll w config (i + 1) routes (n.add f) with ⟨oks, gs, n₂, js⟩
      simp only [hinstalled, hrest, Bool.true_eq_false, if_false] at h
      cases h
      obtain ⟨hpolicies, hperm⟩ := ih (hlinked.add f) hrest
      refine ⟨.cons (firewallInstall_policy hinstall hinstalled) hpolicies, ?_⟩
      have hcons : (f :: gs).filterMap (·.rewrite inet p) =
          (f.rewrite inet p).toList ++ gs.filterMap (·.rewrite inet p) := by
        cases hrewrite : f.rewrite inet p with
        | none => simp [hrewrite]
        | some target => simp [hrewrite]
      rw [hcons, List.append_assoc]
      refine hperm.trans (((dnats_add hlinked hnamed hfresh).append_left _).trans ?_)
      rw [← List.append_assoc, ← List.append_assoc]
      exact List.perm_append_comm.append_right _

section
variable {config : Config} {r : Route} {guest : List UInt8}

theorem selector_d : optionValue "-d" f.selector = some f.listenRange := rfl

theorem selector_p : optionValue "-p" f.selector = some "tcp" := rfl

theorem selector_dport : optionValue "--dport" f.selector = some (toString f.port) := rfl

theorem parseUnsigned_port (hport : f.port ≤ 65535) :
    parseUnsigned (toString f.port) 65535 = some f.port := by
  have htext : toString f.port = String.ofList (Nat.toDigits 10 f.port) := Nat.toString_eq_repr
  rw [htext]
  exact parseUnsigned_toDigits hport (by decide)

theorem Policy.rewrite_of_ne (hpolicy : Policy config r f) (hlisten : r.listen.Checked inet)
    (hport : r.listen.port ≠ p.port) : f.rewrite inet p = none := by
  have hne : f.port ≠ p.port := by
    rw [hpolicy.port]
    exact hport
  have hle : f.port ≤ 65535 := by
    rw [hpolicy.port]
    exact hlisten.port.2
  unfold Firewall.rewrite
  split
  · have hselects : f.jumpRule.selects inet p = false := by
      have hparse : (parseUnsigned (toString f.port) 65535 == some p.port) = false := by
        rw [parseUnsigned_port hle]
        simpa using hne
      rw [Rule.selects, show f.jumpRule.selector = f.selector from rfl, selector_dport,
        Option.all_some, hparse, Bool.and_false]
    rw [hselects, if_neg (by simp)]
  · rw [NftTable.dnat, if_neg fun h => hne h.2.2]

theorem not_mem_ntop (hinet : inet.Lawful) {version : ℕ} {packed : List UInt8} {c : Char}
    (halnum : c.isAlphanum = false) (hdot : c ≠ '.') (hcolon : version = 6 → c ≠ ':') :
    c ∉ (inet.ntop version packed).toList := by
  intro hc
  rcases hinet.plain c hc with h | h | ⟨hversion, h⟩
  · rw [halnum] at h
    cases h
  · exact hdot h
  · exact hcolon hversion h

theorem parseTarget_destination (hinet : inet.Lawful) (hpolicy : Policy config r f)
    (hlisten : r.listen.Checked inet) (hsize : guest.length = addressLength r.listen.version)
    (hguest : config.tunGuest = inet.ntop r.listen.version guest) :
    parseTarget inet r.listen.version f.destination =
      some ⟨r.listen.version, guest, r.listen.port⟩ := by
  have hport : parseUnsigned (String.ofList (Nat.toDigits 10 r.listen.port)) 65535 =
      some r.listen.port := parseUnsigned_toDigits hlisten.port.2 (by decide)
  have hpton := hinet.ntop_pton hlisten.version hsize
  rw [← hguest] at hpton
  have hsplit : splitEndpoint f.destination.toList =
      some (r.listen.version, config.tunGuest.toList, Nat.toDigits 10 r.listen.port) := by
    unfold Firewall.destination
    rw [hpolicy.version, hpolicy.guest, hpolicy.port]
    rcases hlisten.version with hv | hv
    · have hcolon : ':' ∉ config.tunGuest.toList := by
        rw [hguest, hv]
        exact not_mem_ntop hinet (by decide) (by decide) (by decide)
      have hbracket : config.tunGuest.toList.head? ≠ some '[' := by
        intro h
        have hmem := List.mem_of_head? h
        rw [hguest, hv] at hmem
        exact not_mem_ntop hinet (by decide) (by decide) (by decide) hmem
      have htext : (config.tunGuest ++ ":" ++ toString r.listen.port).toList =
          config.tunGuest.toList ++ ':' :: Nat.toDigits 10 r.listen.port := by
        rw [toList_append_toString, String.toList_append, List.append_assoc]
        rfl
      rw [hv, if_neg (by decide), htext]
      exact splitEndpoint_v4 hbracket hcolon (not_mem_toDigits (by decide))
    · have hbracket : ']' ∉ config.tunGuest.toList := by
        rw [hguest, hv]
        exact not_mem_ntop hinet (by decide) (by decide) (by decide)
      obtain ⟨c, cs, hdigits⟩ := List.exists_cons_of_ne_nil
        (Nat.toDigits_ne_nil (n := r.listen.port) (b := 10))
      have htext : ("[" ++ config.tunGuest ++ "]:" ++ toString r.listen.port).toList =
          '[' :: (config.tunGuest.toList ++ ']' :: ':' :: Nat.toDigits 10 r.listen.port) := by
        rw [toList_append_toString, String.toList_append, String.toList_append]
        simp
      rw [hv, if_pos rfl, htext, hdigits]
      exact splitEndpoint_v6 hbracket
  unfold parseTarget
  simp only [hsplit, String.ofList_toList, hpton, hport, if_true]

def Route.packet (r : Route) : Packet := ⟨r.listen.version, r.listen.packed, r.listen.port⟩

theorem inRange_listenRange (hinet : inet.Lawful) (hpolicy : Policy config r f)
    (hlisten : r.listen.Checked inet)
    (hsize : r.listen.packed.length = addressLength r.listen.version) :
    inRange inet r.packet f.listenRange = true := by
  have hslash : '/' ∉ r.listen.address.toList := by
    rw [hlisten.address]
    exact not_mem_ntop hinet (by decide) (by decide) fun _ => by decide
  have hall : ∀ c ∈ r.listen.address.toList, (c != '/') = true := by
    intro c hc
    exact bne_iff_ne.mpr fun heq => hslash (heq ▸ hc)
  have hpton := hinet.ntop_pton hlisten.version hsize
  rw [← hlisten.address] at hpton
  obtain ⟨length, hlength, hparse⟩ : ∃ length : List Char, f.listenRange.toList =
      r.listen.address.toList ++ '/' :: length ∧
      (parseUnsigned (String.ofList length) 128).isSome = true := by
    unfold Firewall.listenRange
    rw [hpolicy.version, hpolicy.listen]
    split
    · exact ⟨['3', '2'], by simp, by decide⟩
    · exact ⟨['1', '2', '8'], by simp, by decide⟩
  obtain ⟨bits, hbits⟩ := Option.isSome_iff_exists.mp hparse
  have htake : f.listenRange.toList.takeWhile (· != '/') = r.listen.address.toList := by
    rw [hlength, List.takeWhile_append_of_pos hall]
    simp
  have hdrop : f.listenRange.toList.dropWhile (· != '/') = '/' :: length := by
    rw [hlength, List.dropWhile_append_of_pos hall]
    rfl
  unfold inRange
  simp only [htake, hdrop, List.tail_cons, String.ofList_toList, Route.packet, hpton, hbits]
  simp

theorem Policy.rewrite_self (hinet : inet.Lawful) (hpolicy : Policy config r f)
    (hvariant : config.iptablesVariant = "iptables" ∨ config.iptablesVariant = "iptables-nft" ∨
      config.iptablesVariant = "iptables-legacy")
    (hlisten : r.listen.Checked inet) (hsize : guest.length = addressLength r.listen.version)
    (hguest : config.tunGuest = inet.ntop r.listen.version guest) :
    f.rewrite inet r.packet = some ⟨r.listen.version, guest, r.listen.port⟩ := by
  have htarget := parseTarget_destination hinet hpolicy hlisten hsize hguest
  obtain ⟨text, htext⟩ := hlisten.packed
  have hpacked := hinet.size htext
  unfold Firewall.rewrite
  split
  case isTrue hkind =>
    have hcommand : commandVersion f.command = r.packet.version := by
      have hsome := hpolicy.command (hpolicy.kind.symm.trans hkind)
      unfold iptablesCommand at hsome
      change _ = r.listen.version
      rcases hlisten.version with hv | hv <;> rcases hvariant with h | h | h <;>
        · rw [hv, h] at hsome
          rw [← Option.some.inj hsome, hv]
          decide
    have hport : parseUnsigned (toString f.port) 65535 = some r.listen.port := by
      have hle : f.port ≤ 65535 := hpolicy.port.trans_le hlisten.port.2
      rw [parseUnsigned_port hle, hpolicy.port]
    have hselects : ∀ rule : Rule, rule.selector = f.selector →
        rule.selects inet r.packet = true := by
      intro rule hrule
      have hrange := inRange_listenRange hinet hpolicy hlisten hpacked
      rw [Rule.selects, hrule, selector_d, selector_p, selector_dport]
      simp only [Option.all_some, hrange, hport, Bool.true_and]
      simp [Route.packet]
    rw [if_pos ⟨hcommand, hselects _ rfl⟩, Rule.dnat, if_pos ⟨rfl, hselects _ rfl⟩]
    exact htarget
  case isFalse =>
    have hpton := hinet.ntop_pton hlisten.version hpacked
    rw [← hlisten.address, ← hpolicy.listen] at hpton
    have hfamily : f.nftTable.family = (if r.packet.version = 4 then "ip" else "ip6") := by
      change f.family = _
      rw [Firewall.family, hpolicy.version]
      rfl
    rw [NftTable.dnat, if_pos ⟨hfamily, hpton, hpolicy.port⟩]
    exact htarget

theorem rewrites_other {routes : List Route} {fs : List Firewall}
    (hpolicies : List.Forall₂ (Policy config) routes fs)
    (hlisten : ∀ r' ∈ routes, r'.listen.Checked inet)
    (hports : ∀ r' ∈ routes, r'.listen.port ≠ p.port) :
    fs.filterMap (·.rewrite inet p) = [] := by
  induction hpolicies with
  | nil => rfl
  | cons hpolicy _ ih =>
    obtain ⟨hhead, htail⟩ := List.forall_mem_cons.mp hlisten
    obtain ⟨hport, hrest⟩ := List.forall_mem_cons.mp hports
    rw [List.filterMap_cons, hpolicy.rewrite_of_ne hhead hport]
    exact ih htail hrest

theorem rewrites_route (hinet : inet.Lawful) {routes : List Route} {fs : List Firewall}
    (hvariant : config.iptablesVariant = "iptables" ∨ config.iptablesVariant = "iptables-nft" ∨
      config.iptablesVariant = "iptables-legacy")
    (hpolicies : List.Forall₂ (Policy config) routes fs)
    (hlisten : ∀ r' ∈ routes, r'.listen.Checked inet)
    (hports : (routes.map fun r => r.listen.port).Nodup) (hr : r ∈ routes)
    (hsize : guest.length = addressLength r.listen.version)
    (hguest : config.tunGuest = inet.ntop r.listen.version guest) :
    fs.filterMap (·.rewrite inet r.packet) = [⟨r.listen.version, guest, r.listen.port⟩] := by
  induction hpolicies with
  | nil => cases hr
  | @cons r' f' routes fs hpolicy hrest ih =>
    obtain ⟨hhead, htail⟩ := List.forall_mem_cons.mp hlisten
    rw [List.map_cons, List.nodup_cons] at hports
    have hnew : ∀ s ∈ routes, s.listen.port ≠ r'.listen.port := fun s hs heq =>
      hports.1 (heq ▸ List.mem_map_of_mem hs)
    rcases List.mem_cons.mp hr with rfl | hmem
    · rw [List.filterMap_cons, hpolicy.rewrite_self hinet hvariant hhead hsize hguest]
      exact congrArg _ (rewrites_other hrest htail hnew)
    · have hne : r'.listen.port ≠ r.packet.port := (hnew r hmem).symm
      rw [List.filterMap_cons, hpolicy.rewrite_of_ne hhead hne]
      exact ih htail hports.2 hmem

end

end Tcpcc.Native

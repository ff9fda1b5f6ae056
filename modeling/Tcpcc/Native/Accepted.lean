import Mathlib.Data.List.Nodup
import Tcpcc.Native.Config

/-!
# What the native configuration accepts

The checks of the setters, of the forwards and of `tcpcc_config_finalize`, as facts about every
configuration that is accepted from a file or from direct arguments.
-/

namespace Tcpcc.Native

variable {inet : Inet} {strtod : String → Option Float} {config config' : Config}

structure Endpoint.Checked (inet : Inet) (e : Endpoint) : Prop where
  version : e.version = 4 ∨ e.version = 6
  port : 0 < e.port ∧ e.port ≤ 65535
  address : e.address = inet.ntop e.version e.packed
  packed : ∃ text, inet.pton e.version text = some e.packed

structure RoutesChecked (inet : Inet) (routes : List Route) : Prop where
  listen : ∀ r ∈ routes, r.listen.Checked inet
  backend : ∀ r ∈ routes, r.backend.Checked inet
  loopback : ∀ r ∈ routes, r.backend.version = 4 ∧ r.backend.address = "127.0.0.1"
  family : ∀ r ∈ routes, ∀ r' ∈ routes, r.listen.version = r'.listen.version
  ports : (routes.map fun r => r.listen.port).Nodup

structure Config.Checked (inet : Inet) (config : Config) : Prop where
  routes : RoutesChecked inet config.routes
  cc : config.cc.length ≤ 15
  variant : config.iptablesVariant = "iptables" ∨ config.iptablesVariant = "iptables-nft" ∨
    config.iptablesVariant = "iptables-legacy"
  memory : minimumMemoryMib ≤ config.memoryMib ∧ config.memoryMib ≤ ulongMax
  tcpWmem : config.tcpWmemMaxKib = 0 ∨
    tcpWmemMaxKibMinimum ≤ config.tcpWmemMaxKib ∧ config.tcpWmemMaxKib ≤ tcpWmemMaxKibLimit
  backlog : 0 < config.backlog ∧ config.backlog ≤ maxBacklog
  maxConnections : config.maxConnections ≤ maxConnectionsLimit

/-- A configuration that `tcpcc_parse_args` accepts. -/
inductive Accepted (inet : Inet) (strtod : String → Option Float) : Config → Prop
  | file {kernel : Option String} {initial : Config} {file : FileConfig} {check : Bool}
      {config : Config} (hinit : configInit kernel = .ok initial)
      (h : applyFileConfig inet initial file check = .ok config) : Accepted inet strtod config
  | direct {kernel : Option String} {initial : Config} {arguments : List Argument}
      {positional : Bool} {config : Config} (hinit : configInit kernel = .ok initial)
      (h : parseDirectArgs inet strtod initial arguments positional = .ok config) :
      Accepted inet strtod config

theorem bind_eq_ok {α β : Type} {x : Except String α} {f : α → Except String β} {b : β} :
    (x >>= f) = .ok b ↔ ∃ a, x = .ok a ∧ f a = .ok b := by
  cases x with
  | error message => exact ⟨nofun, fun ⟨_, h, _⟩ => by cases h⟩
  | ok a => exact ⟨fun h => ⟨a, rfl, h⟩, fun ⟨_, h, h'⟩ => by cases h; exact h'⟩

theorem map_eq_ok {α β : Type} {x : Except String α} {f : α → β} {b : β} :
    x.map f = .ok b ↔ ∃ a, x = .ok a ∧ f a = b := by
  cases x with
  | error message => exact ⟨nofun, fun ⟨_, h, _⟩ => by cases h⟩
  | ok a =>
    constructor
    · intro h
      exact ⟨a, rfl, Except.ok.inj h⟩
    · rintro ⟨_, ⟨⟩, rfl⟩
      rfl

/-! ## Endpoints and routes -/

theorem parseUnsigned_le {text : String} {maximum value : ℕ}
    (h : parseUnsigned text maximum = some value) : value ≤ maximum := by
  unfold parseUnsigned at h
  split at h
  · cases h
  · split at h
    · split at h
      · split at h
        · cases h
          assumption
        · cases h
      · cases h
    · cases h

theorem splitEndpoint_version {text : List Char} {version : ℕ} {address port : List Char}
    (h : splitEndpoint text = some (version, address, port)) : version = 4 ∨ version = 6 := by
  unfold splitEndpoint at h
  split at h
  · split at h
    · cases h
      exact .inr rfl
    · cases h
  · split at h
    · split at h
      · cases h
      · cases h
        exact .inl rfl
    · cases h

theorem parseEndpoint_checked {text : String} {e : Endpoint}
    (h : parseEndpoint inet text = some e) : e.Checked inet := by
  unfold parseEndpoint at h
  rcases hsplit : splitEndpoint text.toList with _ | ⟨version, address, portText⟩
  · simp [hsplit] at h
  simp only [hsplit] at h
  split at h
  · cases h
  rcases hport : parseUnsigned (String.ofList portText) 65535 with _ | port
  · simp [hport] at h
  simp only [hport] at h
  split at h
  · cases h
  case isFalse hzero =>
  rcases hpton : inet.pton version (String.ofList address) with _ | packed
  · simp [hpton] at h
  simp only [hpton] at h
  split at h
  · cases h
  · cases h
    exact ⟨splitEndpoint_version hsplit, ⟨Nat.pos_of_ne_zero hzero, parseUnsigned_le hport⟩, rfl,
      _, hpton⟩

theorem RoutesChecked.append {routes : List Route} {route : Route}
    (h : RoutesChecked inet routes) (hlisten : route.listen.Checked inet)
    (hbackend : route.backend.Checked inet)
    (hloopback : route.backend.version = 4 ∧ route.backend.address = "127.0.0.1")
    (hfamily : ∀ r ∈ routes, r.listen.version = route.listen.version)
    (hport : ∀ r ∈ routes, r.listen.port ≠ route.listen.port) :
    RoutesChecked inet (routes ++ [route]) := by
  have hall : ∀ {P : Route → Prop}, (∀ r ∈ routes, P r) → P route →
      ∀ r ∈ routes ++ [route], P r := by
    intro P hroutes hroute r hr
    rcases List.mem_append.mp hr with hr | hr
    · exact hroutes r hr
    · exact List.mem_singleton.mp hr ▸ hroute
  refine ⟨hall h.listen hlisten, hall h.backend hbackend, hall h.loopback hloopback, ?_, ?_⟩
  · refine hall (fun r hr => hall (h.family r hr) (hfamily r hr)) (hall ?_ rfl)
    exact fun r hr => (hfamily r hr).symm
  · rw [List.map_append, List.nodup_append]
    refine ⟨h.ports, List.nodup_singleton _, ?_⟩
    intro a ha b hb
    obtain ⟨r, hr, rfl⟩ := List.mem_map.mp ha
    obtain rfl := List.mem_singleton.mp hb
    exact hport r hr

theorem addForward_checked {listenText backendText : String} (h : config.Checked inet)
    (hok : addForward inet config listenText backendText = .ok config') :
    config'.Checked inet := by
  unfold addForward at hok
  rcases hlisten : parseEndpoint inet listenText with _ | listen
  · simp [hlisten] at hok
  rcases hbackend : parseEndpoint inet backendText with _ | backend
  · simp [hlisten, hbackend] at hok
  simp only [hlisten, hbackend] at hok
  split at hok
  · cases hok
  case isFalse hloopback =>
  obtain ⟨hversion, haddress⟩ := not_or.mp hloopback
  rcases hvalid : validateNewListen config listen with _ | _
  · simp [hvalid] at hok
  simp only [hvalid] at hok
  cases hok
  unfold validateNewListen at hvalid
  split at hvalid
  · cases hvalid
  case isFalse hfamily =>
  split at hvalid
  · cases hvalid
  case isFalse hport =>
  refine { h with routes := ?_ }
  refine h.routes.append (parseEndpoint_checked hlisten) (parseEndpoint_checked hbackend)
    ⟨not_not.mp hversion, not_not.mp haddress⟩ ?_ ?_
  · intro r hr
    obtain ⟨first, rest, hroutes⟩ := List.exists_cons_of_ne_nil (List.ne_nil_of_mem hr)
    have hfirst : first.listen.version = listen.version := by
      simpa [hroutes] using hfamily
    exact (h.routes.family r hr first (by simp [hroutes])).trans hfirst
  · intro r hr heq
    exact hport (List.any_eq_true.mpr ⟨r, hr, by simpa using heq⟩)

theorem parseForward_checked {text : String} (h : config.Checked inet)
    (hok : parseForward inet config text = .ok config') : config'.Checked inet := by
  unfold parseForward at hok
  split at hok
  · cases hok
  · exact addForward_checked h hok

/-! ## Settings -/

def Keeps {α : Type} (inet : Inet) (valid : α → Prop)
    (set : Config → α → Except String Config) : Prop :=
  ∀ config value config', config.Checked inet → valid value → set config value = .ok config' →
    config'.Checked inet

theorem keeps_setCc : Keeps inet (fun _ => True) setCc := by
  intro config value config' h _ hok
  unfold setCc at hok
  split at hok
  case isTrue hvalid =>
    cases hok
    simp only [validName, Bool.and_eq_true, decide_eq_true_eq] at hvalid
    exact { h with cc := hvalid.1.1.1.2 }
  · cases hok

theorem keeps_setKernel : Keeps inet (fun _ => True) setKernel := by
  intro config value config' h _ hok
  unfold setKernel at hok
  split at hok
  · cases hok
    exact { h with }
  · cases hok

theorem keeps_setMemory : Keeps inet (· ≤ ulongMax) setMemory := by
  intro config value config' h hvalue hok
  unfold setMemory at hok
  split at hok
  · cases hok
  case isFalse hlow =>
    cases hok
    exact { h with memory := ⟨Nat.le_of_not_lt hlow, hvalue⟩ }

theorem keeps_setTcpWmem : Keeps inet (fun _ => True) setTcpWmem := by
  intro config value config' h _ hok
  unfold setTcpWmem at hok
  split at hok
  · cases hok
  case isFalse hrange =>
    cases hok
    obtain ⟨hlow, hhigh⟩ := not_or.mp hrange
    exact { h with tcpWmem := .inr ⟨Nat.le_of_not_lt hlow, Nat.le_of_not_lt hhigh⟩ }

theorem keeps_setFirewall : Keeps inet (fun _ => True) setFirewall := by
  intro config value config' h _ hok
  unfold setFirewall at hok
  split at hok
  · cases hok
    exact { h with }
  · cases hok

theorem keeps_setIptablesVariant : Keeps inet (fun _ => True) setIptablesVariant := by
  intro config value config' h _ hok
  unfold setIptablesVariant at hok
  split at hok
  · cases hok
  case isFalse hvalid =>
    cases hok
    refine { h with variant := ?_ }
    simpa [or_assoc, ← Classical.or_iff_not_imp_left] using hvalid

theorem keeps_setTunName : Keeps inet (fun _ => True) setTunName := by
  intro config value config' h _ hok
  unfold setTunName at hok
  split at hok
  · cases hok
    exact { h with }
  · cases hok

theorem keeps_setBacklog : Keeps inet (fun _ => True) setBacklog := by
  intro config value config' h _ hok
  unfold setBacklog at hok
  split at hok
  · cases hok
  case isFalse hrange =>
    cases hok
    obtain ⟨hzero, hhigh⟩ := not_or.mp hrange
    exact { h with backlog := ⟨Nat.pos_of_ne_zero hzero, Nat.le_of_not_lt hhigh⟩ }

theorem keeps_setMaxConnections : Keeps inet (fun _ => True) setMaxConnections := by
  intro config value config' h _ hok
  unfold setMaxConnections at hok
  split at hok
  · cases hok
  case isFalse hhigh =>
    cases hok
    exact { h with maxConnections := Nat.le_of_not_lt hhigh }

theorem keeps_setGrace : Keeps inet (fun _ => True) setGrace := by
  intro config value config' h _ hok
  unfold setGrace at hok
  split at hok
  · cases hok
  · cases hok
    exact { h with }

theorem configInit_checked {kernel : Option String} (h : configInit kernel = .ok config) :
    config.Checked inet := by
  cases kernel with
  | none => cases h
  | some kernel =>
    cases h
    have hmemory : minimumMemoryMib ≤ 128 ∧ 128 ≤ ulongMax := by decide
    have hbacklog : 0 < 128 ∧ 128 ≤ maxBacklog := by decide
    have hcc : "".length ≤ 15 := by decide
    exact ⟨⟨nofun, nofun, nofun, nofun, List.nodup_nil⟩, hcc, .inl rfl, hmemory, .inl rfl,
      hbacklog, Nat.zero_le _⟩

/-! ## Files and arguments -/

theorem given_checked {α : Type} {valid : α → Prop} {set : Config → α → Except String Config}
    {value : Option α} (hset : Keeps inet valid set) (h : config.Checked inet)
    (hvalid : ∀ v, value = some v → valid v) (hok : given set config value = .ok config') :
    config'.Checked inet := by
  cases value with
  | none =>
    cases hok
    exact h
  | some v => exact hset config v config' h (hvalid v rfl) hok

theorem forwards_checked {forwards : List (String × String)} (h : config.Checked inet)
    (hok : forwards.foldlM (fun config f => addForward inet config f.1 f.2) config = .ok config') :
    config'.Checked inet := by
  induction forwards generalizing config with
  | nil =>
    cases hok
    exact h
  | cons f forwards ih =>
    rw [List.foldlM_cons] at hok
    obtain ⟨next, hnext, hrest⟩ := bind_eq_ok.mp hok
    exact ih (addForward_checked h hnext) hrest

theorem applySettings_checked {file : FileConfig} (h : config.Checked inet)
    (hok : applySettings inet config file = .ok config') : config'.Checked inet := by
  have hmemory : ∀ v, file.memoryMib.map UInt64.toNat = some v → v ≤ ulongMax := by
    intro v hv
    obtain ⟨n, -, rfl⟩ := Option.map_eq_some_iff.mp hv
    exact Nat.le_pred_of_lt n.toNat_lt
  obtain ⟨c₁, h₁, hok₁⟩ := bind_eq_ok.mp hok
  obtain ⟨c₂, h₂, hok₂⟩ := bind_eq_ok.mp hok₁
  obtain ⟨c₃, h₃, hok₃⟩ := bind_eq_ok.mp hok₂
  obtain ⟨c₄, h₄, hok₄⟩ := bind_eq_ok.mp hok₃
  obtain ⟨c₅, h₅, hok₅⟩ := bind_eq_ok.mp hok₄
  obtain ⟨c₆, h₆, hok₆⟩ := bind_eq_ok.mp hok₅
  obtain ⟨c₇, h₇, hok₇⟩ := bind_eq_ok.mp hok₆
  obtain ⟨c₈, h₈, hok₈⟩ := bind_eq_ok.mp hok₇
  obtain ⟨c₉, h₉, hok₉⟩ := bind_eq_ok.mp hok₈
  obtain ⟨c₁₀, h₁₀, hok₁₀⟩ := bind_eq_ok.mp hok₉
  have k₁ := keeps_setCc config file.cc c₁ h trivial h₁
  have k₂ := forwards_checked k₁ h₂
  have k₃ := given_checked keeps_setKernel k₂ (fun _ _ => trivial) h₃
  have k₄ := given_checked keeps_setMemory k₃ hmemory h₄
  have k₅ := given_checked keeps_setTcpWmem k₄ (fun _ _ => trivial) h₅
  have k₆ := given_checked keeps_setFirewall k₅ (fun _ _ => trivial) h₆
  have k₇ := given_checked keeps_setIptablesVariant k₆ (fun _ _ => trivial) h₇
  have k₈ := given_checked keeps_setTunName k₇ (fun _ _ => trivial) h₈
  have k₉ := given_checked keeps_setBacklog k₈ (fun _ _ => trivial) h₉
  have k₁₀ := given_checked keeps_setMaxConnections k₉ (fun _ _ => trivial) h₁₀
  exact given_checked keeps_setGrace k₁₀ (fun _ _ => trivial) hok₁₀

section
variable {p p' : Parsing}

theorem set_checked {result : Except String Config} (hok : p.set result = .ok p')
    (hresult : ∀ config, result = .ok config → config.Checked inet) : p'.config.Checked inet := by
  obtain ⟨config, hconfig, rfl⟩ := map_eq_ok.mp hok
  exact hresult config hconfig

theorem setNumber_checked {text message : String} {maximum : ℕ}
    {set : Config → ℕ → Except String Config} {valid : ℕ → Prop} (hset : Keeps inet valid set)
    (h : p.config.Checked inet) (hvalid : ∀ v, v ≤ maximum → valid v)
    (hok : p.setNumber text maximum message set = .ok p') : p'.config.Checked inet := by
  unfold Parsing.setNumber at hok
  split at hok
  · cases hok
  case h_2 value hvalue =>
    exact set_checked hok fun config hconfig =>
      hset _ value config h (hvalid value (parseUnsigned_le hvalue)) hconfig

theorem apply_checked {a : Argument} (h : p.config.Checked inet)
    (hok : p.apply inet strtod a = .ok p') : p'.config.Checked inet := by
  cases a with
  | forward text => exact set_checked hok fun config hconfig => parseForward_checked h hconfig
  | check =>
    cases hok
    exact { h with }
  | tcpWmemMaxKib text =>
    simp only [Parsing.apply] at hok
    split at hok
    · cases hok
    · obtain ⟨p₁, h₁, rfl⟩ := map_eq_ok.mp hok
      have hset : p₁.config.Checked inet :=
        setNumber_checked keeps_setTcpWmem h (fun _ _ => trivial) h₁
      exact hset
  | cc text => exact set_checked hok fun config => keeps_setCc _ text config h trivial
  | kernel text => exact set_checked hok fun config => keeps_setKernel _ text config h trivial
  | memoryMib text => exact setNumber_checked keeps_setMemory h (fun _ hv => hv) hok
  | firewallBackend text =>
    exact set_checked hok fun config => keeps_setFirewall _ text config h trivial
  | iptablesVariant text =>
    obtain ⟨p₁, h₁, rfl⟩ := map_eq_ok.mp hok
    have hset : p₁.config.Checked inet := set_checked h₁ fun config =>
      keeps_setIptablesVariant _ text config h trivial
    exact hset
  | tunName text => exact set_checked hok fun config => keeps_setTunName _ text config h trivial
  | tunHostAddress text =>
    cases hok
    exact h
  | tunGuestAddress text =>
    cases hok
    exact h
  | backlog text => exact setNumber_checked keeps_setBacklog h (fun _ _ => trivial) hok
  | maxConnections text =>
    exact setNumber_checked keeps_setMaxConnections h (fun _ _ => trivial) hok
  | shutdownGracePeriod text =>
    simp only [Parsing.apply] at hok
    split at hok
    · cases hok
    case h_2 seconds _ =>
      exact set_checked hok fun config => keeps_setGrace _ seconds config h trivial
  | unknown => cases hok

theorem arguments_checked {arguments : List Argument} (h : p.config.Checked inet)
    (hok : arguments.foldlM (Parsing.apply inet strtod) p = .ok p') : p'.config.Checked inet := by
  induction arguments generalizing p with
  | nil =>
    cases hok
    exact h
  | cons a arguments ih =>
    rw [List.foldlM_cons] at hok
    obtain ⟨next, hnext, hrest⟩ := bind_eq_ok.mp hok
    exact ih (apply_checked h hnext) hrest

end

structure Config.Complete (inet : Inet) (config : Config) : Prop extends config.Checked inet where
  nonempty : config.routes ≠ []
  selected : config.cc ≠ ""
  guest : ∀ r ∈ config.routes, ∃ text packed, inet.pton r.listen.version text = some packed ∧
    config.tunGuest = inet.ntop r.listen.version packed
  distinct : config.tunHost ≠ config.tunGuest

theorem finalize_complete {host guest : Option String} {explicit : Bool}
    (h : config.Checked inet) (hok : finalize inet config host guest explicit = .ok config') :
    config'.Complete inet := by
  unfold finalize at hok
  rcases hroutes : config.routes with _ | ⟨first, rest⟩
  · simp [hroutes] at hok
  simp only [hroutes] at hok
  split at hok
  · cases hok
  case isFalse hselected =>
  split at hok
  · cases hok
  split at hok
  case h_1 hostAddress guestAddress _ hguest =>
    split at hok
    · cases hok
    case isFalse hdistinct =>
      cases hok
      obtain ⟨packed, hpacked, hname⟩ := Option.map_eq_some_iff.mp hguest
      have hchecked := h.routes
      rw [hroutes] at hchecked
      refine
        { h with
          routes := hchecked
          nonempty := nofun
          selected := hselected
          guest := ?_
          distinct := hdistinct }
      intro r hr
      rw [hchecked.family r hr first List.mem_cons_self]
      exact ⟨_, packed, hpacked, hname.symm⟩
  · cases hok

theorem Accepted.complete (h : Accepted inet strtod config) : config.Complete inet := by
  cases h with
  | @file kernel initial file check config hinit h =>
    obtain ⟨settled, hsettled, hfinal⟩ := bind_eq_ok.mp h
    have hchecked := applySettings_checked (configInit_checked hinit) hsettled
    have hflagged : Config.Checked inet { settled with checkOnly := check } := { hchecked with }
    exact finalize_complete hflagged hfinal
  | direct hinit h =>
    obtain ⟨p, hp, hfinal⟩ := bind_eq_ok.mp h
    split at hfinal
    · cases hfinal
    · exact finalize_complete (arguments_checked (configInit_checked hinit) hp) hfinal

end Tcpcc.Native

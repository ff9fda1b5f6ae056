import Mathlib.Data.List.TakeWhile
import Tcpcc.Native.Config
import Tcpcc.Native.Endpoints

/-!
# A file and the arguments that spell it

Each argument reads and writes its own part of the configuration, so the arguments may be taken in
the order in which `tcpcc_apply_file_config` goes through the file.
-/

namespace Tcpcc.Native
open Machine

variable {inet : Inet} {strtod : String → Option Float}

inductive Key
  | cc
  | forward
  | kernel
  | memoryMib
  | tcpWmemMaxKib
  | firewallBackend
  | iptablesVariant
  | tunName
  | backlog
  | maxConnections
  | shutdownGracePeriod
  | check
  | tunHostAddress
  | tunGuestAddress
  | unknown
  deriving DecidableEq, Repr

def Argument.key : Argument → Key
  | .forward _ => .forward
  | .check => .check
  | .tcpWmemMaxKib _ => .tcpWmemMaxKib
  | .cc _ => .cc
  | .kernel _ => .kernel
  | .memoryMib _ => .memoryMib
  | .firewallBackend _ => .firewallBackend
  | .iptablesVariant _ => .iptablesVariant
  | .tunName _ => .tunName
  | .tunHostAddress _ => .tunHostAddress
  | .tunGuestAddress _ => .tunGuestAddress
  | .backlog _ => .backlog
  | .maxConnections _ => .maxConnections
  | .shutdownGracePeriod _ => .shutdownGracePeriod
  | .unknown => .unknown

/-! ## Steps that commute -/

def newRoute (inet : Inet) (listenText backendText : String) : Option Route :=
  match parseEndpoint inet listenText, parseEndpoint inet backendText with
  | some listen, some backend =>
    if backend.version ≠ 4 ∨ backend.address ≠ "127.0.0.1" then none else some ⟨listen, backend⟩
  | _, _ => none

def fits (routes : List Route) (listen : Endpoint) : Bool :=
  (routes.head?.map fun r => r.listen.version).getD listen.version == listen.version &&
    !routes.any fun r => r.listen.port == listen.port

theorem toOption_addForward (config : Config) (listenText backendText : String) :
    (addForward inet config listenText backendText).toOption =
      (newRoute inet listenText backendText).bind fun r =>
        if fits config.routes r.listen then some { config with routes := config.routes ++ [r] }
        else none := by
  unfold addForward newRoute
  cases parseEndpoint inet listenText with
  | none => rfl
  | some listen =>
    cases parseEndpoint inet backendText with
    | none => rfl
    | some backend =>
      simp only
      split
      · rfl
      · simp only [validateNewListen, fits, Option.bind_some]
        by_cases hversion : (config.routes.head?.map fun r => r.listen.version).getD
            listen.version = listen.version
        · by_cases hport : (config.routes.any fun r => r.listen.port == listen.port) = true
          · simp [hversion, hport]
            rfl
          · simp [hversion, hport]
            rfl
        · simp [hversion]
          rfl

def parsedForward (inet : Inet) (text : String) : Option Route :=
  (splitForward text.toList).bind fun sides =>
    newRoute inet (String.ofList sides.1) (String.ofList sides.2)

theorem toOption_parseForward (config : Config) (text : String) :
    (parseForward inet config text).toOption =
      (parsedForward inet text).bind fun r =>
        if fits config.routes r.listen then some { config with routes := config.routes ++ [r] }
        else none := by
  unfold parseForward parsedForward
  cases splitForward text.toList with
  | none => rfl
  | some sides => exact toOption_addForward _ _ _

def Argument.valid (inet : Inet) (strtod : String → Option Float) (p : Parsing) :
    Argument → Bool
  | .forward text => (parsedForward inet text).any fun r => fits p.config.routes r.listen
  | .check => true
  | .tcpWmemMaxKib text =>
    !p.tcpWmemSeen && (parseUnsigned text tcpWmemMaxKibLimit).any fun n =>
      decide (¬ (n < tcpWmemMaxKibMinimum ∨ tcpWmemMaxKibLimit < n))
  | .cc text => validName text 15 true
  | .kernel text => decide (text.utf8ByteSize < 4096)
  | .memoryMib text => (parseUnsigned text ulongMax).any fun n => decide (¬ n < minimumMemoryMib)
  | .firewallBackend text => (firewallKind text).isSome
  | .iptablesVariant text =>
    !(text != "iptables" && text != "iptables-nft" && text != "iptables-legacy")
  | .tunName text => validName text 15 false
  | .tunHostAddress _ => true
  | .tunGuestAddress _ => true
  | .backlog text =>
    (parseUnsigned text maxBacklog).any fun n => decide (¬ (n = 0 ∨ maxBacklog < n))
  | .maxConnections text =>
    (parseUnsigned text maxConnectionsLimit).any fun n => decide (¬ maxConnectionsLimit < n)
  | .shutdownGracePeriod text =>
    (strtod text).any fun seconds => !(seconds != seconds || seconds < 0 || seconds > 300)
  | .unknown => false

def Argument.write (inet : Inet) (strtod : String → Option Float) (p : Parsing) :
    Argument → Parsing
  | .forward text =>
    { p with config := { p.config with
        routes := p.config.routes ++ (parsedForward inet text).toList } }
  | .check => { p with config := { p.config with checkOnly := true } }
  | .tcpWmemMaxKib text =>
    { p with
      config := { p.config with
        tcpWmemMaxKib := (parseUnsigned text tcpWmemMaxKibLimit).getD 0 }
      tcpWmemSeen := true }
  | .cc text => { p with config := { p.config with cc := text } }
  | .kernel text => { p with config := { p.config with kernel := text } }
  | .memoryMib text =>
    { p with config := { p.config with memoryMib := (parseUnsigned text ulongMax).getD 0 } }
  | .firewallBackend text =>
    { p with config := { p.config with
        firewall := (firewallKind text).getD .nftLib
        firewallName := text } }
  | .iptablesVariant text =>
    { p with config := { p.config with iptablesVariant := text }, explicitIptables := true }
  | .tunName text => { p with config := { p.config with tunName := text } }
  | .tunHostAddress text => { p with host := some text }
  | .tunGuestAddress text => { p with guest := some text }
  | .backlog text =>
    { p with config := { p.config with backlog := (parseUnsigned text maxBacklog).getD 0 } }
  | .maxConnections text =>
    { p with config := { p.config with
        maxConnections := (parseUnsigned text maxConnectionsLimit).getD 0 } }
  | .shutdownGracePeriod text =>
    { p with config := { p.config with
        graceMs := (((strtod text).getD 0) * 1000).toUInt32.toNat } }
  | .unknown => p

def Parsing.step (inet : Inet) (strtod : String → Option Float) (p : Parsing) (a : Argument) :
    Option Parsing := (p.apply inet strtod a).toOption

theorem Parsing.toOption_set (p : Parsing) (result : Except String Config) :
    (p.set result).toOption = result.toOption.map fun config => { p with config := config } := by
  cases result <;> rfl

theorem Parsing.step_eq (p : Parsing) (a : Argument) :
    p.step inet strtod a =
      if a.valid inet strtod p then some (a.write inet strtod p) else none := by
  cases a with
  | check => rfl
  | tunHostAddress text => rfl
  | tunGuestAddress text => rfl
  | unknown => rfl
  | forward text =>
    rcases hr : parsedForward inet text with _ | r
    · simp [Parsing.step, Parsing.apply, Parsing.toOption_set, toOption_parseForward,
        Argument.valid, hr]
    · by_cases hfits : fits p.config.routes r.listen = true <;>
        simp [Parsing.step, Parsing.apply, Parsing.toOption_set, toOption_parseForward,
          Argument.valid, Argument.write, hr, hfits]
  | cc text =>
    by_cases h : validName text 15 true = true <;>
      simp [Parsing.step, Parsing.apply, Parsing.set, setCc, Argument.valid, Argument.write, h,
        Except.toOption, Except.map]
  | kernel text =>
    by_cases h : text.utf8ByteSize < 4096 <;>
      simp [Parsing.step, Parsing.apply, Parsing.set, setKernel, Argument.valid, Argument.write,
        h, Except.toOption, Except.map]
  | tunName text =>
    by_cases h : validName text 15 false = true <;>
      simp [Parsing.step, Parsing.apply, Parsing.set, setTunName, Argument.valid, Argument.write,
        h, Except.toOption, Except.map]
  | iptablesVariant text =>
    cases h : (text != "iptables" && text != "iptables-nft" && text != "iptables-legacy") <;>
      simp only [Parsing.step, Parsing.apply, Parsing.set, setIptablesVariant, Argument.valid,
        Argument.write, h] <;> rfl
  | firewallBackend text =>
    rcases hkind : firewallKind text with _ | kind <;>
      simp [Parsing.step, Parsing.apply, Parsing.set, setFirewall, Argument.valid, Argument.write,
        hkind, Except.toOption, Except.map]
  | memoryMib text =>
    rcases hn : parseUnsigned text ulongMax with _ | n
    · simp [Parsing.step, Parsing.apply, Parsing.setNumber, Argument.valid, hn, Except.toOption]
    · by_cases h : n < minimumMemoryMib <;>
        simp [Parsing.step, Parsing.apply, Parsing.setNumber, Parsing.set, setMemory,
          Argument.valid, Argument.write, hn, h, Except.toOption, Except.map]
  | backlog text =>
    rcases hn : parseUnsigned text maxBacklog with _ | n
    · simp [Parsing.step, Parsing.apply, Parsing.setNumber, Argument.valid, hn, Except.toOption]
    · by_cases h : n = 0 ∨ maxBacklog < n <;>
        simp only [Parsing.step, Parsing.apply, Parsing.setNumber, Parsing.set, setBacklog,
          Argument.valid, Argument.write, hn, h, Option.any_some, not_true, not_false_eq_true,
          decide_true, decide_false, if_true, if_false, Option.getD_some] <;> rfl
  | maxConnections text =>
    rcases hn : parseUnsigned text maxConnectionsLimit with _ | n
    · simp [Parsing.step, Parsing.apply, Parsing.setNumber, Argument.valid, hn, Except.toOption]
    · by_cases h : maxConnectionsLimit < n <;>
        simp [Parsing.step, Parsing.apply, Parsing.setNumber, Parsing.set, setMaxConnections,
          Argument.valid, Argument.write, hn, h, Except.toOption, Except.map]
  | shutdownGracePeriod text =>
    rcases hd : strtod text with _ | seconds
    · simp [Parsing.step, Parsing.apply, Argument.valid, hd, Except.toOption]
    · cases h : (seconds != seconds || decide (seconds < 0) || decide (seconds > 300)) <;>
        simp only [Parsing.step, Parsing.apply, Parsing.set, setGrace, Argument.valid,
          Argument.write, hd, h, Option.any_some, Option.getD_some] <;> rfl
  | tcpWmemMaxKib text =>
    cases hseen : p.tcpWmemSeen with
    | true => simp [Parsing.step, Parsing.apply, Argument.valid, hseen, Except.toOption]
    | false =>
      rcases hn : parseUnsigned text tcpWmemMaxKibLimit with _ | n
      · simp [Parsing.step, Parsing.apply, Parsing.setNumber, Argument.valid, hn, hseen,
          Except.toOption, Except.map]
      · by_cases h : n < tcpWmemMaxKibMinimum ∨ tcpWmemMaxKibLimit < n <;>
          simp only [Parsing.step, Parsing.apply, Parsing.setNumber, Parsing.set, setTcpWmem,
            Argument.valid, Argument.write, hn, h, hseen, Option.any_some, not_true,
            not_false_eq_true, decide_true, decide_false, if_true, if_false, Option.getD_some,
            Bool.not_false, Bool.true_and, Bool.false_eq_true] <;> rfl

theorem Argument.valid_write (inet : Inet) (strtod : String → Option Float) {a b : Argument}
    (h : a.key ≠ b.key) (p : Parsing) :
    b.valid inet strtod (a.write inet strtod p) = b.valid inet strtod p := by
  cases a <;> cases b <;> first | rfl | exact absurd rfl h

theorem Argument.write_comm (inet : Inet) (strtod : String → Option Float) {a b : Argument}
    (h : a.key ≠ b.key) (p : Parsing) :
    b.write inet strtod (a.write inet strtod p) = a.write inet strtod (b.write inet strtod p) := by
  cases a <;> cases b <;> first | rfl | exact absurd rfl h

theorem Parsing.step_comm (p : Parsing) (a b : Argument) (h : a.key ≠ b.key) :
    (p.step inet strtod a).bind (fun q => q.step inet strtod b) =
      (p.step inet strtod b).bind fun q => q.step inet strtod a := by
  have hab := Argument.valid_write inet strtod h p
  have hba := Argument.valid_write inet strtod h.symm p
  have hcomm := Argument.write_comm inet strtod h p
  simp only [Parsing.step_eq]
  cases hva : a.valid inet strtod p <;> cases hvb : b.valid inet strtod p <;>
    simp [hab, hba, hva, hvb, hcomm]

/-! ## Texts that spell the values of a file -/

def Spelled {α : Type} (value : Option α) (spells : String → α → Prop)
    (option : String → Argument) (arguments : List Argument) : Prop :=
  match value with
  | none => arguments = []
  | some v => ∃ text, spells text v ∧ arguments = [option text]

def spellsNumber (text : String) (n : UInt64) : Prop :=
  text.toList ≠ [] ∧ text.toList.all isDigit ∧ decimal text.toList = n.toNat

def withKey (arguments : List Argument) (k : Key) : List Argument :=
  arguments.filter fun a => a.key = k

/-- The arguments spell the values of the file, each option once and in any order, the forwards in
the order of the file. -/
structure Spells (strtod : String → Option Float) (file : FileConfig) (check : Bool)
    (arguments : List Argument) : Prop where
  cc : withKey arguments .cc = [.cc file.cc]
  forwards : withKey arguments .forward =
    file.forwards.map fun f => .forward (f.1 ++ "=" ++ f.2)
  kernel : Spelled file.kernel Eq .kernel (withKey arguments .kernel)
  memoryMib : Spelled file.memoryMib spellsNumber .memoryMib (withKey arguments .memoryMib)
  tcpWmemMaxKib : Spelled file.tcpWmemMaxKib spellsNumber .tcpWmemMaxKib
    (withKey arguments .tcpWmemMaxKib)
  firewallBackend : Spelled file.firewallBackend Eq .firewallBackend
    (withKey arguments .firewallBackend)
  iptablesVariant : Spelled file.iptablesVariant Eq .iptablesVariant
    (withKey arguments .iptablesVariant)
  tunName : Spelled file.tunName Eq .tunName (withKey arguments .tunName)
  tunHostAddress : Spelled file.tunHostAddress Eq .tunHostAddress
    (withKey arguments .tunHostAddress)
  tunGuestAddress : Spelled file.tunGuestAddress Eq .tunGuestAddress
    (withKey arguments .tunGuestAddress)
  backlog : Spelled file.backlog spellsNumber .backlog (withKey arguments .backlog)
  maxConnections : Spelled file.maxConnections spellsNumber .maxConnections
    (withKey arguments .maxConnections)
  shutdownGracePeriod : Spelled file.shutdownGracePeriod (fun text d => strtod text = some d)
    .shutdownGracePeriod (withKey arguments .shutdownGracePeriod)
  check : .check ∈ arguments ↔ check = true
  known : .unknown ∉ arguments

theorem parseUnsigned_eq {text : String} {n : UInt64} (h : spellsNumber text n) (maximum : ℕ) :
    parseUnsigned text maximum = if n.toNat ≤ maximum then some n.toNat else none := by
  obtain ⟨hne, hdigits, hvalue⟩ := h
  have htake : text.toList.takeWhile isDigit = text.toList := by
    rw [List.takeWhile_eq_self_iff]
    exact List.all_eq_true.mp hdigits
  have hdrop : text.toList.dropWhile isDigit = [] := by
    rw [List.dropWhile_eq_nil_iff]
    exact List.all_eq_true.mp hdigits
  have hfits : n.toNat ≤ ulongMax := Nat.le_pred_of_lt n.toNat_lt
  unfold parseUnsigned
  split
  case h_1 hnil => exact absurd hnil hne
  case h_2 c cs hcons =>
    have hc : isDigit c = true := by
      rw [hcons] at hdigits
      exact (Bool.and_eq_true_iff.mp hdigits).1
    rw [if_pos hc, ← hcons]
    simp only [strtoul, htake, hdrop, hvalue, if_pos hfits]

theorem Parsing.setNumber_eq {text : String} {n : UInt64} (h : spellsNumber text n) (p : Parsing)
    {maximum : ℕ} {message : String} {set : Config → ℕ → Except String Config}
    (hset : ∀ m, maximum < m → m ≤ ulongMax → (set p.config m).toOption = none) :
    (p.setNumber text maximum message set).toOption =
      (set p.config n.toNat).toOption.map fun config => { p with config := config } := by
  unfold Parsing.setNumber
  rw [parseUnsigned_eq h]
  by_cases hmax : n.toNat ≤ maximum
  · rw [if_pos hmax]
    exact p.toOption_set _
  · rw [if_neg hmax, hset _ (Nat.lt_of_not_le hmax) (Nat.le_pred_of_lt n.toNat_lt)]
    rfl

/-! ## Forwards -/

theorem parseUnsigned_separator {text : List Char} (h : '=' ∈ text) (maximum : ℕ) :
    parseUnsigned (String.ofList text) maximum = none := by
  have hrest : ∀ cs : List Char, '=' ∈ cs → cs.dropWhile isDigit ≠ [] := by
    intro cs hcs hnil
    exact absurd (List.dropWhile_eq_nil_iff.mp hnil '=' hcs) (by decide)
  unfold parseUnsigned
  rw [String.toList_ofList]
  split
  case h_1 => rfl
  case h_2 c cs =>
    split
    · unfold strtoul
      split
      case h_1 value heq =>
        have hnil := (Prod.mk.inj heq).2
        exact absurd hnil (hrest _ h)
      case h_2 => rfl
    · rfl

theorem mem_splitEndpoint {text address port : List Char} {version : ℕ}
    (h : splitEndpoint text = some (version, address, port)) {c : Char} (hc : c ∈ text)
    (hother : c ≠ '[' ∧ c ≠ ']' ∧ c ≠ ':') : c ∈ address ∨ c ∈ port := by
  unfold splitEndpoint at h
  split at h
  case h_1 body =>
    split at h
    case h_1 first rest hdrop =>
      cases h
      have hbody : body = body.takeWhile (· != ']') ++ ']' :: ':' :: first :: rest := by
        rw [← hdrop, List.takeWhile_append_dropWhile]
      rcases List.mem_cons.mp hc with rfl | hc
      · exact absurd rfl hother.1
      · rw [hbody] at hc
        simp only [List.mem_append, List.mem_cons] at hc ⊢
        rcases hc with hc | rfl | rfl | hc
        · exact .inl hc
        · exact absurd rfl hother.2.1
        · exact absurd rfl hother.2.2
        · exact .inr hc
    case h_2 => cases h
  case h_2 =>
    split at h
    case h_1 rest hdrop =>
      split at h
      case isTrue => cases h
      case isFalse =>
        cases h
        have htext : text = text.takeWhile (· != ':') ++ ':' :: port := by
          rw [← hdrop, List.takeWhile_append_dropWhile]
        rw [htext] at hc
        rcases List.mem_append.mp hc with hc | hc
        · exact .inl hc
        · rcases List.mem_cons.mp hc with rfl | hc
          · exact absurd rfl hother.2.2
          · exact .inr hc
    case h_2 => cases h

def Inet.NoSeparator (inet : Inet) : Prop :=
  ∀ version text, '=' ∈ text.toList → inet.pton version text = none

theorem Inet.Literal.noSeparator (h : inet.Literal) : inet.NoSeparator := by
  intro version text hmem
  cases hpton : inet.pton version text with
  | none => rfl
  | some packed => exact absurd (h.chars hpton _ hmem) (by simp)

theorem parseEndpoint_separator (hinet : inet.NoSeparator) {text : String}
    (h : '=' ∈ text.toList) : parseEndpoint inet text = none := by
  unfold parseEndpoint
  split
  case h_1 => rfl
  case h_2 version address portText hsplit =>
    split
    · rfl
    · rcases mem_splitEndpoint hsplit h (by decide) with haddress | hport
      · rw [hinet version (String.ofList address) (by rwa [String.toList_ofList])]
        split
        · rfl
        · split <;> rfl
      · rw [parseUnsigned_separator hport]

theorem splitForward_append {front : List Char} (h : '=' ∉ front) (back : List Char) :
    splitForward (front ++ '=' :: back) =
      if front = [] ∨ back = [] ∨ '=' ∈ back then none else some (front, back) := by
  have hfront : ∀ c ∈ front, (c != '=') = true := by
    intro c hc
    refine bne_iff_ne.mpr ?_
    rintro rfl
    exact h hc
  have htake : (front ++ '=' :: back).takeWhile (· != '=') = front := by
    rw [List.takeWhile_append_of_pos hfront, List.takeWhile_cons_of_neg (by decide),
      List.append_nil]
  have hdrop : (front ++ '=' :: back).dropWhile (· != '=') = '=' :: back := by
    rw [List.dropWhile_append_of_pos hfront, List.dropWhile_cons_of_neg (by decide)]
  simp only [splitForward, htake, hdrop]

theorem newRoute_eq_none {listen backend : String}
    (h : parseEndpoint inet listen = none ∨ parseEndpoint inet backend = none) :
    newRoute inet listen backend = none := by
  unfold newRoute
  rcases h with h | h
  · rw [h]
  · rw [h]
    cases parseEndpoint inet listen <;> rfl

theorem parseEndpoint_empty {text : String} (h : text.toList = []) :
    parseEndpoint inet text = none := by
  simp only [parseEndpoint, h]
  rfl

theorem parsedForward_mapping (hinet : inet.NoSeparator) (listen backend : String) :
    parsedForward inet (listen ++ "=" ++ backend) = newRoute inet listen backend := by
  have htext : (listen ++ "=" ++ backend).toList = listen.toList ++ '=' :: backend.toList := by
    simp
  unfold parsedForward
  rw [htext]
  by_cases hlisten : '=' ∈ listen.toList
  · -- the first separator is inside the listener, so another one is left behind it
    obtain ⟨front, back, hparts, hfront⟩ := List.eq_append_cons_of_mem hlisten
    have hback : '=' ∈ back ++ '=' :: backend.toList := by simp
    rw [hparts, List.append_assoc, List.cons_append, splitForward_append hfront,
      if_pos (.inr (.inr hback)), Option.bind_none,
      newRoute_eq_none (.inl (parseEndpoint_separator hinet hlisten))]
  · rw [splitForward_append hlisten]
    split
    case isFalse => rw [Option.bind_some, String.ofList_toList, String.ofList_toList]
    case isTrue hbad =>
      rw [Option.bind_none]
      refine (newRoute_eq_none ?_).symm
      rcases hbad with hbad | hbad | hbad
      · exact .inl (parseEndpoint_empty hbad)
      · exact .inr (parseEndpoint_empty hbad)
      · exact .inr (parseEndpoint_separator hinet hbad)

theorem toOption_parseForward_mapping (hinet : inet.NoSeparator) (config : Config)
    (listen backend : String) :
    (parseForward inet config (listen ++ "=" ++ backend)).toOption =
      (addForward inet config listen backend).toOption := by
  rw [toOption_parseForward, toOption_addForward, parsedForward_mapping hinet]

/-! ## Option by option -/

theorem toOption_map {α β : Type} (x : Except String α) (f : α → β) :
    (x.map f).toOption = x.toOption.map f := by
  cases x <;> rfl

theorem toOption_bind {α β : Type} (x : Except String α) (f : α → Except String β) :
    (x >>= f).toOption = x.toOption.bind fun a => (f a).toOption := by
  cases x <;> rfl

theorem toOption_foldlM {α β : Type} (f : α → β → Except String α) (l : List β) (a : α) :
    (l.foldlM f a).toOption = run (fun a b => (f a b).toOption) a l := by
  induction l generalizing a with
  | nil => rfl
  | cons b l ih =>
    rw [List.foldlM_cons, toOption_bind, run]
    simp only [ih]

def Parsing.with (p : Parsing) (config : Config) : Parsing := { p with config := config }

theorem run_single (p : Parsing) (a : Argument) :
    run (Parsing.step inet strtod) p [a] = p.step inet strtod a := by
  simp only [run, Option.bind_fun_some]

variable {arguments : List Argument} {p : Parsing}

theorem run_spelled {α : Type} {value : Option α} {spells : String → α → Prop}
    {option : String → Argument} {set : Config → α → Except String Config}
    (finish : Bool → Config → Parsing) (h : Spelled value spells option arguments)
    (hnone : finish false p.config = p)
    (hset : ∀ text v, spells text v →
      p.step inet strtod (option text) = (set p.config v).toOption.map (finish true)) :
    run (Parsing.step inet strtod) p arguments =
      (given set p.config value).toOption.map (finish value.isSome) := by
  cases value with
  | none =>
    have hnil : arguments = [] := h
    rw [hnil]
    exact congrArg some hnone.symm
  | some v =>
    obtain ⟨text, hspells, harguments⟩ := h
    rw [harguments, run_single]
    exact hset text v hspells

theorem run_spelled_text {value : Option String} {option : String → Argument}
    {set : Config → String → Except String Config} (h : Spelled value Eq option arguments)
    (happly : ∀ text, p.apply inet strtod (option text) = p.set (set p.config text)) :
    run (Parsing.step inet strtod) p arguments =
      (given set p.config value).toOption.map p.with := by
  refine run_spelled (fun _ => p.with) h rfl ?_
  rintro text v rfl
  rw [Parsing.step, happly, Parsing.toOption_set]
  rfl

theorem run_spelled_number {value : Option UInt64} {option : String → Argument} {maximum : ℕ}
    {message : String} {set : Config → ℕ → Except String Config}
    (h : Spelled value spellsNumber option arguments)
    (happly : ∀ text, p.apply inet strtod (option text) = p.setNumber text maximum message set)
    (hset : ∀ m, maximum < m → m ≤ ulongMax → (set p.config m).toOption = none) :
    run (Parsing.step inet strtod) p arguments =
      (given set p.config (value.map UInt64.toNat)).toOption.map p.with := by
  have hgiven : given set p.config (value.map UInt64.toNat) =
      given (fun config n => set config (UInt64.toNat n)) p.config value := by
    cases value <;> rfl
  rw [hgiven]
  refine run_spelled (fun _ => p.with) h rfl ?_
  intro text n hspells
  rw [Parsing.step, happly, Parsing.setNumber_eq hspells p hset]
  rfl

theorem run_forwards (hinet : inet.NoSeparator) (forwards : List (String × String)) (p : Parsing) :
    run (Parsing.step inet strtod) p
        (forwards.map fun f => Argument.forward (f.1 ++ "=" ++ f.2)) =
      ((forwards.foldlM (fun config f => addForward inet config f.1 f.2) p.config).toOption).map
        p.with := by
  induction forwards generalizing p with
  | nil => rfl
  | cons f forwards ih =>
    have hstep : p.step inet strtod (.forward (f.1 ++ "=" ++ f.2)) =
        (addForward inet p.config f.1 f.2).toOption.map p.with := by
      simp only [Parsing.step, Parsing.apply, Parsing.toOption_set,
        toOption_parseForward_mapping hinet]
      rfl
    rw [List.map_cons, run, hstep, List.foldlM_cons, toOption_bind]
    cases addForward inet p.config f.1 f.2 with
    | error message => rfl
    | ok config => exact ih (p.with config)

theorem run_tcpWmem {value : Option UInt64}
    (h : Spelled value spellsNumber .tcpWmemMaxKib arguments) (config : Config) :
    run (Parsing.step inet strtod) { config := config } arguments =
      (given setTcpWmem config (value.map UInt64.toNat)).toOption.map
        fun config => { config := config, tcpWmemSeen := value.isSome } := by
  have hgiven : given setTcpWmem config (value.map UInt64.toNat) =
      given (fun config n => setTcpWmem config (UInt64.toNat n)) config value := by
    cases value <;> rfl
  rw [hgiven]
  refine run_spelled (fun seen config => { config := config, tcpWmemSeen := seen }) h rfl ?_
  intro text n hspells
  have hreject : ∀ m, tcpWmemMaxKibLimit < m → m ≤ ulongMax →
      (setTcpWmem config m).toOption = none := by
    intro m hm _
    rw [setTcpWmem, if_pos (.inr hm)]
    rfl
  have hnumber : (Parsing.setNumber { config := config } text tcpWmemMaxKibLimit tcpWmemError
      setTcpWmem).toOption = (setTcpWmem config n.toNat).toOption.map
        fun config => { config := config } :=
    Parsing.setNumber_eq hspells { config := config } hreject
  have happly : Parsing.apply inet strtod { config := config } (.tcpWmemMaxKib text) =
      (Parsing.setNumber { config := config } text tcpWmemMaxKibLimit tcpWmemError
        setTcpWmem).map fun p => { p with tcpWmemSeen := true } := rfl
  rw [Parsing.step, happly, toOption_map, hnumber, Option.map_map]
  rfl

theorem run_then {piece rest : List Argument} {x : Except String Config}
    {finish' : Config → Parsing} {f : Config → Except String Config} (finish : Config → Parsing)
    (hpiece : run (Parsing.step inet strtod) p piece = x.toOption.map finish)
    (hrest : ∀ config, run (Parsing.step inet strtod) (finish config) rest =
      (f config).toOption.map finish') :
    run (Parsing.step inet strtod) p (piece ++ rest) = (x >>= f).toOption.map finish' := by
  rw [run_append_bind, hpiece, toOption_bind]
  cases x with
  | error message => rfl
  | ok config => exact hrest config

/-- The keys of the values that `tcpcc_apply_file_config` sets, in its order. -/
def settingKeys : List Key :=
  [.cc, .forward, .kernel, .memoryMib, .tcpWmemMaxKib, .firewallBackend, .iptablesVariant, .tunName,
    .backlog, .maxConnections, .shutdownGracePeriod]

def parsed (file : FileConfig) (config : Config) : Parsing where
  config := config
  explicitIptables := file.iptablesVariant.isSome
  tcpWmemSeen := file.tcpWmemMaxKib.isSome

theorem run_settings (hinet : inet.NoSeparator) {file : FileConfig} {check : Bool}
    {arguments : List Argument} (h : Spells strtod file check arguments) (config : Config) :
    run (Parsing.step inet strtod) { config := config }
        (settingKeys.flatMap (withKey arguments)) =
      (applySettings inet config file).toOption.map (parsed file) := by
  simp only [settingKeys, List.flatMap_cons, List.flatMap_nil, List.append_nil]
  unfold applySettings
  refine run_then (fun config => { config := config }) ?_ fun config => ?_
  · rw [h.cc, run_single, Parsing.step, Parsing.apply, Parsing.toOption_set]
  refine run_then (fun config => { config := config }) ?_ fun config => ?_
  · rw [h.forwards]
    exact run_forwards hinet file.forwards _
  refine run_then (fun config => { config := config }) ?_ fun config => ?_
  · exact run_spelled_text h.kernel fun _ => rfl
  refine run_then (fun config => { config := config }) ?_ fun config => ?_
  · refine run_spelled_number h.memoryMib (fun _ => rfl) fun m hm hle => ?_
    exact absurd hle (Nat.not_le_of_lt hm)
  refine run_then (fun config => { config := config, tcpWmemSeen := file.tcpWmemMaxKib.isSome })
    ?_ fun config => ?_
  · exact run_tcpWmem h.tcpWmemMaxKib config
  refine run_then (fun config => { config := config, tcpWmemSeen := file.tcpWmemMaxKib.isSome })
    ?_ fun config => ?_
  · exact run_spelled_text h.firewallBackend fun _ => rfl
  refine run_then (parsed file) ?_ fun config => ?_
  · refine run_spelled (fun explicit config => {
      config := config
      explicitIptables := explicit
      tcpWmemSeen := file.tcpWmemMaxKib.isSome }) h.iptablesVariant rfl ?_
    rintro text v rfl
    rw [Parsing.step, Parsing.apply]
    cases setIptablesVariant config text <;> rfl
  refine run_then (parsed file) ?_ fun config => ?_
  · exact run_spelled_text h.tunName fun _ => rfl
  refine run_then (parsed file) ?_ fun config => ?_
  · refine run_spelled_number h.backlog (fun _ => rfl) fun m hm _ => ?_
    rw [setBacklog, if_pos (.inr hm)]
    rfl
  refine run_then (parsed file) ?_ fun config => ?_
  · refine run_spelled_number h.maxConnections (fun _ => rfl) fun m hm _ => ?_
    rw [setMaxConnections, if_pos hm]
    rfl
  refine run_spelled (fun _ => parsed file) h.shutdownGracePeriod rfl ?_
  intro text seconds hseconds
  rw [Parsing.step, Parsing.apply, hseconds]
  exact Parsing.toOption_set _ _

/-! ## The arguments behind the settings -/

theorem run_checks (p : Parsing) {arguments : List Argument}
    (h : ∀ a ∈ arguments, a = Argument.check) :
    run (Parsing.step inet strtod) p arguments = some (p.with { p.config with
      checkOnly := p.config.checkOnly || !arguments.isEmpty }) := by
  induction arguments generalizing p with
  | nil =>
    simp only [run, List.isEmpty_nil, Bool.not_true, Bool.or_false]
    rfl
  | cons a arguments ih =>
    obtain ⟨rfl, hrest⟩ := List.forall_mem_cons.mp h
    have hstep : p.step inet strtod .check =
        some (p.with { p.config with checkOnly := true }) := rfl
    rw [run, hstep, Option.bind_some, ih _ hrest]
    simp [Parsing.with]

theorem run_host {value : Option String} (h : Spelled value Eq .tunHostAddress arguments)
    (hnone : p.host = none) :
    run (Parsing.step inet strtod) p arguments = some { p with host := value } := by
  cases value with
  | none =>
    have hnil : arguments = [] := h
    rw [hnil, ← hnone]
    rfl
  | some v =>
    obtain ⟨text, rfl, rfl⟩ := h
    rfl

theorem run_guest {value : Option String} (h : Spelled value Eq .tunGuestAddress arguments)
    (hnone : p.guest = none) :
    run (Parsing.step inet strtod) p arguments = some { p with guest := value } := by
  cases value with
  | none =>
    have hnil : arguments = [] := h
    rw [hnil, ← hnone]
    rfl
  | some v =>
    obtain ⟨text, rfl, rfl⟩ := h
    rfl

theorem Argument.checkOnly_write (p : Parsing) {a : Argument} (h : a.key ≠ .check) :
    (a.write inet strtod p).config.checkOnly = p.config.checkOnly := by
  cases a <;> first | rfl | exact absurd rfl h

theorem checkOnly_run {q : Parsing} (h : ∀ a ∈ arguments, a.key ≠ .check)
    (hrun : run (Parsing.step inet strtod) p arguments = some q) :
    q.config.checkOnly = p.config.checkOnly := by
  induction arguments generalizing p with
  | nil =>
    cases hrun
    rfl
  | cons a arguments ih =>
    obtain ⟨ha, h⟩ := List.forall_mem_cons.mp h
    obtain ⟨u, hu, hrun⟩ := run_cons.mp hrun
    rw [Parsing.step_eq] at hu
    split at hu
    · cases hu
      rw [ih h hrun]
      exact Argument.checkOnly_write p ha
    · cases hu

theorem mem_keys (hknown : Argument.unknown ∉ arguments) :
    ∀ a ∈ arguments, a.key ∈ settingKeys ++ [.check, .tunHostAddress, .tunGuestAddress] := by
  have hkeys : ∀ k : Key, k ≠ .unknown →
      k ∈ settingKeys ++ [.check, .tunHostAddress, .tunGuestAddress] := by
    intro k
    cases k <;> decide
  intro a ha
  refine hkeys a.key ?_
  cases a with
  | unknown => exact absurd ha hknown
  | _ => exact Key.noConfusion

theorem mem_withKey {k : Key} {a : Argument} (h : a ∈ withKey arguments k) :
    a ∈ arguments ∧ a.key = k := by
  simpa [withKey] using h

theorem run_arguments (hinet : inet.NoSeparator) {file : FileConfig} {check : Bool}
    {arguments : List Argument} (h : Spells strtod file check arguments) {config : Config}
    (hconfig : config.checkOnly = false) :
    run (Parsing.step inet strtod) { config := config } arguments =
      (applySettings inet config file).toOption.map fun config => { parsed file config with
        config := { config with checkOnly := check }
        host := file.tunHostAddress
        guest := file.tunGuestAddress } := by
  rw [run_by_keys Parsing.step_comm (by decide) (mem_keys h.known), List.flatMap_append,
    run_append_bind]
  change (run (Parsing.step inet strtod) { config := config }
    (settingKeys.flatMap (withKey arguments))).bind _ = _
  have hsettings := run_settings hinet h config
  rw [hsettings]
  rcases happlied : applySettings inet config file with message | config'
  · rfl
  · rw [happlied] at hsettings
    have hunset : config'.checkOnly = false := by
      rw [← hconfig]
      refine checkOnly_run ?_ hsettings
      intro a ha
      obtain ⟨k, hk, hmem⟩ := List.mem_flatMap.mp ha
      rw [(mem_withKey hmem).2]
      rintro rfl
      exact absurd hk (by decide)
    have hchecks : ∀ a ∈ withKey arguments .check, a = Argument.check := by
      intro a ha
      have hkey := (mem_withKey ha).2
      cases a <;> first | rfl | cases hkey
    have hcheck : (!(withKey arguments .check).isEmpty) = check := by
      rw [Bool.eq_iff_iff, ← h.check, Bool.not_eq_true', List.isEmpty_eq_false_iff]
      constructor
      · intro hne
        obtain ⟨a, ha⟩ := List.exists_mem_of_ne_nil _ hne
        rw [← hchecks a ha]
        exact (mem_withKey ha).1
      · intro hmem
        exact List.ne_nil_of_mem (List.mem_filter.mpr ⟨hmem, rfl⟩)
    change run (Parsing.step inet strtod) (parsed file config') (withKey arguments .check ++
      (withKey arguments .tunHostAddress ++ (withKey arguments .tunGuestAddress ++ []))) = _
    rw [run_append_bind, run_checks _ hchecks, Option.bind_some, run_append_bind,
      run_host h.tunHostAddress rfl, Option.bind_some, List.append_nil,
      run_guest h.tunGuestAddress rfl, hcheck]
    simp only [Parsing.with, parsed, hunset, Bool.false_or]
    rfl

/-- A file and the arguments that spell its values are rejected together, or leave the same
configuration. -/
theorem file_direct_equivalent (inet : Inet) (hinet : inet.NoSeparator)
    (strtod : String → Option Float) {file : FileConfig} {check : Bool}
    {arguments : List Argument} (h : Spells strtod file check arguments)
    (kernel : Option String) :
    (configInit kernel >>= fun config => applyFileConfig inet config file check).toOption =
      (configInit kernel >>= fun config =>
        parseDirectArgs inet strtod config arguments false).toOption := by
  cases kernel with
  | none => rfl
  | some kernel =>
    change (applyFileConfig inet { kernel := kernel } file check).toOption =
      (parseDirectArgs inet strtod { kernel := kernel } arguments false).toOption
    have hloop := toOption_foldlM (Parsing.apply inet strtod) arguments
      { config := { kernel := kernel } }
    change _ = run (Parsing.step inet strtod) { config := { kernel := kernel } } arguments at hloop
    rw [run_arguments hinet h rfl] at hloop
    rw [applyFileConfig, parseDirectArgs, toOption_bind, toOption_bind, hloop]
    cases applySettings inet { kernel := kernel } file with
    | error message => rfl
    | ok config => rfl

def sampleFile : FileConfig where
  cc := "bbr"
  forwards := [("203.0.113.10:443", "127.0.0.1:8443"), ("203.0.113.10:80", "127.0.0.1:8080")]
  memoryMib := some 64
  tunName := some "tun0"

def sampleArguments : List Argument :=
  [.tunName "tun0", .forward "203.0.113.10:443=127.0.0.1:8443", .memoryMib "064",
    .forward "203.0.113.10:80=127.0.0.1:8080", .cc "bbr"]

theorem sample_spells : Spells (fun _ => none) sampleFile false sampleArguments where
  cc := by decide
  forwards := by decide
  kernel := by change withKey _ _ = []; decide
  memoryMib := ⟨"064", by unfold spellsNumber; decide, by decide⟩
  tcpWmemMaxKib := by change withKey _ _ = []; decide
  firewallBackend := by change withKey _ _ = []; decide
  iptablesVariant := by change withKey _ _ = []; decide
  tunName := ⟨"tun0", rfl, by decide⟩
  tunHostAddress := by change withKey _ _ = []; decide
  tunGuestAddress := by change withKey _ _ = []; decide
  backlog := by change withKey _ _ = []; decide
  maxConnections := by change withKey _ _ = []; decide
  shutdownGracePeriod := by change withKey _ _ = []; decide
  check := by decide
  known := by decide

theorem file_direct_equivalent_sample :
    (configInit (some "vmlinux") >>= fun config =>
      parseDirectArgs dottedInet (fun _ => none) config sampleArguments false).toOption.isSome =
        true := by
  rw [← file_direct_equivalent dottedInet dottedInet_literal.noSeparator _ sample_spells]
  decide +kernel

end Tcpcc.Native

import Mathlib.Data.List.DropRight
import Tcpcc.Native.Accepted
import Tcpcc.Native.Endpoints

/-!
# The addresses of the reference supervisor

`Endpoint.parse` and the addresses of `ServiceConfig` in `tcpcc_cli.py`, beside the native checks
for a single forward. `ipaddress` recognises the literals that `inet_pton` does. Two things depend
on the version of the interpreter: how many digits `int` reads, and whether the properties of an
IPv4-mapped address are those of the IPv4 address.
-/

namespace Tcpcc.Reference
open Native (Inet)

structure Interpreter where
  intMaxStrDigits : Option ℕ
  mappedProperties : Bool

/-- An `IPv4Address` or an `IPv6Address`. -/
structure IpAddress where
  version : ℕ
  packed : List UInt8
  deriving DecidableEq, Repr

/-- `ipaddress.ip_address`. -/
def ipAddress (inet : Inet) (text : String) : Option IpAddress :=
  match inet.pton 4 text with
  | some packed => some ⟨4, packed⟩
  | none => (inet.pton 6 text).map fun packed => ⟨6, packed⟩

namespace IpAddress

/-- The IPv4 address in `::ffff:0:0/96`. -/
def ipv4Mapped (a : IpAddress) : Option (List UInt8) :=
  if a.version = 6 ∧ a.packed.take 12 = [0, 0, 0, 0, 0, 0, 0, 0, 0, 0, 0xff, 0xff] then
    some (a.packed.drop 12)
  else none

def reported (python : Interpreter) (a : IpAddress) : IpAddress :=
  match a.ipv4Mapped with
  | some packed => if python.mappedProperties then ⟨4, packed⟩ else a
  | none => a

def isUnspecified (python : Interpreter) (a : IpAddress) : Bool :=
  (a.reported python).packed.all (· == 0)

def isMulticast (python : Interpreter) (a : IpAddress) : Bool :=
  match (a.reported python).packed with
  | [] => false
  | b :: _ => if (a.reported python).version = 4 then 224 ≤ b && b < 240 else b == 0xff

def isLimitedBroadcast (a : IpAddress) : Bool := a.version = 4 && a.packed.all (· == 0xff)

def dotted (a : IpAddress) : String :=
  String.ofList (['.'].intercalate (a.packed.map fun b => Nat.toDigits 10 b.toNat))

end IpAddress

structure Endpoint where
  address : IpAddress
  port : ℕ
  deriving DecidableEq, Repr

def splitEndpoint : List Char → Option (ℕ × List Char × List Char)
  | '[' :: body =>
    match body.dropWhile (· != ']') with
    | ']' :: ':' :: port => some (6, body.takeWhile (· != ']'), port)
    | _ => none
  | value =>
    if value.count ':' ≠ 1 then none
    else some (4, value.takeWhile (· != ':'), (value.dropWhile (· != ':')).drop 1)

def readInt (python : Interpreter) (digits : List Char) : Except String ℕ :=
  match python.intMaxStrDigits with
  | none => .ok (Nat.ofDigitChars 10 digits 0)
  | some limit =>
    if limit < digits.length then
      .error ("Exceeds the limit (" ++ toString limit ++ " digits) for integer string conversion")
    else .ok (Nat.ofDigitChars 10 digits 0)

def Endpoint.parse (python : Interpreter) (inet : Inet) (value field : String) :
    Except String Endpoint :=
  if '\x00' ∈ value.toList then .error (field ++ " must use IPv4:port or [IPv6]:port syntax")
  else
    match splitEndpoint value.toList with
    | none => .error (field ++ " must use IPv4:port or [IPv6]:port syntax")
    | some (expectedVersion, addressText, portText) =>
      match ipAddress inet (String.ofList addressText) with
      | none => .error (field ++ " address must be a literal IP address")
      | some address =>
        if address.version ≠ expectedVersion then .error (field ++ " has mismatched address syntax")
        else if address.isUnspecified python || address.isMulticast python ||
            address.isLimitedBroadcast then
          .error (field ++ " address must be a usable unicast IP address")
        else if portText = [] ∨ ¬ portText.all Native.isDigit then
          .error (field ++ " port must be from 1 through 65535")
        else
          match readInt python portText with
          | .error message => .error message
          | .ok port =>
            if 1 ≤ port ∧ port ≤ 65535 then .ok ⟨address, port⟩
            else .error (field ++ " port must be from 1 through 65535")

structure Addresses where
  listen : Endpoint
  backend : Endpoint
  tunHost : IpAddress
  tunGuest : IpAddress
  deriving DecidableEq, Repr

def orDefault (text : Option String) (default : String) : String :=
  match text with
  | none => default
  | some text => if text = "" then default else text

def defaultTunHost (version : ℕ) : String :=
  if version = 4 then "198.18.0.1" else "fd00:198:18::1"

def defaultTunGuest (version : ℕ) : String :=
  if version = 4 then "198.18.0.2" else "fd00:198:18::2"

/-- The addresses that `ServiceConfig.__post_init__` checks. -/
def serviceAddresses (python : Interpreter) (inet : Inet) (listen backend : Endpoint)
    (tunHost tunGuest : Option String) : Except String Addresses :=
  if backend.address.version ≠ 4 ∨ backend.address.dotted ≠ "127.0.0.1" then
    .error ("backend must use 127.0.0.1; the current hosted bridge " ++
      "intentionally reaches only a local application")
  else
    match ipAddress inet (orDefault tunHost (defaultTunHost listen.address.version)),
      ipAddress inet (orDefault tunGuest (defaultTunGuest listen.address.version)) with
    | some host, some guest =>
      if host.version ≠ listen.address.version ∨ guest.version ≠ listen.address.version then
        .error "TUN and public-listener address families must match"
      else if host = guest ∨ host.isUnspecified python ∨ guest.isUnspecified python ∨
          host.isMulticast python ∨ guest.isMulticast python then
        .error "TUN addresses must be distinct usable unicast addresses"
      else .ok ⟨listen, backend, host, guest⟩
    | _, _ => .error "TUN addresses must be literal IP addresses"

def referenceAddresses (python : Interpreter) (inet : Inet) (listen backend : String)
    (tunHost tunGuest : Option String) : Except String Addresses := do
  let listen ← Endpoint.parse python inet listen "listen"
  let backend ← Endpoint.parse python inet backend "backend"
  serviceAddresses python inet listen backend tunHost tunGuest

def addressesOf (inet : Inet) (config : Native.Config) : Option Addresses := do
  let route ← config.routes.head?
  let host ← inet.pton route.listen.version config.tunHost
  let guest ← inet.pton route.listen.version config.tunGuest
  pure ⟨⟨⟨route.listen.version, route.listen.packed⟩, route.listen.port⟩,
    ⟨⟨route.backend.version, route.backend.packed⟩, route.backend.port⟩,
    ⟨route.listen.version, host⟩, ⟨route.listen.version, guest⟩⟩

def nativeConfig (inet : Inet) (config : Native.Config) (listen backend : String)
    (tunHost tunGuest : Option String) (explicitIptables : Bool) : Except String Native.Config := do
  let config ← Native.addForward inet config listen backend
  Native.finalize inet config tunHost tunGuest explicitIptables

/-! ## Endpoints -/

structure Shared (inet : Inet) : Prop where
  disjoint : ∀ {text packed}, inet.pton 4 text = some packed → inet.pton 6 text = none
  length : ∀ {version text packed}, version = 4 ∨ version = 6 →
    inet.pton version text = some packed → text.length ≤ 45
  loopback : inet.ntop 4 [127, 0, 0, 1] = "127.0.0.1"

structure Unicast (python : Interpreter) (a : IpAddress) : Prop where
  specified : a.isUnspecified python = false
  unicast : a.isMulticast python = false

/-- `int` reads the digits behind the last colon. -/
def ReadablePort (python : Interpreter) (text : String) : Prop :=
  ∀ limit, python.intMaxStrDigits = some limit →
    (text.toList.rtakeWhile (· != ':')).length ≤ limit

variable {python : Interpreter} {inet : Inet}

theorem ipAddress_eq_some (hshared : Shared inet) {text : String} {a : IpAddress} :
    ipAddress inet text = some a ↔
      (a.version = 4 ∨ a.version = 6) ∧ inet.pton a.version text = some a.packed := by
  obtain ⟨version, packed⟩ := a
  unfold ipAddress
  cases h4 : inet.pton 4 text with
  | some bytes =>
    have h6 := hshared.disjoint h4
    constructor
    · intro h
      cases h
      exact ⟨.inl rfl, h4⟩
    · rintro ⟨rfl | rfl, h⟩
      · rw [h4] at h
        cases h
        rfl
      · rw [h6] at h
        cases h
  | none =>
    constructor
    · intro h
      obtain ⟨bytes, hbytes, ⟨⟩⟩ := Option.map_eq_some_iff.mp h
      exact ⟨.inr rfl, hbytes⟩
    · rintro ⟨rfl | rfl, h⟩
      · rw [h4] at h
        cases h
      · exact Option.map_eq_some_iff.mpr ⟨packed, h, rfl⟩

theorem dropWhile_ne_cases (d : Char) (l : List Char) :
    l.dropWhile (· != d) = [] ∧ d ∉ l ∨ ∃ rest, l.dropWhile (· != d) = d :: rest := by
  induction l with
  | nil => exact .inl ⟨rfl, by simp⟩
  | cons c l ih =>
    by_cases hc : c = d
    · subst hc
      exact .inr ⟨l, by simp⟩
    · rw [List.dropWhile_cons_of_pos (by simpa using hc)]
      exact ih.imp (fun h => ⟨h.1, List.not_mem_cons_of_ne_of_not_mem (Ne.symm hc) h.2⟩) id

theorem splitEndpoint_bracket_iff {body address port : List Char} {version : ℕ}
    (hport : port ≠ []) :
    splitEndpoint ('[' :: body) = some (version, address, port) ↔
      Native.splitEndpoint ('[' :: body) = some (version, address, port) := by
  simp only [splitEndpoint, Native.splitEndpoint]
  split
  case h_1 rest hdrop =>
    cases rest with
    | nil =>
      simp only [hdrop, reduceCtorEq, iff_false, Option.some.injEq, Prod.mk.injEq, not_and]
      exact fun _ _ h => hport h.symm
    | cons c rest => simp only [hdrop]
  case h_2 hdrop =>
    split
    case h_1 c rest hdrop' => exact (hdrop _ hdrop').elim
    case h_2 => exact Iff.rfl

theorem splitEndpoint_plain_iff {value address port : List Char} {version : ℕ}
    (hvalue : ∀ body, value ≠ '[' :: body) :
    splitEndpoint value = some (version, address, port) ↔
      Native.splitEndpoint value = some (version, address, port) := by
  have hreference : splitEndpoint value = if value.count ':' ≠ 1 then none
      else some (4, value.takeWhile (· != ':'), (value.dropWhile (· != ':')).drop 1) := by
    unfold splitEndpoint
    split
    case h_1 body => exact (hvalue body rfl).elim
    case h_2 => rfl
  have hparts := List.takeWhile_append_dropWhile (p := (· != ':')) (l := value)
  have hcount : value.count ':' = (value.dropWhile (· != ':')).count ':' := by
    conv_lhs => rw [← hparts]
    rw [List.count_append, List.count_eq_zero.mpr (Native.not_mem_takeWhile_ne ':' value),
      Nat.zero_add]
  rw [hreference, hcount]
  rcases dropWhile_ne_cases ':' value with ⟨h, -⟩ | ⟨rest, h⟩
  · have hnative : Native.splitEndpoint value = none := by
      unfold Native.splitEndpoint
      split
      case h_1 body => exact (hvalue body rfl).elim
      case h_2 => rw [h]
    simp [hnative, h]
  · have hnative : Native.splitEndpoint value =
        if ':' ∈ rest then none else some (4, value.takeWhile (· != ':'), rest) := by
      unfold Native.splitEndpoint
      split
      case h_1 body => exact (hvalue body rfl).elim
      case h_2 =>
        rw [h]
        rfl
    by_cases hrest : ':' ∈ rest
    · have hpos := List.count_pos_iff.mpr hrest
      simp [hnative, h, hrest, Nat.ne_of_gt hpos]
    · simp [hnative, h, hrest, List.count_eq_zero.mpr hrest]

theorem splitEndpoint_iff_native {value address port : List Char} {version : ℕ}
    (hport : port ≠ []) :
    splitEndpoint value = some (version, address, port) ↔
      Native.splitEndpoint value = some (version, address, port) := by
  by_cases hvalue : ∃ body, value = '[' :: body
  · obtain ⟨body, rfl⟩ := hvalue
    exact splitEndpoint_bracket_iff hport
  · exact splitEndpoint_plain_iff fun body h => hvalue ⟨body, h⟩

theorem readInt_eq_ok {digits : List Char} {n : ℕ} :
    readInt python digits = .ok n ↔ Nat.ofDigitChars 10 digits 0 = n ∧
      ∀ limit, python.intMaxStrDigits = some limit → digits.length ≤ limit := by
  unfold readInt
  cases python.intMaxStrDigits with
  | none => simp
  | some limit =>
    by_cases hlimit : limit < digits.length
    · simp [hlimit, Nat.not_le.mpr hlimit]
    · simp [hlimit, Nat.not_lt.mp hlimit]

theorem rtakeWhile_ne_append {d : Char} {before after : List Char} (h : d ∉ after) :
    (before ++ d :: after).rtakeWhile (· != d) = after := by
  have hall : ∀ c ∈ after.reverse, (c != d) = true := by
    intro c hc
    exact bne_iff_ne.mpr fun heq => h (heq ▸ List.mem_reverse.mp hc)
  rw [List.rtakeWhile, List.reverse_append, List.reverse_cons, List.append_assoc,
    List.takeWhile_append_of_pos hall]
  simp

theorem rtakeWhile_of_endpointText {value address port : List Char} {version n : ℕ}
    (h : Native.EndpointText value version address port) (hport : Native.PortText port n) :
    value.rtakeWhile (· != ':') = port := by
  have hcolon : ':' ∉ port := fun hmem => absurd (hport.digits ':' hmem) (by decide)
  cases h with
  | four => exact rtakeWhile_ne_append hcolon
  | six =>
    rw [← List.cons_append, show ('[' :: address) ++ ']' :: ':' :: port =
      (('[' :: address) ++ [']']) ++ ':' :: port by simp]
    exact rtakeWhile_ne_append hcolon

theorem Unicast.nonzero {a : IpAddress} (h : Unicast python a) : a.packed.all (· == 0) = false := by
  have hspecified := h.specified
  rw [IpAddress.isUnspecified, IpAddress.reported] at hspecified
  split at hspecified
  case h_2 => exact hspecified
  case h_1 hmapped =>
    obtain ⟨⟨-, hhead⟩, -⟩ := Option.ite_none_right_eq_some.mp hmapped
    rw [Bool.eq_false_iff]
    intro hall
    have hmem : (0xff : UInt8) ∈ a.packed.take 12 := by
      rw [hhead]
      decide
    exact absurd (List.all_eq_true.mp hall _ (List.mem_of_mem_take hmem)) (by decide)

/-- The text spells the endpoint: in its grammar, with a literal and a port that are read as it. -/
def Written (inet : Inet) (text : String) (e : Endpoint) : Prop :=
  ∃ address port, Native.EndpointText text.toList e.address.version address port ∧
    address.length ≤ 45 ∧
    inet.pton e.address.version (String.ofList address) = some e.address.packed ∧
    e.address.packed.all (· == 0) = false ∧ Native.PortText port e.port

theorem written_iff (hlit : inet.Literal) {text : String} {e : Endpoint} :
    Written inet text e ↔ ∃ shown, Native.parseEndpoint inet text =
      some ⟨e.address.version, shown, e.address.packed, e.port⟩ := by
  simp only [Native.parseEndpoint_eq_some hlit]
  constructor
  · rintro ⟨address, port, hspells, hlength, hpton, hnonzero, hport⟩
    exact ⟨_, address, port, _, hspells, hlength, hpton, hnonzero, hport, rfl⟩
  · rintro ⟨shown, address, port, packed, hspells, hlength, hpton, hnonzero, hport, hsame⟩
    obtain rfl : e.address.packed = packed := congrArg Native.Endpoint.packed hsame
    exact ⟨address, port, hspells, hlength, hpton, hnonzero, hport⟩

/-- The reference reads the endpoints that are written so, but for addresses it does not take for
unicast ones and for ports that `int` does not read. -/
theorem parse_eq_ok (hlit : inet.Literal) (hshared : Shared inet) {value field : String}
    {e : Endpoint} (hnul : '\x00' ∉ value.toList) :
    Endpoint.parse python inet value field = .ok e ↔
      Written inet value e ∧ Unicast python e.address ∧
      e.address.isLimitedBroadcast = false ∧ ReadablePort python value := by
  unfold Endpoint.parse
  rw [if_neg hnul]
  constructor
  · intro h
    split at h
    case h_1 => cases h
    case h_2 version addressText portText hsplit =>
      split at h
      case h_1 => cases h
      case h_2 address haddress =>
        obtain ⟨hfamily, hpton⟩ := (ipAddress_eq_some hshared).mp haddress
        split at h
        case isTrue => cases h
        case isFalse hversion =>
          rw [not_not] at hversion
          subst hversion
          split at h
          case isTrue => cases h
          case isFalse husable =>
            simp only [Bool.or_eq_true, not_or, Bool.not_eq_true] at husable
            split at h
            case isTrue => cases h
            case isFalse hdigits =>
              rw [not_or, not_not, List.all_eq_true] at hdigits
              split at h
              case h_1 => cases h
              case h_2 port hport =>
                obtain ⟨hvalue, hlimit⟩ := readInt_eq_ok.mp hport
                split at h
                case isFalse => cases h
                case isTrue hrange =>
                  cases h
                  have hunicast : Unicast python address := ⟨husable.1.1, husable.1.2⟩
                  have hport : Native.PortText portText port :=
                    ⟨hdigits.1, hdigits.2, hvalue, hrange.1, hrange.2⟩
                  have hspells := Native.endpointText_of_splitEndpoint
                    ((splitEndpoint_iff_native hdigits.1).mp hsplit)
                  have hlength := hshared.length hfamily hpton
                  rw [String.length_ofList] at hlength
                  refine ⟨⟨addressText, portText, hspells, hlength, hpton, hunicast.nonzero,
                    hport⟩, hunicast, husable.2, ?_⟩
                  rw [ReadablePort, rtakeWhile_of_endpointText hspells hport]
                  exact hlimit
  · rintro ⟨⟨addressText, portText, hspells, -, hpton, -, hport⟩, hunicast, hbroadcast, hlimit⟩
    have hsplit := (splitEndpoint_iff_native hport.ne).mpr
      (hspells.splitEndpoint_eq hlit hpton hport)
    have haddress : ipAddress inet (String.ofList addressText) = some e.address :=
      (ipAddress_eq_some hshared).mpr ⟨hspells.version, hpton⟩
    rw [ReadablePort, rtakeWhile_of_endpointText hspells hport] at hlimit
    have hread : readInt python portText = .ok e.port := readInt_eq_ok.mpr ⟨hport.value, hlimit⟩
    have hdigits : ¬ (portText = [] ∨ ¬ portText.all Native.isDigit = true) := by
      rw [not_or, not_not]
      exact ⟨hport.ne, List.all_eq_true.mpr hport.digits⟩
    simp only [hsplit, haddress, ne_eq, not_true_eq_false, if_false, hunicast.specified,
      hunicast.unicast, hbroadcast, Bool.or_self, Bool.false_eq_true, if_neg hdigits, hread,
      if_pos (And.intro hport.pos hport.le)]

/-! ## Services -/

/-- The addresses are what the texts say, with the defaults for texts that are not given. -/
structure Taken (inet : Inet) (listenText backendText : String) (tunHost tunGuest : Option String)
    (a : Addresses) : Prop where
  listen : Written inet listenText a.listen
  backend : Written inet backendText a.backend
  loopback : a.backend.address = ⟨4, [127, 0, 0, 1]⟩
  hostVersion : a.tunHost.version = a.listen.address.version
  guestVersion : a.tunGuest.version = a.listen.address.version
  host : inet.pton a.listen.address.version
    (tunHost.getD (defaultTunHost a.listen.address.version)) = some a.tunHost.packed
  guest : inet.pton a.listen.address.version
    (tunGuest.getD (defaultTunGuest a.listen.address.version)) = some a.tunGuest.packed
  distinct : a.tunHost ≠ a.tunGuest

structure Usable (python : Interpreter) (listenText backendText : String) (a : Addresses) :
    Prop where
  listen : Unicast python a.listen.address
  broadcast : a.listen.address.isLimitedBroadcast = false
  listenPort : ReadablePort python listenText
  backendPort : ReadablePort python backendText
  host : Unicast python a.tunHost
  guest : Unicast python a.tunGuest

section Services
variable {listenText backendText : String} {tunHost tunGuest : Option String} {a : Addresses}

theorem orDefault_eq {text : Option String} (h : text ≠ some "") (default : String) :
    orDefault text default = text.getD default := by
  cases text with
  | none => rfl
  | some text =>
    have hne : text ≠ "" := fun heq => h (heq ▸ rfl)
    simp [orDefault, hne]

theorem loopback_unicast : Unicast python ⟨4, [127, 0, 0, 1]⟩ := ⟨rfl, rfl⟩

theorem ntop_inj (hlaw : inet.Lawful) {version : ℕ} {p q : List UInt8}
    (hversion : version = 4 ∨ version = 6) (hp : p.length = Native.addressLength version)
    (hq : q.length = Native.addressLength version) (h : inet.ntop version p = inet.ntop version q) :
    p = q := by
  have hread := hlaw.ntop_pton hversion hp
  rw [h, hlaw.ntop_pton hversion hq] at hread
  exact (Option.some.inj hread).symm

theorem dotted_eq_loopback {packed : List UInt8} (hlength : packed.length = 4) :
    (⟨4, packed⟩ : IpAddress).dotted = "127.0.0.1" ↔ packed = [127, 0, 0, 1] := by
  have hloopback : (⟨4, [127, 0, 0, 1]⟩ : IpAddress).dotted = "127.0.0.1" := by decide +kernel
  constructor
  · intro h
    have htexts : Native.dottedInet.ntop 4 packed = Native.dottedInet.ntop 4 [127, 0, 0, 1] :=
      h.trans hloopback.symm
    exact ntop_inj Native.dottedInet_lawful (.inl rfl) hlength rfl htexts
  · rintro rfl
    exact hloopback

theorem unicast_iff {host guest : IpAddress} :
    ¬ (host = guest ∨ host.isUnspecified python = true ∨ guest.isUnspecified python = true ∨
      host.isMulticast python = true ∨ guest.isMulticast python = true) ↔
      host ≠ guest ∧ Unicast python host ∧ Unicast python guest := by
  simp only [not_or, Bool.not_eq_true]
  constructor
  · rintro ⟨hne, h₁, h₂, h₃, h₄⟩
    exact ⟨hne, ⟨h₁, h₃⟩, ⟨h₂, h₄⟩⟩
  · rintro ⟨hne, hhost, hguest⟩
    exact ⟨hne, hhost.specified, hguest.specified, hhost.unicast, hguest.unicast⟩

theorem loopback_iff {b : IpAddress} (h : b.packed.length = Native.addressLength b.version) :
    ¬ (b.version ≠ 4 ∨ b.dotted ≠ "127.0.0.1") ↔ b = ⟨4, [127, 0, 0, 1]⟩ := by
  obtain ⟨version, packed⟩ := b
  rw [not_or, not_not, not_not]
  constructor
  · rintro ⟨rfl, hdotted⟩
    exact congrArg (IpAddress.mk 4) ((dotted_eq_loopback h).mp hdotted)
  · rintro ⟨⟩
    exact ⟨rfl, (dotted_eq_loopback rfl).mpr rfl⟩

theorem serviceAddresses_eq_ok {listen backend : Endpoint} (hshared : Shared inet)
    (hbackend : backend.address.packed.length = Native.addressLength backend.address.version)
    (hlisten : listen.address.version = 4 ∨ listen.address.version = 6)
    (hhost : tunHost ≠ some "") (hguest : tunGuest ≠ some "") :
    serviceAddresses python inet listen backend tunHost tunGuest = .ok a ↔
      a.listen = listen ∧ a.backend = backend ∧ backend.address = ⟨4, [127, 0, 0, 1]⟩ ∧
      a.tunHost.version = listen.address.version ∧ a.tunGuest.version = listen.address.version ∧
      inet.pton listen.address.version (tunHost.getD (defaultTunHost listen.address.version)) =
        some a.tunHost.packed ∧
      inet.pton listen.address.version (tunGuest.getD (defaultTunGuest listen.address.version)) =
        some a.tunGuest.packed ∧
      a.tunHost ≠ a.tunGuest ∧ Unicast python a.tunHost ∧ Unicast python a.tunGuest := by
  unfold serviceAddresses
  rw [orDefault_eq hhost, orDefault_eq hguest]
  constructor
  · intro h
    split at h
    case isTrue => cases h
    case isFalse hloopback =>
      split at h
      case h_2 => cases h
      case h_1 host guest hhost hguest =>
        obtain ⟨-, hhost⟩ := (ipAddress_eq_some hshared).mp hhost
        obtain ⟨-, hguest⟩ := (ipAddress_eq_some hshared).mp hguest
        split at h
        case isTrue => cases h
        case isFalse hversions =>
          rw [not_or, not_not, not_not] at hversions
          split at h
          case isTrue => cases h
          case isFalse husable =>
            cases h
            rw [hversions.1] at hhost
            rw [hversions.2] at hguest
            exact ⟨rfl, rfl, (loopback_iff hbackend).mp hloopback, hversions.1, hversions.2, hhost,
              hguest, unicast_iff.mp husable⟩
  · rintro ⟨rfl, rfl, hloopback, hhostVersion, hguestVersion, hhost, hguest, husable⟩
    have hhost' : ipAddress inet (tunHost.getD (defaultTunHost a.listen.address.version)) =
        some a.tunHost :=
      (ipAddress_eq_some hshared).mpr
        ⟨by rw [hhostVersion]; exact hlisten, by rw [hhostVersion]; exact hhost⟩
    have hguest' : ipAddress inet (tunGuest.getD (defaultTunGuest a.listen.address.version)) =
        some a.tunGuest :=
      (ipAddress_eq_some hshared).mpr
        ⟨by rw [hguestVersion]; exact hlisten, by rw [hguestVersion]; exact hguest⟩
    have hversions : ¬ (a.tunHost.version ≠ a.listen.address.version ∨
        a.tunGuest.version ≠ a.listen.address.version) := by
      rw [not_or, not_not, not_not]
      exact ⟨hhostVersion, hguestVersion⟩
    rw [if_neg ((loopback_iff hbackend).mpr hloopback)]
    simp only [hhost', hguest', if_neg hversions, if_neg (unicast_iff.mpr husable)]

theorem referenceAddresses_eq_ok (hlaw : inet.Lawful) (hlit : inet.Literal) (hshared : Shared inet)
    (hlisten : '\x00' ∉ listenText.toList) (hbackend : '\x00' ∉ backendText.toList)
    (hhost : tunHost ≠ some "") (hguest : tunGuest ≠ some "") :
    referenceAddresses python inet listenText backendText tunHost tunGuest = .ok a ↔
      Taken inet listenText backendText tunHost tunGuest a ∧
        Usable python listenText backendText a := by
  have hparsed {text : String} {e : Endpoint} (h : Written inet text e) :
      (e.address.version = 4 ∨ e.address.version = 6) ∧
        e.address.packed.length = Native.addressLength e.address.version := by
    obtain ⟨_, _, hspells, -, hpton, -⟩ := h
    exact ⟨hspells.version, hlaw.size hpton⟩
  rw [referenceAddresses, Native.bind_eq_ok]
  simp only [Native.bind_eq_ok, parse_eq_ok hlit hshared hlisten, parse_eq_ok hlit hshared hbackend]
  constructor
  · rintro ⟨listen, ⟨htext, hunicast, hbroadcast, hport⟩, backend, ⟨htext', -, -, hport'⟩, h⟩
    obtain ⟨rfl, rfl, hloopback, hhostVersion, hguestVersion, hhost, hguest, hdistinct, hhostUsable,
      hguestUsable⟩ := (serviceAddresses_eq_ok hshared (hparsed htext').2 (hparsed htext).1 hhost
        hguest).mp h
    exact ⟨⟨htext, htext', hloopback, hhostVersion, hguestVersion, hhost, hguest, hdistinct⟩,
      hunicast, hbroadcast, hport, hport', hhostUsable, hguestUsable⟩
  · rintro ⟨htaken, husable⟩
    refine ⟨a.listen, ⟨htaken.listen, husable.listen, husable.broadcast, husable.listenPort⟩,
      a.backend, ⟨htaken.backend, ?_, ?_, husable.backendPort⟩, ?_⟩
    · rw [htaken.loopback]
      exact loopback_unicast
    · rw [htaken.loopback]
      rfl
    · exact (serviceAddresses_eq_ok hshared (hparsed htaken.backend).2 (hparsed htaken.listen).1
        hhost hguest).mpr ⟨rfl, rfl, htaken.loopback, htaken.hostVersion, htaken.guestVersion,
          htaken.host, htaken.guest, htaken.distinct, husable.host, husable.guest⟩

theorem addForward_eq_ok {config c : Native.Config} (hroutes : config.routes = []) :
    Native.addForward inet config listenText backendText = .ok c ↔ ∃ listen backend,
      Native.parseEndpoint inet listenText = some listen ∧
      Native.parseEndpoint inet backendText = some backend ∧ backend.version = 4 ∧
      backend.address = "127.0.0.1" ∧ c = { config with routes := [⟨listen, backend⟩] } := by
  have hvalid (listen : Native.Endpoint) : Native.validateNewListen config listen = .ok () := by
    simp [Native.validateNewListen, hroutes]
  unfold Native.addForward
  cases Native.parseEndpoint inet listenText with
  | none => simp
  | some listen =>
    cases Native.parseEndpoint inet backendText with
    | none => simp
    | some backend =>
      by_cases hbackend : backend.version ≠ 4 ∨ backend.address ≠ "127.0.0.1"
      · simp only [if_pos hbackend, reduceCtorEq, Option.some.injEq, false_iff]
        rintro ⟨_, _, rfl, rfl, hversion, haddress, -⟩
        exact hbackend.elim (fun h => h hversion) fun h => h haddress
      · simp only [if_neg hbackend, hvalid, hroutes, List.nil_append]
        rw [not_or, not_not, not_not] at hbackend
        constructor
        · rintro ⟨⟩
          exact ⟨listen, backend, rfl, rfl, hbackend.1, hbackend.2, rfl⟩
        · rintro ⟨_, _, ⟨⟩, ⟨⟩, -, -, rfl⟩
          rfl

theorem finalize_eq_ok {config c : Native.Config} (route : Native.Route) (hcc : config.cc ≠ "")
    {explicitIptables : Bool}
    (hfirewall : explicitIptables = true → config.firewall = .iptables) :
    Native.finalize inet { config with routes := [route] } tunHost tunGuest explicitIptables =
      .ok c ↔ ∃ host guest,
      inet.pton route.listen.version (tunHost.getD (defaultTunHost route.listen.version)) =
        some host ∧
      inet.pton route.listen.version (tunGuest.getD (defaultTunGuest route.listen.version)) =
        some guest ∧
      inet.ntop route.listen.version host ≠ inet.ntop route.listen.version guest ∧
      c = { config with
        routes := [route]
        tunHost := inet.ntop route.listen.version host
        tunGuest := inet.ntop route.listen.version guest } := by
  have hexplicit : ¬ (explicitIptables = true ∧ config.firewall ≠ .iptables) :=
    fun h => h.2 (hfirewall h.1)
  unfold Native.finalize
  simp only [if_neg hcc, if_neg hexplicit, Native.parseIp, defaultTunHost, defaultTunGuest]
  generalize inet.pton route.listen.version (tunHost.getD _) = host
  generalize inet.pton route.listen.version (tunGuest.getD _) = guest
  cases host with
  | none => simp
  | some host =>
    cases guest with
    | none => simp
    | some guest =>
      simp only [Option.map_some]
      by_cases hsame : inet.ntop route.listen.version host = inet.ntop route.listen.version guest
      · rw [if_pos hsame]
        constructor
        · rintro ⟨⟩
        · rintro ⟨_, _, ⟨⟩, ⟨⟩, hne, -⟩
          exact (hne hsame).elim
      · rw [if_neg hsame]
        constructor
        · rintro ⟨⟩
          exact ⟨host, guest, rfl, rfl, hsame, rfl⟩
        · rintro ⟨_, _, ⟨⟩, ⟨⟩, -, rfl⟩
          rfl

section Native
variable {config : Native.Config} {explicitIptables : Bool}

theorem taken_of_nativeConfig (hlaw : inet.Lawful) (hlit : inet.Literal) (hshared : Shared inet)
    (hroutes : config.routes = []) (hcc : config.cc ≠ "")
    (hfirewall : explicitIptables = true → config.firewall = .iptables) {c : Native.Config}
    (h : nativeConfig inet config listenText backendText tunHost tunGuest explicitIptables =
      .ok c) :
    ∃ a, addressesOf inet c = some a ∧ Taken inet listenText backendText tunHost tunGuest a := by
  obtain ⟨c', hforward, hfinal⟩ := Native.bind_eq_ok.mp h
  obtain ⟨listen, backend, hlisten, hbackend, hversion, hloopback, rfl⟩ :=
    (addForward_eq_ok hroutes).mp hforward
  obtain ⟨host, guest, hhost, hguest, hne, rfl⟩ :=
    (finalize_eq_ok ⟨listen, backend⟩ hcc hfirewall).mp hfinal
  obtain ⟨_, _, packed, hspells, -, -, -, -, -⟩ := (Native.parseEndpoint_eq_some hlit).mp hlisten
  obtain ⟨_, _, packed', -, -, hpton', -, -, hbackend'⟩ :=
    (Native.parseEndpoint_eq_some hlit).mp hbackend
  have hfamily := hspells.version
  have hpacked : backend.packed = [127, 0, 0, 1] := by
    rw [hversion] at hpton' hbackend'
    have haddress : backend.address = inet.ntop 4 packed' :=
      congrArg Native.Endpoint.address hbackend'
    have hbytes : backend.packed = packed' := congrArg Native.Endpoint.packed hbackend'
    rw [hbytes]
    refine ntop_inj hlaw (.inl rfl) (hlaw.size hpton') rfl ?_
    rw [← haddress, hloopback, hshared.loopback]
  refine ⟨⟨⟨⟨listen.version, listen.packed⟩, listen.port⟩,
    ⟨⟨backend.version, backend.packed⟩, backend.port⟩, ⟨listen.version, host⟩,
    ⟨listen.version, guest⟩⟩, ?_, (written_iff hlit).mpr ⟨listen.address, hlisten⟩,
    (written_iff hlit).mpr ⟨backend.address, hbackend⟩, ?_, rfl, rfl, hhost, hguest, ?_⟩
  · simp [addressesOf, hlaw.ntop_pton hfamily (hlaw.size hhost),
      hlaw.ntop_pton hfamily (hlaw.size hguest)]
  · simp only [hversion, hpacked]
  · intro hsame
    exact hne (congrArg (inet.ntop listen.version) (congrArg IpAddress.packed hsame))

theorem nativeConfig_of_taken (hlaw : inet.Lawful) (hlit : inet.Literal) (hshared : Shared inet)
    (hroutes : config.routes = []) (hcc : config.cc ≠ "")
    (hfirewall : explicitIptables = true → config.firewall = .iptables)
    (h : Taken inet listenText backendText tunHost tunGuest a) :
    ∃ c, nativeConfig inet config listenText backendText tunHost tunGuest explicitIptables = .ok c ∧
      addressesOf inet c = some a := by
  obtain ⟨text, hlisten⟩ := (written_iff hlit).mp h.listen
  obtain ⟨text', hbackend⟩ := (written_iff hlit).mp h.backend
  obtain ⟨_, _, hspells, -⟩ := h.listen
  have hfamily := hspells.version
  obtain ⟨_, _, packed', -, -, -, -, -, hbackend'⟩ :=
    (Native.parseEndpoint_eq_some hlit).mp hbackend
  rw [h.loopback] at hbackend hbackend'
  have haddress : text' = "127.0.0.1" := by
    have hbytes : [127, 0, 0, 1] = packed' := congrArg Native.Endpoint.packed hbackend'
    have htext : text' = inet.ntop 4 packed' := congrArg Native.Endpoint.address hbackend'
    rw [htext, ← hbytes, hshared.loopback]
  have hhostSize := hlaw.size h.host
  have hguestSize := hlaw.size h.guest
  have hne : inet.ntop a.listen.address.version a.tunHost.packed ≠
      inet.ntop a.listen.address.version a.tunGuest.packed := by
    intro hsame
    refine h.distinct ?_
    have hpacked := ntop_inj hlaw hfamily hhostSize hguestSize hsame
    calc a.tunHost = ⟨a.tunHost.version, a.tunHost.packed⟩ := rfl
      _ = ⟨a.tunGuest.version, a.tunGuest.packed⟩ := by
        rw [h.hostVersion, h.guestVersion, hpacked]
      _ = a.tunGuest := rfl
  refine ⟨_, Native.bind_eq_ok.mpr ⟨_, (addForward_eq_ok hroutes).mpr
    ⟨_, _, hlisten, hbackend, rfl, haddress, rfl⟩, (finalize_eq_ok _ hcc hfirewall).mpr
      ⟨_, _, h.host, h.guest, hne, rfl⟩⟩, ?_⟩
  have hlast : (⟨a.listen, ⟨⟨4, [127, 0, 0, 1]⟩, a.backend.port⟩,
      ⟨a.listen.address.version, a.tunHost.packed⟩,
      ⟨a.listen.address.version, a.tunGuest.packed⟩⟩ : Addresses) = a := by
    obtain ⟨listen, ⟨address, port⟩, ⟨hostVersion, host⟩, ⟨guestVersion, guest⟩⟩ := a
    obtain rfl : address = ⟨4, [127, 0, 0, 1]⟩ := h.loopback
    obtain rfl : hostVersion = listen.address.version := h.hostVersion
    obtain rfl : guestVersion = listen.address.version := h.guestVersion
    rfl
  simp only [addressesOf, List.head?_cons, Option.bind_eq_bind, Option.bind_some,
    hlaw.ntop_pton hfamily hhostSize, hlaw.ntop_pton hfamily hguestSize]
  exact congrArg some hlast

structure Agree (python : Interpreter) (inet : Inet) (config : Native.Config)
    (listenText backendText : String) (tunHost tunGuest : Option String) (explicitIptables : Bool) :
    Prop where
  accept : (∃ c, nativeConfig inet config listenText backendText tunHost tunGuest
      explicitIptables = .ok c) ↔
    ∃ a, referenceAddresses python inet listenText backendText tunHost tunGuest = .ok a
  same : ∀ c a,
    nativeConfig inet config listenText backendText tunHost tunGuest explicitIptables = .ok c →
    referenceAddresses python inet listenText backendText tunHost tunGuest = .ok a →
    addressesOf inet c = some a

/-- The supervisors agree exactly on the texts that do not name an address or a port that is
unusable to the reference. -/
theorem agree_iff (python : Interpreter) (hlaw : inet.Lawful) (hlit : inet.Literal)
    (hshared : Shared inet) (hroutes : config.routes = []) (hcc : config.cc ≠ "")
    (hfirewall : explicitIptables = true → config.firewall = .iptables)
    (hlisten : '\x00' ∉ listenText.toList) (hbackend : '\x00' ∉ backendText.toList)
    (hhost : tunHost ≠ some "") (hguest : tunGuest ≠ some "") :
    Agree python inet config listenText backendText tunHost tunGuest explicitIptables ↔
      ∀ a, Taken inet listenText backendText tunHost tunGuest a →
        Usable python listenText backendText a := by
  have hreference (a : Addresses) :
      referenceAddresses python inet listenText backendText tunHost tunGuest = .ok a ↔
        Taken inet listenText backendText tunHost tunGuest a ∧
          Usable python listenText backendText a :=
    referenceAddresses_eq_ok hlaw hlit hshared hlisten hbackend hhost hguest
  constructor
  · intro h a htaken
    obtain ⟨c, hc, ha⟩ := nativeConfig_of_taken hlaw hlit hshared hroutes hcc hfirewall htaken
    obtain ⟨a', ha'⟩ := h.accept.mp ⟨c, hc⟩
    obtain rfl : a = a' := Option.some.inj (ha.symm.trans (h.same c a' hc ha'))
    exact ((hreference a).mp ha').2
  · intro h
    refine ⟨⟨?_, ?_⟩, ?_⟩
    · rintro ⟨c, hc⟩
      obtain ⟨a, -, htaken⟩ := taken_of_nativeConfig hlaw hlit hshared hroutes hcc hfirewall hc
      exact ⟨a, (hreference a).mpr ⟨htaken, h a htaken⟩⟩
    · rintro ⟨a, ha⟩
      obtain ⟨c, hc, -⟩ := nativeConfig_of_taken hlaw hlit hshared hroutes hcc hfirewall
        ((hreference a).mp ha).1
      exact ⟨c, hc⟩
    · intro c a hc ha
      obtain ⟨c', hc', hsame⟩ := nativeConfig_of_taken hlaw hlit hshared hroutes hcc hfirewall
        ((hreference a).mp ha).1
      obtain rfl : c = c' := Except.ok.inj (hc.symm.trans hc')
      exact hsame

end Native
end Services

theorem plainInet_shared : Shared Native.plainInet where
  disjoint := by
    intro text packed h
    rw [Native.plainInet_pton (by decide)] at h
    obtain ⟨htext, hlength⟩ := Native.dottedInet_text h
    cases hsix : Native.plainInet.pton 6 text with
    | none => rfl
    | some bytes =>
      have hdot : '.' ∈ text.toList := by
        obtain ⟨a, b, c, d, rfl⟩ := List.length_eq_four.mp hlength
        rw [htext]
        simp [List.intercalate, List.intersperse]
      rw [(Native.plainInet_six hsix).1] at hdot
      exact absurd (Native.isAlphanum_of_mem_hexPair hdot) (by decide)
  length := by
    intro version text packed hversion h
    rw [← String.length_toList]
    rcases hversion with rfl | rfl
    · rw [Native.plainInet_pton (by decide)] at h
      obtain ⟨htext, hlength⟩ := Native.dottedInet_text h
      have := Native.length_dotted hlength
      rw [htext]
      omega
    · obtain ⟨htext, hlength⟩ := Native.plainInet_six h
      rw [htext, Native.length_hexPairs, hlength]
      decide
  loopback := by decide +kernel

def python312 : Interpreter := ⟨some 4300, false⟩

def cubicConfig : Native.Config := { kernel := "kernel", cc := "cubic" }

theorem multicast_listener_accepted :
    (∃ c, nativeConfig Native.plainInet cubicConfig "224.0.0.1:80" "127.0.0.1:8080"
      none none false =
      .ok c) ∧
    referenceAddresses python312 Native.plainInet "224.0.0.1:80" "127.0.0.1:8080" none none =
      .error "listen address must be a usable unicast IP address" ∧
    ¬ Agree python312 Native.plainInet cubicConfig "224.0.0.1:80" "127.0.0.1:8080" none
      none false := by
  have hnative : ∃ c, nativeConfig Native.plainInet cubicConfig "224.0.0.1:80" "127.0.0.1:8080"
      none none false = .ok c := ⟨_, rfl⟩
  have hreference : referenceAddresses python312 Native.plainInet "224.0.0.1:80" "127.0.0.1:8080"
      none none = .error "listen address must be a usable unicast IP address" := by rfl
  refine ⟨hnative, hreference, fun h => ?_⟩
  obtain ⟨a, ha⟩ := h.accept.mp hnative
  rw [hreference] at ha
  cases ha

theorem unicast_listener_agree :
    Agree python312 Native.plainInet cubicConfig "192.0.2.10:443" "127.0.0.1:8080" none none
      false := by
  refine (agree_iff python312 Native.plainInet_lawful Native.plainInet_literal plainInet_shared rfl
    (by decide) (fun h => by cases h) (by decide) (by decide) (by decide) (by decide)).mpr ?_
  have hparse : Native.parseEndpoint Native.plainInet "192.0.2.10:443" =
      some ⟨4, "192.0.2.10", [192, 0, 2, 10], 443⟩ := by decide +kernel
  have hhost : Native.plainInet.pton 4 "198.18.0.1" = some [198, 18, 0, 1] := by decide +kernel
  have hguest : Native.plainInet.pton 4 "198.18.0.2" = some [198, 18, 0, 2] := by decide +kernel
  intro a htaken
  obtain ⟨⟨⟨version, packed⟩, port⟩, backend, ⟨hostVersion, host⟩, ⟨guestVersion, guest⟩⟩ := a
  obtain rfl : hostVersion = version := htaken.hostVersion
  obtain rfl : guestVersion = hostVersion := htaken.guestVersion
  obtain ⟨shown, hshown⟩ := (written_iff Native.plainInet_literal).mp htaken.listen
  cases hparse.symm.trans hshown
  obtain rfl : host = [198, 18, 0, 1] := Option.some.inj (htaken.host.symm.trans hhost)
  obtain rfl : guest = [198, 18, 0, 2] := Option.some.inj (htaken.guest.symm.trans hguest)
  refine ⟨⟨rfl, rfl⟩, rfl, ?_, ?_, ⟨rfl, rfl⟩, ⟨rfl, rfl⟩⟩
  · rintro limit ⟨⟩
    decide +kernel
  · rintro limit ⟨⟩
    decide +kernel

end Tcpcc.Reference

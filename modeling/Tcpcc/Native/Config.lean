import Mathlib.Algebra.Order.Ring.Int
import Mathlib.Data.List.Basic
import Tcpcc.Lib.Machine

/-!
# The configuration of the native command

`struct tcpcc_cli_config` and the two ways to fill it in: from a parsed file and from direct
arguments. A failing function leaves the message that `tcpcc_error` prints. `inet_pton`,
`inet_ntop` and `strtod` are parameters; the arguments are those that `getopt_long` returns one
after the other. Memory for routes and texts is always there.
-/

namespace Tcpcc.Native

/-- `inet_pton` and `inet_ntop` for the versions 4 and 6. -/
structure Inet where
  pton : ℕ → String → Option (List UInt8)
  ntop : ℕ → List UInt8 → String

structure Endpoint where
  version : ℕ
  address : String
  packed : List UInt8
  port : ℕ
  deriving DecidableEq, Repr

structure Route where
  listen : Endpoint
  backend : Endpoint
  deriving DecidableEq, Repr

inductive FirewallKind
  | nftLib
  | nftExec
  | iptables
  deriving DecidableEq, Repr

structure Config where
  routes : List Route := []
  cc : String := ""
  kernel : String
  memoryMib : ℕ := 128
  tcpWmemMaxKib : ℕ := 0
  firewall : FirewallKind := .nftLib
  firewallName : String := "nft-lib"
  iptablesVariant : String := "iptables"
  tunName : String := ""
  tunHost : String := ""
  tunGuest : String := ""
  backlog : ℕ := 128
  maxConnections : ℕ := 0
  graceMs : ℕ := 5000
  checkOnly : Bool := false
  deriving DecidableEq, Repr

def ulongMax : ℕ := 2 ^ 64 - 1
def minimumMemoryMib : ℕ := 32
def tcpWmemMaxKibMinimum : ℕ := 64
def tcpWmemMaxKibLimit : ℕ := 2097151
def maxBacklog : ℕ := 4096
def maxConnectionsLimit : ℕ := 1048575
def addressSize : ℕ := 46

/-! ## Texts -/

def validName (value : String) (maximum : ℕ) (cc : Bool) : Bool :=
  value.length != 0 && value.length ≤ maximum &&
    (value.toList.all fun c =>
      ('a' ≤ c && c ≤ 'z') || ('0' ≤ c && c ≤ '9') || c == '_' || c == '-' ||
        (!cc && (('A' ≤ c && c ≤ 'Z') || c == '.'))) &&
    value != "." && value != ".."

def isDigit (c : Char) : Bool := '0' ≤ c && c ≤ '9'

def decimal (digits : List Char) : ℕ :=
  digits.foldl (fun n c => 10 * n + (c.toNat - '0'.toNat)) 0

/-- `strtoul` in base ten on a text that starts with a digit: the number, if it is not too large,
and the text behind it. -/
def strtoul (text : List Char) : Option ℕ × List Char :=
  let n := decimal (text.takeWhile isDigit)
  (if n ≤ ulongMax then some n else none, text.dropWhile isDigit)

def parseUnsigned (text : String) (maximum : ℕ) : Option ℕ :=
  match text.toList with
  | [] => none
  | c :: cs =>
    if isDigit c then
      match strtoul (c :: cs) with
      | (some value, []) => if value ≤ maximum then some value else none
      | _ => none
    else none

def splitEndpoint : List Char → Option (ℕ × List Char × List Char)
  | '[' :: body =>
    match body.dropWhile (· != ']') with
    | ']' :: ':' :: c :: port => some (6, body.takeWhile (· != ']'), c :: port)
    | _ => none
  | text =>
    match text.dropWhile (· != ':') with
    | ':' :: port => if ':' ∈ port then none else some (4, text.takeWhile (· != ':'), port)
    | _ => none

def parseEndpoint (inet : Inet) (text : String) : Option Endpoint :=
  match splitEndpoint text.toList with
  | none => none
  | some (version, address, portText) =>
    if address.length = 0 ∨ addressSize ≤ address.length then none
    else
      match parseUnsigned (String.ofList portText) 65535 with
      | none => none
      | some port =>
        if port = 0 then none
        else
          match inet.pton version (String.ofList address) with
          | none => none
          | some packed =>
            if packed.all (· == 0) then none
            else some ⟨version, inet.ntop version packed, packed, port⟩

def parseIp (inet : Inet) (text : String) (version : ℕ) : Option String :=
  (inet.pton version text).map (inet.ntop version)

/-! ## Routes -/

def validateNewListen (config : Config) (listen : Endpoint) : Except String Unit :=
  if (config.routes.head?.map fun r => r.listen.version).getD listen.version ≠ listen.version then
    .error "all public listeners in one tcpcc process must use the same address family"
  else if config.routes.any fun r => r.listen.port == listen.port then
    .error "public listener ports must be unique within one tcpcc process"
  else .ok ()

def addForward (inet : Inet) (config : Config) (listenText backendText : String) :
    Except String Config :=
  match parseEndpoint inet listenText with
  | none => .error "forward listener must use literal IPv4:port or [IPv6]:port syntax"
  | some listen =>
    match parseEndpoint inet backendText with
    | none => .error "forward backend must use 127.0.0.1:port"
    | some backend =>
      if backend.version ≠ 4 ∨ backend.address ≠ "127.0.0.1" then
        .error "forward backend must use 127.0.0.1:port"
      else
        match validateNewListen config listen with
        | .error message => .error message
        | .ok _ => .ok { config with routes := config.routes ++ [⟨listen, backend⟩] }

def splitForward (text : List Char) : Option (List Char × List Char) :=
  match text.dropWhile (· != '=') with
  | '=' :: backend =>
    if text.takeWhile (· != '=') = [] ∨ backend = [] ∨ '=' ∈ backend then none
    else some (text.takeWhile (· != '='), backend)
  | _ => none

def parseForward (inet : Inet) (config : Config) (text : String) : Except String Config :=
  match splitForward text.toList with
  | none => .error "--forward must use LISTEN=BACKEND syntax"
  | some (listen, backend) =>
    addForward inet config (String.ofList listen) (String.ofList backend)

/-! ## Settings -/

def setCc (config : Config) (value : String) : Except String Config :=
  if validName value 15 true then .ok { config with cc := value }
  else .error "cc must contain 1-15 lowercase letters, digits, underscores, or hyphens"

def setKernel (config : Config) (value : String) : Except String Config :=
  if value.utf8ByteSize < 4096 then .ok { config with kernel := value }
  else .error "kernel path is too long"

def memoryError : String := "hosted memory must be at least 32 MiB"

def setMemory (config : Config) (value : ℕ) : Except String Config :=
  if value < minimumMemoryMib then .error memoryError
  else .ok { config with memoryMib := value }

def tcpWmemError : String := "tcp_wmem maximum must be from 64 through 2097151 KiB"

def setTcpWmem (config : Config) (value : ℕ) : Except String Config :=
  if value < tcpWmemMaxKibMinimum ∨ tcpWmemMaxKibLimit < value then .error tcpWmemError
  else .ok { config with tcpWmemMaxKib := value }

def firewallKind : String → Option FirewallKind
  | "nft-lib" => some .nftLib
  | "nft-exec" => some .nftExec
  | "iptables" => some .iptables
  | _ => none

def setFirewall (config : Config) (value : String) : Except String Config :=
  match firewallKind value with
  | some kind => .ok { config with firewall := kind, firewallName := value }
  | none => .error "firewall backend must be nft-lib, nft-exec, or iptables"

def setIptablesVariant (config : Config) (value : String) : Except String Config :=
  if value != "iptables" && value != "iptables-nft" && value != "iptables-legacy" then
    .error "invalid iptables variant"
  else .ok { config with iptablesVariant := value }

def setTunName (config : Config) (value : String) : Except String Config :=
  if validName value 15 false then .ok { config with tunName := value }
  else .error "invalid TUN name"

def backlogError : String := "backlog must be from 1 through 4096"

def setBacklog (config : Config) (value : ℕ) : Except String Config :=
  if value = 0 ∨ maxBacklog < value then .error backlogError
  else .ok { config with backlog := value }

def maxConnectionsError : String := "max connections must be 0 or at most 1048575"

def setMaxConnections (config : Config) (value : ℕ) : Except String Config :=
  if maxConnectionsLimit < value then .error maxConnectionsError
  else .ok { config with maxConnections := value }

def graceError : String := "shutdown grace period must be from 0 through 300 seconds"

def setGrace (config : Config) (seconds : Float) : Except String Config :=
  if seconds != seconds || seconds < 0 || seconds > 300 then .error graceError
  else .ok { config with graceMs := (seconds * 1000).toUInt32.toNat }

def finalize (inet : Inet) (config : Config) (host guest : Option String)
    (explicitIptables : Bool) : Except String Config :=
  match config.routes with
  | [] => .error "at least one --forward and --cc are required"
  | first :: _ =>
    if config.cc = "" then .error "at least one --forward and --cc are required"
    else if explicitIptables ∧ config.firewall ≠ .iptables then
      .error "--iptables-variant is valid only with --firewall-backend=iptables"
    else
      let version := first.listen.version
      let host := host.getD (if version = 4 then "198.18.0.1" else "fd00:198:18::1")
      let guest := guest.getD (if version = 4 then "198.18.0.2" else "fd00:198:18::2")
      match parseIp inet host version, parseIp inet guest version with
      | some host, some guest =>
        if host = guest then
          .error "TUN addresses must be distinct usable addresses matching the listener family"
        else .ok { config with tunHost := host, tunGuest := guest }
      | _, _ =>
        .error "TUN addresses must be distinct usable addresses matching the listener family"

/-- `tcpcc_config_init` with the path that `tcpcc_default_kernel` finds. -/
def configInit : Option String → Except String Config
  | none => .error "cannot resolve the default hosted kernel path"
  | some kernel => .ok { kernel := kernel }

/-! ## Files -/

structure FileConfig where
  cc : String
  forwards : List (String × String)
  kernel : Option String := none
  memoryMib : Option UInt64 := none
  tcpWmemMaxKib : Option UInt64 := none
  firewallBackend : Option String := none
  iptablesVariant : Option String := none
  tunName : Option String := none
  tunHostAddress : Option String := none
  tunGuestAddress : Option String := none
  backlog : Option UInt64 := none
  maxConnections : Option UInt64 := none
  shutdownGracePeriod : Option Float := none

def given {α : Type} (set : Config → α → Except String Config) (config : Config) :
    Option α → Except String Config
  | none => .ok config
  | some value => set config value

/-- The values of a file, in the order in which `tcpcc_apply_file_config` takes them. -/
def applySettings (inet : Inet) (config : Config) (file : FileConfig) : Except String Config := do
  let config ← setCc config file.cc
  let config ← file.forwards.foldlM (fun config f => addForward inet config f.1 f.2) config
  let config ← given setKernel config file.kernel
  let config ← given setMemory config (file.memoryMib.map UInt64.toNat)
  let config ← given setTcpWmem config (file.tcpWmemMaxKib.map UInt64.toNat)
  let config ← given setFirewall config file.firewallBackend
  let config ← given setIptablesVariant config file.iptablesVariant
  let config ← given setTunName config file.tunName
  let config ← given setBacklog config (file.backlog.map UInt64.toNat)
  let config ← given setMaxConnections config (file.maxConnections.map UInt64.toNat)
  given setGrace config file.shutdownGracePeriod

def applyFileConfig (inet : Inet) (config : Config) (file : FileConfig) (check : Bool) :
    Except String Config := do
  let config ← applySettings inet config file
  finalize inet { config with checkOnly := check } file.tunHostAddress file.tunGuestAddress
    file.iptablesVariant.isSome

/-! ## Direct arguments -/

/-- What `getopt_long` returns, with the text in `optarg`. -/
inductive Argument
  | forward (text : String)
  | check
  | tcpWmemMaxKib (text : String)
  | cc (text : String)
  | kernel (text : String)
  | memoryMib (text : String)
  | firewallBackend (text : String)
  | iptablesVariant (text : String)
  | tunName (text : String)
  | tunHostAddress (text : String)
  | tunGuestAddress (text : String)
  | backlog (text : String)
  | maxConnections (text : String)
  | shutdownGracePeriod (text : String)
  | unknown
  deriving DecidableEq, Repr

/-- The variables of `tcpcc_parse_direct_args`. -/
structure Parsing where
  config : Config
  host : Option String := none
  guest : Option String := none
  explicitIptables : Bool := false
  tcpWmemSeen : Bool := false

def Parsing.set (p : Parsing) (result : Except String Config) : Except String Parsing :=
  result.map fun config => { p with config := config }

def Parsing.setNumber (p : Parsing) (text : String) (maximum : ℕ) (message : String)
    (set : Config → ℕ → Except String Config) : Except String Parsing :=
  match parseUnsigned text maximum with
  | none => .error message
  | some value => p.set (set p.config value)

def Parsing.apply (inet : Inet) (strtod : String → Option Float) (p : Parsing) :
    Argument → Except String Parsing
  | .forward text => p.set (parseForward inet p.config text)
  | .check => .ok { p with config := { p.config with checkOnly := true } }
  | .tcpWmemMaxKib text =>
    if p.tcpWmemSeen then .error "--tcp-wmem-max-kib may be specified only once"
    else (p.setNumber text tcpWmemMaxKibLimit tcpWmemError setTcpWmem).map
      fun p => { p with tcpWmemSeen := true }
  | .cc text => p.set (setCc p.config text)
  | .kernel text => p.set (setKernel p.config text)
  | .memoryMib text => p.setNumber text ulongMax memoryError setMemory
  | .firewallBackend text => p.set (setFirewall p.config text)
  | .iptablesVariant text =>
    (p.set (setIptablesVariant p.config text)).map fun p => { p with explicitIptables := true }
  | .tunName text => p.set (setTunName p.config text)
  | .tunHostAddress text => .ok { p with host := some text }
  | .tunGuestAddress text => .ok { p with guest := some text }
  | .backlog text => p.setNumber text maxBacklog backlogError setBacklog
  | .maxConnections text =>
    p.setNumber text maxConnectionsLimit maxConnectionsError setMaxConnections
  | .shutdownGracePeriod text =>
    match strtod text with
    | none => .error graceError
    | some seconds => p.set (setGrace p.config seconds)
  | .unknown => .error "usage"

/-- `tcpcc_parse_direct_args` after `tcpcc_config_init`. -/
def parseDirectArgs (inet : Inet) (strtod : String → Option Float) (config : Config)
    (arguments : List Argument) (positional : Bool) : Except String Config := do
  let p ← arguments.foldlM (Parsing.apply inet strtod) { config := config }
  if positional then .error "unexpected positional argument"
  else finalize inet p.config p.host p.guest p.explicitIptables

end Tcpcc.Native

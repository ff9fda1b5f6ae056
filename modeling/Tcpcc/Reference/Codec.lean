import Tcpcc.Lib.StructFormat
import Tcpcc.Memory.Reclaim
import Tcpcc.Native.Startable
import Tcpcc.Reference.Addresses

/-!
# The records of the reference client

`tcpcc_control.py` encodes requests and decodes responses with formats of `struct`; the hosted side
copies the structures of `tcpcc_control_abi.h`. The formats have the members of the structures, so
the hosted side reads the arguments of the encoders, and the decoders return what it stored. The
addresses that the encoders take are stricter than what the hosted side checks.
-/

namespace Tcpcc.Reference.Codec
open StructFormat Control

/-! ## Structures of the hosted side -/

/-- `struct tcpcc_control_request`. -/
def requestMembers : List Kind :=
  [.unsigned 4, .unsigned 2, .unsigned 2, .signed 4, .unsigned 4, .unsigned 4, .unsigned 4,
    .bytes maxPayload]

/-- `struct tcpcc_control_response`. -/
def responseMembers : List Kind :=
  [.unsigned 4, .unsigned 2, .unsigned 2, .signed 4, .signed 4, .unsigned 4, .bytes maxPayload]

/-- `struct tcpcc_control_ip_address`. -/
def ipAddressMembers : List Kind := [.unsigned 1, .bytes 3, .bytes 16]

/-- `struct tcpcc_control_ip_endpoint`. -/
def ipEndpointMembers : List Kind := ipAddressMembers ++ [.unsigned 2, .unsigned 2]

/-- `struct tcpcc_control_l3_config`. -/
def l3ConfigMembers : List Kind := ipAddressMembers ++ [.unsigned 1, .bytes 3]

/-- `struct tcpcc_control_service_config`. -/
def serviceConfigMembers : List Kind :=
  [.unsigned 4, .unsigned 2, .unsigned 2, .unsigned 4, .unsigned 4]

/-- `struct tcpcc_control_service_stats`. -/
def serviceStatsMembers : List Kind :=
  [.unsigned 8, .unsigned 8, .unsigned 8, .unsigned 8, .unsigned 8, .unsigned 4, .unsigned 4,
    .unsigned 4, .unsigned 4, .unsigned 4, .unsigned 4, .unsigned 4, .unsigned 4, .signed 4] ++
    List.replicate 3 (.unsigned 4)

/-- `struct tcpcc_control_reclaim_stats`. -/
def reclaimStatsMembers : List Kind :=
  [.unsigned 8, .unsigned 8, .unsigned 8, .unsigned 8, .unsigned 8, .unsigned 8, .unsigned 4,
    .signed 4, .unsigned 4, .unsigned 4] ++ List.replicate 2 (.unsigned 4)

/-! ## Formats of the client -/

def requestFormat : List Code := (codes "<IHHiIII256s".toList).getD []
def responseFormat : List Code := (codes "<IHHiiI256s".toList).getD []
def serviceConfigFormat : List Code := (codes "<IHHII".toList).getD []
def serviceStatsFormat : List Code := (codes "<QQQQQIIIIIIIIiIII".toList).getD []
def reclaimStatsFormat : List Code := (codes "<QQQQQQIiIIII".toList).getD []
def ipEndpointFormat : List Code := (codes "<B3x16sHH".toList).getD []
def l3ConfigFormat : List Code := (codes "<B3x16sB3x".toList).getD []

def packed (format : List Code) (values : List Value) : Except String (List UInt8) :=
  match pack format values with
  | some b => .ok b
  | none => .error "struct.error"

/-! ## Requests -/

def boundedInteger (value : ℤ) (field : String) (minimum maximum : ℤ) : Except String Unit :=
  if minimum ≤ value ∧ value ≤ maximum then .ok ()
  else .error (field ++ " must be from " ++ toString minimum ++ " through " ++ toString maximum)

def ljust (width : ℕ) (data : List UInt8) : List UInt8 :=
  data ++ List.replicate (width - data.length) 0

def encodeRequest (operation handle arg0 arg1 : ℤ) (data : List UInt8) :
    Except String (List UInt8) := do
  boundedInteger operation "operation" 1 0xffff
  boundedInteger handle "handle" (-(1 <<< 31)) ((1 <<< 31) - 1)
  boundedInteger arg0 "arg0" 0 0xffffffff
  boundedInteger arg1 "arg1" 0 0xffffffff
  if maxPayload < data.length then
    throw ("control data exceeds the " ++ toString maxPayload ++ "-byte ABI limit")
  packed requestFormat [.number controlMagic, .number controlVersion, .number operation,
    .number handle, .number arg0, .number arg1, .number data.length,
    .bytes (ljust maxPayload data)]

def encodeServiceConfig (backendIpv4 backendPort maxConnections acceptBatch : ℤ) :
    Except String (List UInt8) := do
  boundedInteger backendIpv4 "backend IPv4" 0 0xffffffff
  boundedInteger backendPort "backend port" 1 0xffff
  boundedInteger maxConnections "max connections" 0 0xffffffff
  boundedInteger acceptBatch "accept batch" 1 0xffffffff
  packed serviceConfigFormat [.number backendIpv4, .number backendPort, .number 0,
    .number maxConnections, .number acceptBatch]

/-! ## Literals

`ipaddress.ip_address` of a text. -/

/-- `int.to_bytes` in network order. -/
def toBytes (length n : ℕ) : List UInt8 := (Records.encodeLittle length n).reverse

def parseOctet (text : List Char) : Option ℕ :=
  if text = [] ∨ ¬ text.all Native.isDigit ∨ 3 < text.length ∨
      text ≠ ['0'] ∧ text.head? = some '0' then none
  else if 255 < Nat.ofDigitChars 10 text 0 then none
  else some (Nat.ofDigitChars 10 text 0)

def ipv4FromString (text : List Char) : Option ℕ :=
  if '/' ∈ text then none
  else
    match (text.splitOn '.').mapM parseOctet with
    | some [a, b, c, d] => some (((a * 256 + b) * 256 + c) * 256 + d)
    | _ => none

def hexDigit (c : Char) : Option ℕ :=
  if '0' ≤ c ∧ c ≤ '9' then some (c.toNat - '0'.toNat)
  else if 'a' ≤ c ∧ c ≤ 'f' then some (c.toNat - 'a'.toNat + 10)
  else if 'A' ≤ c ∧ c ≤ 'F' then some (c.toNat - 'A'.toNat + 10)
  else none

def parseHextet (text : List Char) : Option ℕ :=
  if text = [] ∨ 4 < text.length then none
  else (text.mapM hexDigit).map fun digits => digits.foldl (fun n d => 16 * n + d) 0

/-- The parts of the text of an IPv6 address; an IPv4 address at its end counts for two. -/
def hextetTexts (text : List Char) : Option (List (List Char)) :=
  match (text.splitOn ':').getLast? with
  | none => none
  | some tail =>
    if (text.splitOn ':').length < 3 then none
    else if '.' ∈ tail then
      (ipv4FromString tail).map fun n =>
        (text.splitOn ':').dropLast ++ [Nat.toDigits 16 (n / 65536), Nat.toDigits 16 (n % 65536)]
    else some (text.splitOn ':')

def skipIndexes (parts : List (List Char)) : List ℕ :=
  (List.range parts.length).filter fun i =>
    decide (1 ≤ i) && decide (i + 1 < parts.length) && parts[i]? == some []

/-- The first `hi` and the last `lo` parts, with zeros between them. -/
def joinHextets (parts : List (List Char)) (hi lo : ℕ) : Option ℕ :=
  match (parts.take hi).mapM parseHextet, (parts.drop (parts.length - lo)).mapM parseHextet with
  | some before, some after =>
    some ((before ++ List.replicate (8 - (hi + lo)) 0 ++ after).foldl (fun n h => 65536 * n + h) 0)
  | _, _ => none

def hextetsFromParts (parts : List (List Char)) : Option ℕ :=
  if 9 < parts.length then none
  else
    match skipIndexes parts with
    | [] =>
      if parts.length ≠ 8 ∨ parts.head? = some [] ∨ parts.getLast? = some [] then none
      else joinHextets parts 8 0
    | [skip] =>
      if parts.head? = some [] ∧ skip ≠ 1 then none
      else if parts.getLast? = some [] ∧ parts.length - skip - 1 ≠ 1 then none
      else
        let hi := if parts.head? = some [] then 0 else skip
        let lo := if parts.getLast? = some [] then 0 else parts.length - skip - 1
        if 8 - (hi + lo) < 1 then none else joinHextets parts hi lo
    | _ => none

/-- The text in front of a scope id, which is not part of the packed address. -/
def splitScopeId (text : List Char) : Option (List Char) :=
  match text.dropWhile (· != '%') with
  | [] => some text
  | _ :: scope => if scope = [] ∨ '%' ∈ scope then none else some (text.takeWhile (· != '%'))

def ipv6FromString (text : List Char) : Option ℕ :=
  if '/' ∈ text then none
  else (splitScopeId text).bind fun text => (hextetTexts text).bind hextetsFromParts

def literal (text : String) : Option IpAddress :=
  match ipv4FromString text.toList with
  | some n => some ⟨4, toBytes 4 n⟩
  | none => (ipv6FromString text.toList).map fun n => ⟨6, toBytes 16 n⟩

/-! ## Addresses -/

def ipAddress (python : Interpreter) (value field : String) : Except String IpAddress :=
  match literal value with
  | none => .error (field ++ " must be one literal IP address")
  | some address =>
    if address.isUnspecified python || address.isMulticast python then
      .error (field ++ " must be a usable unicast IP address")
    else .ok address

def encodeIpEndpoint (python : Interpreter) (address : String) (port : ℤ) :
    Except String (List UInt8) := do
  let parsed ← ipAddress python address "endpoint address"
  boundedInteger port "endpoint port" 1 0xffff
  packed ipEndpointFormat [.number parsed.version, .bytes (ljust 16 parsed.packed), .number port,
    .number 0]

def maxPrefixlen (a : IpAddress) : ℤ := if a.version = 4 then 32 else 128

def encodeL3Config (python : Interpreter) (address : String) (prefixLen : ℤ) :
    Except String (List UInt8) := do
  let parsed ← ipAddress python address "L3 address"
  boundedInteger prefixLen "L3 prefix length" 1 (maxPrefixlen parsed)
  packed l3ConfigFormat [.number parsed.version, .bytes (ljust 16 parsed.packed),
    .number prefixLen]

/-! ## Responses -/

structure ControlResponse where
  operation : ℤ
  status : ℤ
  handle : ℤ
  data : List UInt8
  deriving DecidableEq, Repr

def sizeMessage (what : String) (data : List UInt8) (format : List Code) : String :=
  what ++ " size " ++ toString data.length ++ ", expected " ++ toString (calcsize format)

def decodeResponse (raw : List UInt8) (expectedOperation : ℤ) : Except String ControlResponse :=
  match unpack responseFormat raw with
  | none => .error (sizeMessage "control response has" raw responseFormat)
  | some [.number magic, .number version, .number operation, .number status, .number handle,
      .number length, .bytes payload] =>
    if magic ≠ controlMagic then
      .error ("control response magic is 0x" ++
        String.ofList ((Nat.toDigits 16 magic.toNat).leftpad 8 '0'))
    else if version ≠ controlVersion then
      .error ("control response version is " ++ toString version ++ ", expected " ++
        toString controlVersion)
    else if operation ≠ expectedOperation then
      .error ("control response operation is " ++ toString operation ++ ", expected " ++
        toString expectedOperation)
    else if maxPayload < length then
      .error ("control response payload is " ++ toString length ++ " bytes, maximum is " ++
        toString maxPayload)
    else .ok ⟨operation, status, handle, payload.take length.toNat⟩
  | some _ => .error "struct.error"

structure ServiceStats where
  acceptedConnections : ℤ
  completedConnections : ℤ
  rejectedConnections : ℤ
  publicToBackendBytes : ℤ
  backendToPublicBytes : ℤ
  activeConnections : ℤ
  peakConnections : ℤ
  maxConnections : ℤ
  acceptBatch : ℤ
  acceptEagain : ℤ
  bridgeStartFailures : ℤ
  terminalFailures : ℤ
  state : ℤ
  lastError : ℤ
  deriving DecidableEq, Repr

def decodeServiceStats (data : List UInt8) : Except String ServiceStats :=
  match unpack serviceStatsFormat data with
  | none => .error (sizeMessage "service stats have" data serviceStatsFormat)
  | some [.number accepted, .number completed, .number rejected, .number publicToBackend,
      .number backendToPublic, .number active, .number peak, .number maxConnections,
      .number acceptBatch, .number acceptEagain, .number bridgeStartFailures,
      .number terminalFailures, .number state, .number lastError, .number reserved0,
      .number reserved1, .number reserved2] =>
    if reserved0 ≠ 0 ∨ reserved1 ≠ 0 ∨ reserved2 ≠ 0 then
      .error ("service stats reserved fields are (" ++ toString reserved0 ++ ", " ++
        toString reserved1 ++ ", " ++ toString reserved2 ++ ")")
    else if 0 < lastError then
      .error ("service stats contain positive last error " ++ toString lastError)
    else .ok ⟨accepted, completed, rejected, publicToBackend, backendToPublic, active, peak,
      maxConnections, acceptBatch, acceptEagain, bridgeStartFailures, terminalFailures, state,
      lastError⟩
  | some _ => .error "struct.error"

structure ReclaimStats where
  reportedBytes : ℤ
  successfulDiscardBytes : ℤ
  batches : ℤ
  ranges : ℤ
  failedBytes : ℤ
  advisoryFailures : ℤ
  state : ℤ
  lastError : ℤ
  minimumOrder : ℤ
  maximumRangeBytes : ℤ
  deriving DecidableEq, Repr

def decodeReclaimStats (data : List UInt8) : Except String ReclaimStats :=
  match unpack reclaimStatsFormat data with
  | none => .error (sizeMessage "reclaim stats have" data reclaimStatsFormat)
  | some [.number reported, .number successful, .number batches, .number ranges, .number failed,
      .number advisoryFailures, .number state, .number lastError, .number minimumOrder,
      .number maximumRange, .number reserved0, .number reserved1] =>
    if reserved0 ≠ 0 ∨ reserved1 ≠ 0 then
      .error ("reclaim stats reserved fields are (" ++ toString reserved0 ++ ", " ++
        toString reserved1 ++ ")")
    else if 3 < state then .error ("reclaim stats contain unknown state " ++ toString state)
    else if 0 < lastError then
      .error ("reclaim stats contain positive last error " ++ toString lastError)
    else if 63 < minimumOrder ∨ maximumRange = 0 then
      .error "reclaim stats contain invalid range policy"
    else .ok ⟨reported, successful, batches, ranges, failed, advisoryFailures, state, lastError,
      minimumOrder, maximumRange⟩
  | some _ => .error "struct.error"

/-! ## The two notations agree -/

theorem requestFormat_eq : requestFormat = requestMembers.map .item := by decide
theorem responseFormat_eq : responseFormat = responseMembers.map .item := by decide
theorem serviceConfigFormat_eq : serviceConfigFormat = serviceConfigMembers.map .item := by decide
theorem serviceStatsFormat_eq : serviceStatsFormat = serviceStatsMembers.map .item := by decide
theorem reclaimStatsFormat_eq : reclaimStatsFormat = reclaimStatsMembers.map .item := by decide

theorem ipEndpointFormat_eq : ipEndpointFormat =
    [.item (.unsigned 1), .pad 3, .item (.bytes 16), .item (.unsigned 2), .item (.unsigned 2)] := by
  decide

theorem l3ConfigFormat_eq : l3ConfigFormat =
    [.item (.unsigned 1), .pad 3, .item (.bytes 16), .item (.unsigned 1), .pad 3] := by
  decide

theorem packed_spec {kinds : List Kind} {format : List Code} {values stored : List Value}
    {x : Except String (List UInt8)} (hx : x = packed format values)
    (hmembers : layout kinds = slots format) (hsize : calcsize format = structSize kinds)
    (hstored : filled format values = stored) (h : Fits format values) :
    ∃ b, x = .ok b ∧ Image kinds stored b := by
  obtain ⟨b, hb⟩ := exists_pack h
  refine ⟨b, ?_, hstored ▸ image_pack hmembers hsize hb⟩
  rw [hx, packed, hb]

theorem ok_bind {α β : Type} (a : α) (f : α → Except String β) : (Except.ok a >>= f) = f a := rfl

theorem boundedInteger_eq_ok {value minimum maximum : ℤ} {field : String}
    (h : minimum ≤ value ∧ value ≤ maximum) :
    boundedInteger value field minimum maximum = .ok () := if_pos h

variable {data : List UInt8} {a : IpAddress} {python : Interpreter} {prefixLen : ℤ}

theorem length_ljust {width : ℕ} (h : data.length ≤ width) : (ljust width data).length = width := by
  simp [ljust, h]

theorem take_ljust {width : ℕ} (h : data.length ≤ width) :
    (ljust width data ++ List.replicate width 0).take width = ljust width data := by
  rw [List.take_append_of_le_length (length_ljust h).ge, List.take_of_length_le (length_ljust h).le]

/-! ## Encoders -/

abbrev requestValues (operation handle arg0 arg1 : ℤ) (data : List UInt8) : List Value :=
  [.number controlMagic, .number controlVersion, .number operation, .number handle, .number arg0,
    .number arg1, .number data.length, .bytes (ljust maxPayload data)]

theorem encodeRequest_spec {operation handle arg0 arg1 : ℤ}
    (hoperation : 1 ≤ operation ∧ operation ≤ 0xffff) (hhandle : -2 ^ 31 ≤ handle ∧ handle < 2 ^ 31)
    (harg0 : 0 ≤ arg0 ∧ arg0 ≤ 0xffffffff) (harg1 : 0 ≤ arg1 ∧ arg1 ≤ 0xffffffff)
    (hdata : data.length ≤ maxPayload) :
    ∃ record, encodeRequest operation handle arg0 arg1 data = .ok record ∧
      Image requestMembers (requestValues operation handle arg0 arg1 data) record := by
  have hhandle' : -(1 <<< 31) ≤ handle ∧ handle ≤ (1 <<< 31) - 1 := by
    rw [show (1 <<< 31 : ℤ) = 2 ^ 31 by decide]
    omega
  have hdata' : data.length ≤ 256 := hdata
  refine packed_spec (by
    simp only [encodeRequest, boundedInteger_eq_ok hoperation, boundedInteger_eq_ok hhandle',
      boundedInteger_eq_ok harg0, boundedInteger_eq_ok harg1, if_neg (Nat.not_lt.mpr hdata),
      ok_bind]
    rfl) (by decide) (by decide) ?_ ?_
  · rw [requestFormat_eq]
    simp only [requestMembers, List.map_cons, List.map_nil, filled, Kind.stored, take_ljust hdata]
  · rw [requestFormat_eq]
    simp only [requestMembers, List.map_cons, List.map_nil, Fits, Kind.Holds, controlMagic,
      controlVersion, and_true, Nat.reducePow, Nat.cast_ofNat]
    omega

theorem encodeServiceConfig_spec {backendIpv4 backendPort maxConnections acceptBatch : ℤ}
    (hipv4 : 0 ≤ backendIpv4 ∧ backendIpv4 ≤ 0xffffffff)
    (hport : 1 ≤ backendPort ∧ backendPort ≤ 0xffff)
    (hmax : 0 ≤ maxConnections ∧ maxConnections ≤ 0xffffffff)
    (hbatch : 1 ≤ acceptBatch ∧ acceptBatch ≤ 0xffffffff) :
    ∃ data, encodeServiceConfig backendIpv4 backendPort maxConnections acceptBatch = .ok data ∧
      Image serviceConfigMembers [.number backendIpv4, .number backendPort, .number 0,
        .number maxConnections, .number acceptBatch] data := by
  refine packed_spec (by
    simp only [encodeServiceConfig, boundedInteger_eq_ok hipv4, boundedInteger_eq_ok hport,
      boundedInteger_eq_ok hmax, boundedInteger_eq_ok hbatch, ok_bind]
    rfl) (by decide) (by decide) rfl ?_
  rw [serviceConfigFormat_eq]
  simp only [serviceConfigMembers, List.map_cons, List.map_nil, Fits, Kind.Holds, and_true,
    Nat.reducePow, Nat.cast_ofNat]
  omega

/-- The addresses that `ipaddress` returns. -/
structure WellFormed (a : IpAddress) : Prop where
  version : a.version = 4 ∨ a.version = 6
  length : a.packed.length = Native.addressLength a.version

theorem literal_wellFormed {text : String} (h : literal text = some a) : WellFormed a := by
  unfold literal at h
  split at h
  case h_1 n _ =>
    cases h
    exact ⟨.inl rfl, by simp [toBytes, Native.addressLength]⟩
  case h_2 =>
    obtain ⟨n, -, rfl⟩ := Option.map_eq_some_iff.mp h
    exact ⟨.inr rfl, by simp [toBytes, Native.addressLength]⟩

theorem ipAddress_eq_ok {value field : String} :
    ipAddress python value field = .ok a ↔ literal value = some a ∧ Unicast python a := by
  unfold ipAddress
  split
  case h_1 hnone => simp [hnone]
  case h_2 b hsome =>
    rw [hsome]
    by_cases hb : (b.isUnspecified python || b.isMulticast python) = true
    · rw [if_pos hb]
      simp only [reduceCtorEq, Option.some.injEq, false_iff, not_and]
      rintro rfl hunicast
      simp [hunicast.specified, hunicast.unicast] at hb
    · rw [if_neg hb]
      simp only [Bool.or_eq_true, not_or, Bool.not_eq_true] at hb
      simp only [Except.ok.injEq, Option.some.injEq]
      refine ⟨?_, fun h => h.1⟩
      rintro rfl
      exact ⟨rfl, hb.1, hb.2⟩

theorem WellFormed.length_le (h : WellFormed a) : a.packed.length ≤ 16 := by
  rw [h.length, Native.addressLength]
  split <;> decide

abbrev endpointValues (a : IpAddress) (port : ℤ) : List Value :=
  [.number a.version, .bytes [0, 0, 0], .bytes (ljust 16 a.packed), .number port, .number 0]

theorem encodeIpEndpoint_spec {text : String} {port : ℤ}
    (ha : ipAddress python text "endpoint address" = .ok a) (hport : 1 ≤ port ∧ port ≤ 0xffff) :
    ∃ data, encodeIpEndpoint python text port = .ok data ∧
      Image ipEndpointMembers (endpointValues a port) data := by
  have hwell := literal_wellFormed (ipAddress_eq_ok.mp ha).1
  have hversion := hwell.version
  refine packed_spec (by
    simp only [encodeIpEndpoint, ha, boundedInteger_eq_ok hport, ok_bind]
    rfl) (by decide) (by decide) ?_ ?_
  · rw [ipEndpointFormat_eq]
    simp only [filled, Kind.stored, take_ljust hwell.length_le]
    rfl
  · rw [ipEndpointFormat_eq]
    simp only [Fits, Kind.Holds, and_true, true_and, Nat.reducePow, Nat.cast_ofNat]
    omega

abbrev l3Values (a : IpAddress) (prefixLen : ℤ) : List Value :=
  [.number a.version, .bytes [0, 0, 0], .bytes (ljust 16 a.packed), .number prefixLen,
    .bytes [0, 0, 0]]

theorem encodeL3Config_spec {text : String} (ha : ipAddress python text "L3 address" = .ok a)
    (hlen : 1 ≤ prefixLen ∧ prefixLen ≤ maxPrefixlen a) :
    ∃ data, encodeL3Config python text prefixLen = .ok data ∧
      Image l3ConfigMembers (l3Values a prefixLen) data := by
  have hwell := literal_wellFormed (ipAddress_eq_ok.mp ha).1
  have hversion := hwell.version
  have hmax : maxPrefixlen a ≤ 128 := by
    unfold maxPrefixlen
    split <;> decide
  refine packed_spec (by
    simp only [encodeL3Config, ha, boundedInteger_eq_ok hlen, ok_bind]
    rfl) (by decide) (by decide) ?_ ?_
  · rw [l3ConfigFormat_eq]
    simp only [filled, Kind.stored, take_ljust hwell.length_le]
    rfl
  · rw [l3ConfigFormat_eq]
    simp only [Fits, Kind.Holds, and_true, true_and, Nat.reducePow, Nat.cast_ofNat]
    omega

/-! ## What the hosted side makes of the requests -/

theorem toSigned_four (n : ℕ) : toSigned 4 n = Runtime.signed n := by
  unfold toSigned Runtime.signed
  split <;> split <;> omega

theorem ofWire_decode {record : List UInt8} {operation handle arg0 arg1 : ℤ}
    (hdata : data.length ≤ maxPayload)
    (himage : Image requestMembers (requestValues operation handle arg0 arg1 data) record) :
    Runtime.Request.ofWire (Request.decode record) =
      { op := .ofWire operation.toNat, magic := controlMagic, version := controlVersion,
        handle := handle, arg0 := arg0.toNat, arg1 := arg1.toNat, length := data.length,
        config := .ofBytes (ljust maxPayload data),
        endpoint := .ofBytes (ljust maxPayload data) } ∧
    (Request.decode record).arg0 = arg0.toNat ∧ (Request.decode record).arg1 = arg1.toNat ∧
    (Request.decode record).length = data.length ∧
    payload (Request.decode record).data = ljust maxPayload data := by
  have hfields : view requestMembers record = [.number (field record 0 4),
      .number (field record 4 2), .number (field record 6 2),
      .number (Runtime.signed (field record 8 4)), .number (field record 12 4),
      .number (field record 16 4), .number (field record 20 4),
      .bytes ((record.drop 24).take maxPayload)] := by
    rw [← toSigned_four]
    rfl
  have hview := hfields.symm.trans himage.members
  simp only [List.cons.injEq, Value.number.injEq, Value.bytes.injEq, and_true] at hview
  obtain ⟨hmagic, hversion, hop, hhandle, harg0, harg1, hsize, hpayload⟩ := hview
  have hrest : (record.drop 24).length = maxPayload := by
    rw [List.length_drop, himage.length]
    rfl
  rw [List.take_of_length_le hrest.le] at hpayload
  have hpayload' : payload (ljust maxPayload data) = ljust maxPayload data := take_ljust hdata
  have hop' : field record 6 2 = operation.toNat := by omega
  have harg0' : field record 12 4 = arg0.toNat := by omega
  have harg1' : field record 16 4 = arg1.toNat := by omega
  have hmagic' : field record 0 4 = controlMagic := Int.ofNat_inj.mp hmagic
  have hversion' : field record 4 2 = controlVersion := Int.ofNat_inj.mp hversion
  have hsize' : field record 20 4 = data.length := Int.ofNat_inj.mp hsize
  refine ⟨?_, harg0', harg1', hsize', ?_⟩
  · simp only [Runtime.Request.ofWire, Request.decode, hmagic', hversion', hop', hhandle, harg0',
      harg1', hsize', hpayload, hpayload']
  · rw [Request.decode, hpayload, hpayload']

theorem ofBytes_ipEndpoint {port : ℤ}
    (hview : view ipEndpointMembers data = endpointValues a port) :
    Runtime.IpEndpoint.ofBytes data =
      ⟨a.version, 0, Runtime.networkOrder (ljust 16 a.packed), port.toNat, 0⟩ := by
  have hfields : view ipEndpointMembers data = [.number (field data 0 1),
      .bytes ((data.drop 1).take 3), .bytes ((data.drop 4).take 16), .number (field data 20 2),
      .number (field data 22 2)] := rfl
  rw [hfields] at hview
  simp only [List.cons.injEq, Value.number.injEq, Value.bytes.injEq, and_true] at hview
  obtain ⟨hversion, hreserved, hbytes, hport, hzero⟩ := hview
  have hport' : field data 20 2 = port.toNat := by omega
  have hversion' : field data 0 1 = a.version := Int.ofNat_inj.mp hversion
  have hzero' : field data 22 2 = 0 := Int.ofNat_inj.mp hzero
  have hreserved' : field data 1 3 = 0 := by
    rw [field, hreserved]
    decide
  simp only [Runtime.IpEndpoint.ofBytes, hversion', hreserved', hbytes, hport', hzero']

theorem ofBytes_l3Config (hview : view l3ConfigMembers data = l3Values a prefixLen) :
    L3.Config.ofBytes data =
      ⟨a.version, [0, 0, 0], ljust 16 a.packed, prefixLen.toNat, [0, 0, 0]⟩ := by
  have hfields : view l3ConfigMembers data = [.number (field data 0 1),
      .bytes ((data.drop 1).take 3), .bytes ((data.drop 4).take 16), .number (field data 20 1),
      .bytes ((data.drop 21).take 3)] := rfl
  rw [hfields] at hview
  simp only [List.cons.injEq, Value.number.injEq, Value.bytes.injEq, and_true] at hview
  obtain ⟨hversion, hreserved, hbytes, hlen, hzero⟩ := hview
  have hlen' : field data 20 1 = prefixLen.toNat := by omega
  have hversion' : field data 0 1 = a.version := Int.ofNat_inj.mp hversion
  simp only [L3.Config.ofBytes, hversion', hreserved, hbytes, hlen', hzero]

theorem ljust_eq (h : WellFormed a) :
    ljust 16 a.packed =
      if a.version = 4 then a.packed ++ List.replicate 12 0 else a.packed := by
  rw [ljust, h.length, Native.addressLength]
  split
  · rfl
  · simp

theorem bindIpCheck_encoded {q : Runtime.Request} {port : ℤ} {s : Runtime.State}
    {sk : Bridge.SockId} (hwell : WellFormed a) (hport : 1 ≤ port) (harg0 : q.arg0 = 0)
    (harg1 : q.arg1 = 0) (hlength : q.length = Runtime.ipEndpointSize)
    (hendpoint : q.endpoint =
      ⟨a.version, 0, Runtime.networkOrder (ljust 16 a.packed), port.toNat, 0⟩)
    (hlookup : Runtime.lookup q.handle s = some sk)
    (hfamily : (s.place sk).family = Native.ipVersion a.version) :
    Runtime.bindIpCheck q s =
      .ok (sk, ⟨Native.ipVersion a.version, Runtime.networkOrder a.packed, port.toNat⟩) := by
  have hport' : port.toNat ≠ 0 := by omega
  unfold Runtime.bindIpCheck
  rw [hlookup]
  simp only [harg0, harg1, hlength, hendpoint, hport', ne_eq, not_true_eq_false, or_self, if_false]
  rcases hwell.version with hversion | hversion
  · have hbytes : Runtime.networkOrder (ljust 16 a.packed) =
        Runtime.networkOrder a.packed * 2 ^ 96 := by
      rw [ljust_eq hwell, if_pos hversion, Native.networkOrder_append_zeros]
      rfl
    simp [hversion, hfamily, hbytes, Native.ipVersion]
  · have hbytes : ljust 16 a.packed = a.packed := by
      rw [ljust_eq hwell, if_neg (by omega)]
    simp [hversion, hfamily, hbytes, Native.ipVersion]

theorem Unicast.not_multicast (h : Unicast python a) (hversion : a.version = 6) :
    L3.ipv6AddrIsMulticast a.packed = false := by
  by_cases hmapped : a.packed.take 12 = [0, 0, 0, 0, 0, 0, 0, 0, 0, 0, 0xff, 0xff]
  · have hhead : a.packed.head? = (a.packed.take 12).head? := by
      cases a.packed with
      | nil => rfl
      | cons b bytes => rfl
    rw [L3.ipv6AddrIsMulticast, hhead, hmapped]
    decide
  · have hunicast := h.unicast
    have hreported : a.reported python = a := by
      rw [IpAddress.reported, IpAddress.ipv4Mapped, if_neg fun hm => hmapped hm.2]
    rw [IpAddress.isMulticast, hreported] at hunicast
    cases hpacked : a.packed with
    | nil => rfl
    | cons b bytes =>
      rw [hpacked, hversion] at hunicast
      simpa [L3.ipv6AddrIsMulticast] using hunicast

theorem attachCheck_encoded {fd : ℤ} (hwell : WellFormed a) (hunicast : Unicast python a)
    (hlen : 1 ≤ prefixLen ∧ prefixLen ≤ maxPrefixlen a) (hfd : 3 ≤ fd) :
    L3.attachCheck false fd
      ⟨a.version, [0, 0, 0], ljust 16 a.packed, prefixLen.toNat, [0, 0, 0]⟩ = 0 := by
  have hzeros : L3.anyByte [0, 0, 0] = false := by decide
  have hfd' : ¬ fd < 3 := by omega
  have hlen' : prefixLen.toNat ≠ 0 := by omega
  rcases hwell.version with hversion | hversion
  · have hrest : L3.anyByte ((ljust 16 a.packed).drop 4) = false := by
      have hlength : a.packed.length = 4 := by
        rw [hwell.length, hversion]
        rfl
      rw [ljust_eq hwell, if_pos hversion, ← hlength, List.drop_left]
      decide
    have hmax : ¬ 32 < prefixLen.toNat := by
      rw [maxPrefixlen, if_pos hversion] at hlen
      omega
    simp [L3.attachCheck, hzeros, hfd', hversion, hlen', hmax, hrest]
  · have hbytes : ljust 16 a.packed = a.packed := by
      rw [ljust_eq hwell, if_neg (by omega)]
    have hmax : ¬ 128 < prefixLen.toNat := by
      rw [maxPrefixlen, if_neg (by omega)] at hlen
      omega
    have hany : L3.ipv6AddrAny a.packed = false := hunicast.nonzero
    simp [L3.attachCheck, hzeros, hfd', hversion, hlen', hmax, hbytes, hany,
      Unicast.not_multicast hunicast hversion]

/-! ## Decoders -/

theorem unpack_eq_some {kinds : List Kind} {format : List Code} {record : List UInt8}
    {values : List Value} (hformat : format = kinds.map .item)
    (hmembers : layout kinds = slots format) (hsize : calcsize format = structSize kinds) :
    unpack format record = some values ↔ Image kinds values record := by
  subst hformat
  constructor
  · intro h
    obtain ⟨hlength, -⟩ := Option.ite_none_right_eq_some.mp h
    rw [unpack_eq_view hmembers (by omega)] at h
    exact ⟨hlength.trans hsize, Option.some.inj h⟩
  · rintro ⟨hlength, rfl⟩
    exact unpack_eq_view hmembers (by omega)

theorem ite_error_eq_ok {α : Type} {p : Prop} [Decidable p] {message : String}
    {x : Except String α} {a : α} :
    (if p then .error message else x) = .ok a ↔ ¬ p ∧ x = .ok a := by
  by_cases hp : p <;> simp [hp]

theorem decodeResponse_eq_ok {raw : List UInt8} {operation : ℤ} {r : ControlResponse} :
    decodeResponse raw operation = .ok r ↔
      ∃ (length : ℕ) (data : List UInt8), length ≤ maxPayload ∧ r.operation = operation ∧
        r.data = data.take length ∧
        Image responseMembers [.number controlMagic, .number controlVersion, .number operation,
          .number r.status, .number r.handle, .number length, .bytes data] raw := by
  have hunpack : ∀ values, unpack responseFormat raw = some values ↔
      Image responseMembers values raw :=
    fun _ => unpack_eq_some responseFormat_eq (by decide) (by decide)
  constructor
  · intro h
    unfold decodeResponse at h
    split at h
    case h_1 | h_3 => cases h
    case h_2 length data hvalues =>
      simp only [ite_error_eq_ok, ne_eq, not_not, not_lt, Except.ok.injEq] at h
      obtain ⟨rfl, rfl, rfl, hpayload, rfl⟩ := h
      have himage := (hunpack _).mp hvalues
      obtain ⟨count, rfl⟩ : ∃ count : ℕ, length = count := by
        have hmembers := himage.members
        simp only [responseMembers, view, layout, layoutFrom, List.map_cons, Member.read,
          Kind.load, List.cons.injEq, Value.number.injEq] at hmembers
        exact ⟨_, hmembers.2.2.2.2.2.1.symm⟩
      exact ⟨count, data, by omega, rfl, rfl, himage⟩
  · rintro ⟨length, data, hle, hoperation, hdata, himage⟩
    simp only [decodeResponse, (hunpack _).mpr himage, ite_error_eq_ok, ne_eq, not_true_eq_false,
      not_false_eq_true, true_and, Int.toNat_natCast, not_lt, ← hdata, ← hoperation]
    exact ⟨by omega, trivial⟩

def ServiceStats.values (v : ServiceStats) : List Value :=
  [.number v.acceptedConnections, .number v.completedConnections, .number v.rejectedConnections,
    .number v.publicToBackendBytes, .number v.backendToPublicBytes, .number v.activeConnections,
    .number v.peakConnections, .number v.maxConnections, .number v.acceptBatch,
    .number v.acceptEagain, .number v.bridgeStartFailures, .number v.terminalFailures,
    .number v.state, .number v.lastError]

theorem decodeServiceStats_eq_ok {v : ServiceStats} :
    decodeServiceStats data = .ok v ↔
      Image serviceStatsMembers (v.values ++ [.number 0, .number 0, .number 0]) data ∧
        v.lastError ≤ 0 := by
  have hunpack : ∀ values, unpack serviceStatsFormat data = some values ↔
      Image serviceStatsMembers values data :=
    fun _ => unpack_eq_some serviceStatsFormat_eq (by decide) (by decide)
  constructor
  · intro h
    unfold decodeServiceStats at h
    split at h
    case h_1 | h_3 => cases h
    case h_2 hvalues =>
      simp only [ite_error_eq_ok, ne_eq, not_or, not_not, not_lt, Except.ok.injEq] at h
      obtain ⟨⟨rfl, rfl, rfl⟩, herror, rfl⟩ := h
      exact ⟨(hunpack _).mp hvalues, herror⟩
  · rintro ⟨himage, herror⟩
    simp only [decodeServiceStats, (hunpack _).mpr himage, ServiceStats.values, List.cons_append,
      List.nil_append, ite_error_eq_ok, ne_eq, not_true_eq_false, or_self, not_false_eq_true,
      not_lt.mpr herror, and_self]

def ReclaimStats.values (v : ReclaimStats) : List Value :=
  [.number v.reportedBytes, .number v.successfulDiscardBytes, .number v.batches, .number v.ranges,
    .number v.failedBytes, .number v.advisoryFailures, .number v.state, .number v.lastError,
    .number v.minimumOrder, .number v.maximumRangeBytes]

theorem decodeReclaimStats_eq_ok {v : ReclaimStats} :
    decodeReclaimStats data = .ok v ↔
      Image reclaimStatsMembers (v.values ++ [.number 0, .number 0]) data ∧
        v.state ≤ 3 ∧ v.lastError ≤ 0 ∧ v.minimumOrder ≤ 63 ∧ v.maximumRangeBytes ≠ 0 := by
  have hunpack : ∀ values, unpack reclaimStatsFormat data = some values ↔
      Image reclaimStatsMembers values data :=
    fun _ => unpack_eq_some reclaimStatsFormat_eq (by decide) (by decide)
  constructor
  · intro h
    unfold decodeReclaimStats at h
    split at h
    case h_1 | h_3 => cases h
    case h_2 hvalues =>
      simp only [ite_error_eq_ok, ne_eq, not_or, not_not, not_lt, Except.ok.injEq] at h
      obtain ⟨⟨rfl, rfl⟩, hstate, herror, hpolicy, rfl⟩ := h
      exact ⟨(hunpack _).mp hvalues, hstate, herror, hpolicy⟩
  · rintro ⟨himage, hstate, herror, horder, hrange⟩
    simp only [decodeReclaimStats, (hunpack _).mpr himage, ReclaimStats.values, List.cons_append,
      List.nil_append, ite_error_eq_ok, ne_eq, not_true_eq_false, or_self, not_false_eq_true,
      not_lt.mpr hstate, not_lt.mpr herror, not_lt.mpr horder, hrange, and_self]

/-! ## What the hosted side emits -/

/-- `enum tcpcc_control_service_state`. -/
def serviceStateCode : Runtime.ServiceState → ℕ
  | .stopped => 0
  | .running => 1
  | .draining => 2
  | .stopping => 3
  | .failed => 4

def serviceSnapshot (s : Runtime.ServiceStats) : ServiceStats where
  acceptedConnections := (s.acceptedConnections % 2 ^ 64 : ℕ)
  completedConnections := (s.completedConnections % 2 ^ 64 : ℕ)
  rejectedConnections := (s.rejectedConnections % 2 ^ 64 : ℕ)
  publicToBackendBytes := (s.publicToBackendBytes % 2 ^ 64 : ℕ)
  backendToPublicBytes := (s.backendToPublicBytes % 2 ^ 64 : ℕ)
  activeConnections := (s.activeConnections % 2 ^ 32 : ℕ)
  peakConnections := (s.peakConnections % 2 ^ 32 : ℕ)
  maxConnections := (s.maxConnections % 2 ^ 32 : ℕ)
  acceptBatch := (s.acceptBatch % 2 ^ 32 : ℕ)
  acceptEagain := (s.acceptEagain % 2 ^ 32 : ℕ)
  bridgeStartFailures := (s.bridgeStartFailures % 2 ^ 32 : ℕ)
  terminalFailures := (s.terminalFailures % 2 ^ 32 : ℕ)
  state := serviceStateCode s.state
  lastError := s.lastError

/-- `enum tcpcc_control_reclaim_state`. -/
def reclaimStateCode : Memory.ReclaimState → ℕ
  | .starting => 0
  | .active => 1
  | .unsupported => 2
  | .failed => 3

def reclaimMinOrder : ℕ := 2

/-- `tcpcc_reclaim_get_stats`; the counters wrap around. -/
def reclaimGetStats (s : Memory.ReclaimStats) : ReclaimStats where
  reportedBytes := (s.reportedBytes % 2 ^ 64 : ℕ)
  successfulDiscardBytes := (s.successfulDiscardBytes % 2 ^ 64 : ℕ)
  batches := (s.batches % 2 ^ 64 : ℕ)
  ranges := (s.ranges % 2 ^ 64 : ℕ)
  failedBytes := (s.failedBytes % 2 ^ 64 : ℕ)
  advisoryFailures := (s.advisoryFailures % 2 ^ 64 : ℕ)
  state := reclaimStateCode s.state
  lastError := s.lastError
  minimumOrder := reclaimMinOrder
  maximumRangeBytes := Memory.reclaimMaxRangeBytes

theorem exists_image {kinds : List Kind} {values : List Value}
    (hmembers : layout kinds = slots (kinds.map .item))
    (hsize : calcsize (kinds.map .item) = structSize kinds)
    (hfilled : filled (kinds.map .item) values = values) (h : Fits (kinds.map .item) values) :
    ∃ record, Image kinds values record := by
  obtain ⟨record, hrecord⟩ := exists_pack h
  have himage := image_pack hmembers hsize hrecord
  rw [hfilled] at himage
  exact ⟨record, himage⟩

theorem exists_serviceStats {s : Runtime.ServiceStats} (hlow : -2 ^ 31 ≤ s.lastError)
    (hhigh : s.lastError ≤ 0) :
    ∃ data, Image serviceStatsMembers
      ((serviceSnapshot s).values ++ [.number 0, .number 0, .number 0]) data := by
  have hstate : serviceStateCode s.state ≤ 4 := by cases s.state <;> decide
  refine exists_image (by decide) (by decide) rfl ?_
  simp only [serviceStatsMembers, serviceSnapshot, ServiceStats.values, List.replicate,
    List.cons_append, List.nil_append, List.map_cons, List.map_nil, Fits, Kind.Holds, and_true,
    Nat.reducePow, Nat.cast_ofNat]
  omega

theorem exists_reclaimStats {s : Memory.ReclaimStats} (hlow : -2 ^ 31 ≤ s.lastError)
    (hhigh : s.lastError ≤ 0) :
    ∃ data, Image reclaimStatsMembers
      ((reclaimGetStats s).values ++ [.number 0, .number 0]) data := by
  have hstate : reclaimStateCode s.state ≤ 3 := by cases s.state <;> decide
  refine exists_image (by decide) (by decide) rfl ?_
  simp only [reclaimStatsMembers, reclaimGetStats, ReclaimStats.values, List.replicate,
    List.cons_append, List.nil_append, List.map_cons, List.map_nil, Fits, Kind.Holds, and_true,
    Nat.reducePow, Nat.cast_ofNat, reclaimMinOrder, Memory.reclaimMaxRangeBytes]
  omega

theorem ofSigned_signed {n : ℕ} (h : n < 2 ^ 32) : ofSigned 4 (Runtime.signed n) = n := by
  unfold ofSigned Runtime.signed
  split <;> omega

theorem image_response {r : Response} (hmagic : r.magic = controlMagic)
    (hversion : r.version = controlVersion) (hop : r.op < 2 ^ 16)
    (hstatus : -2 ^ 31 ≤ r.status ∧ r.status < 2 ^ 31) (hhandle : r.handle < 2 ^ 32)
    (hlength : r.length < 2 ^ 32) :
    Image responseMembers [.number controlMagic, .number controlVersion, .number r.op,
      .number r.status, .number (Runtime.signed r.handle), .number r.length,
      .bytes (payload r.data)] r.encode := by
  have hsigned : -2 ^ 31 ≤ Runtime.signed r.handle ∧ Runtime.signed r.handle < 2 ^ 31 := by
    unfold Runtime.signed
    split <;> omega
  have htake : (payload r.data ++ List.replicate maxPayload 0).take maxPayload =
      payload r.data := by
    have hpayload := length_payload r.data
    rw [List.take_append_of_le_length hpayload.ge, List.take_of_length_le hpayload.le]
  have hpack : pack (responseMembers.map .item) [.number controlMagic, .number controlVersion,
      .number r.op, .number r.status, .number (Runtime.signed r.handle), .number r.length,
      .bytes (payload r.data)] = some r.encode := by
    have hpayload : pack [.item (.bytes maxPayload)] [.bytes (payload r.data)] =
        some (payload r.data) := by
      rw [pack_item rfl rfl, htake, List.append_nil]
    rw [Response.encode, hmagic, hversion]
    simp only [List.append_assoc]
    refine pack_item (Kind.store_unsigned (by decide)) ?_
    refine pack_item (Kind.store_unsigned (by decide)) ?_
    refine pack_item (Kind.store_unsigned hop) ?_
    refine pack_item (if_pos (by omega)) ?_
    refine pack_item ?_ (pack_item (Kind.store_unsigned hlength) hpayload)
    rw [Kind.store, if_pos (by omega), ofSigned_signed hhandle]
  have himage := @image_pack _ _ _ responseMembers (by decide) (by decide) hpack
  simpa only [responseMembers, List.map_cons, List.map_nil, filled, Kind.stored, htake] using himage

theorem decodeResponse_response {q : Request} {a : Runtime.Answer} (hop : q.op < 2 ^ 16)
    (hstatus : -2 ^ 31 ≤ a.status ∧ a.status < 2 ^ 31)
    (hhandle : -2 ^ 31 ≤ a.handle ∧ a.handle < 2 ^ 31) (hdata : data.length ≤ maxPayload) :
    decodeResponse (Runtime.response q a data).encode q.op =
      .ok ⟨q.op, a.status, a.handle, data⟩ := by
  have hdata' : data.length ≤ 256 := hdata
  have hsigned : Runtime.signed (a.handle % 2 ^ 32).toNat = a.handle := by
    unfold Runtime.signed
    split <;> omega
  have himage := image_response (r := Runtime.response q a data) rfl rfl hop hstatus
    (by simp only [Runtime.response]; omega) (by simp only [Runtime.response]; omega)
  refine decodeResponse_eq_ok.mpr ⟨data.length, payload data, hdata, rfl, ?_, ?_⟩
  · rw [payload, List.take_take, Nat.min_eq_left hdata, List.take_left]
  · simpa only [Runtime.response, hsigned] using himage

theorem bindIp_accepts {port handle : ℤ} (hwell : WellFormed a) (hport : 1 ≤ port)
    (hhandle : -2 ^ 31 ≤ handle ∧ handle < 2 ^ 31)
    (himage : Image ipEndpointMembers (endpointValues a port) data) :
    ∃ record, encodeRequest opBindIp handle 0 0 data = .ok record ∧
      ∀ s sk, Runtime.lookup handle s = some sk →
        (s.place sk).family = Native.ipVersion a.version →
        Runtime.bindIpCheck (.ofWire (.decode record)) s =
          .ok (sk, ⟨Native.ipVersion a.version, Runtime.networkOrder a.packed, port.toNat⟩) := by
  have hdata : data.length ≤ maxPayload := by
    rw [himage.length]
    decide
  obtain ⟨record, hrecord, hrequest⟩ := @encodeRequest_spec data opBindIp handle 0 0 (by decide)
    hhandle (by decide) (by decide) hdata
  obtain ⟨hwire, -⟩ := ofWire_decode hdata hrequest
  refine ⟨record, hrecord, fun s sk hlookup hfamily => ?_⟩
  have hendpoint := ofBytes_ipEndpoint (himage.view_append (by decide)
    (List.replicate (maxPayload - data.length) 0))
  rw [hwire]
  exact bindIpCheck_encoded hwell hport rfl rfl himage.length hendpoint hlookup hfamily

theorem l3AttachIp_accepts {fd : ℤ} (hwell : WellFormed a) (hunicast : Unicast python a)
    (hlen : 1 ≤ prefixLen ∧ prefixLen ≤ maxPrefixlen a) (hfd : 3 ≤ fd ∧ fd < 2 ^ 31)
    (himage : Image l3ConfigMembers (l3Values a prefixLen) data) :
    ∃ record, encodeRequest opL3AttachIp fd 0 0 data = .ok record ∧
      ∀ k : Runtime.Kernel, k.attached = false →
        (k.l3AttachIp (.decode record)).1.status = 0 := by
  have hdata : data.length ≤ maxPayload := by
    rw [himage.length]
    decide
  obtain ⟨record, hrecord, hrequest⟩ := @encodeRequest_spec data opL3AttachIp fd 0 0 (by decide)
    (by omega) (by decide) (by decide) hdata
  obtain ⟨hwire, harg0, harg1, hlength, hpayload⟩ := ofWire_decode hdata hrequest
  refine ⟨record, hrecord, fun k hdetached => ?_⟩
  have hsize : data.length = L3.configSize := himage.length
  have hhandle : Runtime.signed (Request.decode record).handle = fd :=
    congrArg Runtime.Request.handle hwire
  have hconfig : L3.Config.ofBytes (ljust maxPayload data) = _ :=
    ofBytes_l3Config (himage.view_append (by decide)
      (List.replicate (maxPayload - data.length) 0))
  have hcheck := attachCheck_encoded hwell hunicast hlen hfd.1
  rw [Runtime.Kernel.l3AttachIp, if_neg (by simp [harg0, harg1, hlength, hsize])]
  simp only [hhandle, hpayload, hconfig, hdetached, hcheck, ne_eq, not_true_eq_false, if_false]
  rfl

/-- The two sides of the control protocol agree on every record. -/
theorem codec_agrees (python : Interpreter) :
    (∀ (operation handle arg0 arg1 : ℤ) (data : List UInt8),
      (1 ≤ operation ∧ operation ≤ 0xffff) → (-2 ^ 31 ≤ handle ∧ handle < 2 ^ 31) →
      (0 ≤ arg0 ∧ arg0 ≤ 0xffffffff) → (0 ≤ arg1 ∧ arg1 ≤ 0xffffffff) →
      data.length ≤ maxPayload →
      ∃ record, encodeRequest operation handle arg0 arg1 data = .ok record ∧
        Image requestMembers [.number controlMagic, .number controlVersion, .number operation,
          .number handle, .number arg0, .number arg1, .number data.length,
          .bytes (ljust maxPayload data)] record) ∧
    (∀ (text : String) (a : IpAddress) (port : ℤ),
      ipAddress python text "endpoint address" = .ok a → (1 ≤ port ∧ port ≤ 0xffff) →
      ∃ data, encodeIpEndpoint python text port = .ok data ∧
        Image ipEndpointMembers [.number a.version, .bytes [0, 0, 0], .bytes (ljust 16 a.packed),
          .number port, .number 0] data ∧
        ∀ handle : ℤ, (-2 ^ 31 ≤ handle ∧ handle < 2 ^ 31) →
          ∃ record, encodeRequest opBindIp handle 0 0 data = .ok record ∧
            ∀ s sk, Runtime.lookup handle s = some sk →
              (s.place sk).family = Native.ipVersion a.version →
              Runtime.bindIpCheck (.ofWire (.decode record)) s = .ok (sk,
                ⟨Native.ipVersion a.version, Runtime.networkOrder a.packed, port.toNat⟩)) ∧
    (∀ (text : String) (a : IpAddress) (prefixLen : ℤ),
      ipAddress python text "L3 address" = .ok a →
      (1 ≤ prefixLen ∧ prefixLen ≤ maxPrefixlen a) →
      ∃ data, encodeL3Config python text prefixLen = .ok data ∧
        Image l3ConfigMembers [.number a.version, .bytes [0, 0, 0], .bytes (ljust 16 a.packed),
          .number prefixLen, .bytes [0, 0, 0]] data ∧
        ∀ fd : ℤ, (3 ≤ fd ∧ fd < 2 ^ 31) →
          ∃ record, encodeRequest opL3AttachIp fd 0 0 data = .ok record ∧
            ∀ k : Runtime.Kernel, k.attached = false →
              (k.l3AttachIp (.decode record)).1.status = 0) ∧
    (∀ backendIpv4 backendPort maxConnections acceptBatch : ℤ,
      (0 ≤ backendIpv4 ∧ backendIpv4 ≤ 0xffffffff) → (1 ≤ backendPort ∧ backendPort ≤ 0xffff) →
      (0 ≤ maxConnections ∧ maxConnections ≤ 0xffffffff) →
      (1 ≤ acceptBatch ∧ acceptBatch ≤ 0xffffffff) →
      ∃ data, encodeServiceConfig backendIpv4 backendPort maxConnections acceptBatch = .ok data ∧
        Image serviceConfigMembers [.number backendIpv4, .number backendPort, .number 0,
          .number maxConnections, .number acceptBatch] data) ∧
    (∀ raw operation r, decodeResponse raw operation = .ok r ↔
      ∃ (length : ℕ) (data : List UInt8), length ≤ maxPayload ∧ r.operation = operation ∧
        r.data = data.take length ∧
        Image responseMembers [.number controlMagic, .number controlVersion, .number operation,
          .number r.status, .number r.handle, .number length, .bytes data] raw) ∧
    (∀ data v, decodeServiceStats data = .ok v ↔
      Image serviceStatsMembers (v.values ++ [.number 0, .number 0, .number 0]) data ∧
        v.lastError ≤ 0) ∧
    (∀ data v, decodeReclaimStats data = .ok v ↔
      Image reclaimStatsMembers (v.values ++ [.number 0, .number 0]) data ∧
        v.state ≤ 3 ∧ v.lastError ≤ 0 ∧ v.minimumOrder ≤ 63 ∧ v.maximumRangeBytes ≠ 0) ∧
    (∀ (q : Request) (a : Runtime.Answer) (data : List UInt8), q.op < 2 ^ 16 →
      (-2 ^ 31 ≤ a.status ∧ a.status < 2 ^ 31) → (-2 ^ 31 ≤ a.handle ∧ a.handle < 2 ^ 31) →
      data.length ≤ maxPayload →
      decodeResponse (Runtime.response q a data).encode q.op =
        .ok ⟨q.op, a.status, a.handle, data⟩) ∧
    (∀ s : Runtime.ServiceStats, -2 ^ 31 ≤ s.lastError → s.lastError ≤ 0 →
      ∃ data, Image serviceStatsMembers
          ((serviceSnapshot s).values ++ [.number 0, .number 0, .number 0]) data ∧
        decodeServiceStats data = .ok (serviceSnapshot s)) ∧
    (∀ s : Memory.ReclaimStats, -2 ^ 31 ≤ s.lastError → s.lastError ≤ 0 →
      ∃ data, Image reclaimStatsMembers
          ((reclaimGetStats s).values ++ [.number 0, .number 0]) data ∧
        decodeReclaimStats data = .ok (reclaimGetStats s)) := by
  refine ⟨fun operation handle arg0 arg1 data => encodeRequest_spec, ?_, ?_,
    fun backendIpv4 backendPort maxConnections acceptBatch => encodeServiceConfig_spec,
    fun raw operation r => decodeResponse_eq_ok, fun data v => decodeServiceStats_eq_ok,
    fun data v => decodeReclaimStats_eq_ok, fun q a data => decodeResponse_response, ?_, ?_⟩
  · intro text a port ha hport
    have hwell := literal_wellFormed (ipAddress_eq_ok.mp ha).1
    obtain ⟨data, hdata, himage⟩ := encodeIpEndpoint_spec ha hport
    exact ⟨data, hdata, himage, fun handle hhandle => bindIp_accepts hwell hport.1 hhandle himage⟩
  · intro text a prefixLen ha hlen
    obtain ⟨hliteral, hunicast⟩ := ipAddress_eq_ok.mp ha
    obtain ⟨data, hdata, himage⟩ := encodeL3Config_spec ha hlen
    exact ⟨data, hdata, himage, fun fd hfd =>
      l3AttachIp_accepts (literal_wellFormed hliteral) hunicast hlen hfd himage⟩
  · intro s hlow hhigh
    obtain ⟨data, himage⟩ := exists_serviceStats hlow hhigh
    exact ⟨data, himage, decodeServiceStats_eq_ok.mpr ⟨himage, hhigh⟩⟩
  · intro s hlow hhigh
    obtain ⟨data, himage⟩ := exists_reclaimStats hlow hhigh
    have hstate : (reclaimStateCode s.state : ℤ) ≤ 3 := by
      cases s.state <;> decide
    have horder : (reclaimMinOrder : ℤ) ≤ 63 := by decide
    have hrange : (Memory.reclaimMaxRangeBytes : ℤ) ≠ 0 := by decide
    exact ⟨data, himage, decodeReclaimStats_eq_ok.mpr ⟨himage, hstate, hhigh, horder, hrange⟩⟩

theorem codec_agrees_on_endpoint :
    ∃ data, encodeIpEndpoint python312 "fd00:198:18::2" 443 = .ok data ∧
      ∃ record, encodeRequest opBindIp 1 0 0 data = .ok record := by
  have hliteral : ipAddress python312 "fd00:198:18::2" "endpoint address" =
      .ok ⟨6, [0xfd, 0, 0x01, 0x98, 0, 0x18, 0, 0, 0, 0, 0, 0, 0, 0, 0, 2]⟩ := by
    decide +kernel
  obtain ⟨data, hdata, -, hbind⟩ := (codec_agrees python312).2.1 _ _ _ hliteral
    (show 1 ≤ (443 : ℤ) ∧ (443 : ℤ) ≤ 0xffff by decide)
  obtain ⟨record, hrecord, -⟩ := hbind 1 (by decide)
  exact ⟨data, hdata, record, hrecord⟩

end Tcpcc.Reference.Codec

import Tcpcc.Native.Inet
import Tcpcc.Native.Numbers

/-!
# The grammar of endpoints

What `tcpcc_parse_endpoint` accepts: an IPv4 literal and a port behind a colon, or an IPv6 literal
in brackets and a port. The port has any number of decimal digits. The endpoint as the ready event
shows it is read back as the same endpoint, and the texts fit the buffers that they are copied to.
-/

namespace Tcpcc.Native

inductive EndpointText : List Char → ℕ → List Char → List Char → Prop
  | four {address port : List Char} (h : ':' ∉ address) :
    EndpointText (address ++ ':' :: port) 4 address port
  | six {address port : List Char} (h : ']' ∉ address) :
    EndpointText ('[' :: (address ++ ']' :: ':' :: port)) 6 address port

structure PortText (text : List Char) (port : ℕ) : Prop where
  ne : text ≠ []
  digits : ∀ c ∈ text, isDigit c = true
  value : Nat.ofDigitChars 10 text 0 = port
  pos : 1 ≤ port
  le : port ≤ 65535

/-- The characters of the literals that `inet_pton` accepts. -/
structure Inet.Literal (inet : Inet) : Prop where
  ne : ∀ {version text packed}, inet.pton version text = some packed → text.toList ≠ []
  chars : ∀ {version text packed}, inet.pton version text = some packed → ∀ c ∈ text.toList,
    c.isAlphanum = true ∨ c = '.' ∨ version = 6 ∧ c = ':'

theorem parseUnsigned_eq_some {text : List Char} {n maximum : ℕ} (hmax : maximum ≤ ulongMax) :
    parseUnsigned (String.ofList text) maximum = some n ↔
      text ≠ [] ∧ (∀ c ∈ text, isDigit c = true) ∧ Nat.ofDigitChars 10 text 0 = n ∧
        n ≤ maximum := by
  rw [parseUnsigned, String.toList_ofList]
  cases text with
  | nil => simp
  | cons c cs =>
    have hvalue {n : ℕ} (hall : ∀ x ∈ c :: cs, isDigit x = true)
        (hn : Nat.ofDigitChars 10 (c :: cs) 0 = n) (hle : n ≤ maximum) :
        strtoul (c :: cs) = (some n, []) := by
      have hdecimal : decimal (c :: cs) = n := hn
      rw [strtoul, List.takeWhile_eq_self_iff.mpr hall, List.dropWhile_eq_nil_iff.mpr hall,
        hdecimal, if_pos (hle.trans hmax)]
    constructor
    · intro h
      dsimp only at h
      split at h
      case isFalse => cases h
      case isTrue hc =>
        split at h
        case h_2 => cases h
        case h_1 value htoul =>
          obtain ⟨hle, ⟨⟩⟩ := Option.ite_none_right_eq_some.mp h
          simp only [strtoul, Prod.mk.injEq] at htoul
          have hall := List.dropWhile_eq_nil_iff.mp htoul.2
          rw [List.takeWhile_eq_self_iff.mpr hall] at htoul
          have hdecimal := (Option.ite_none_right_eq_some.mp htoul.1).2
          exact ⟨List.cons_ne_nil _ _, hall, Option.some.inj hdecimal, hle⟩
    · rintro ⟨-, hall, hn, hle⟩
      simp only [hall c List.mem_cons_self, if_true, hvalue hall hn hle, if_pos hle]

theorem portText_iff {text : List Char} {port : ℕ} :
    PortText text port ↔ parseUnsigned (String.ofList text) 65535 = some port ∧ port ≠ 0 := by
  rw [parseUnsigned_eq_some (by decide)]
  constructor
  · exact fun h => ⟨⟨h.ne, h.digits, h.value, h.le⟩, Nat.pos_iff_ne_zero.mp h.pos⟩
  · exact fun h => ⟨h.1.1, h.1.2.1, h.1.2.2.1, Nat.pos_of_ne_zero h.2, h.1.2.2.2⟩

theorem not_mem_takeWhile_ne (d : Char) (l : List Char) : d ∉ l.takeWhile (· != d) := by
  intro h
  have := List.mem_takeWhile_imp h
  simp at this

theorem endpointText_of_splitEndpoint {text address port : List Char} {version : ℕ}
    (h : splitEndpoint text = some (version, address, port)) :
    EndpointText text version address port := by
  unfold splitEndpoint at h
  split at h
  case h_1 body =>
    have hbody := List.takeWhile_append_dropWhile (p := (· != ']')) (l := body)
    have hmem := not_mem_takeWhile_ne ']' body
    split at h
    case h_1 c rest hdrop =>
      rw [hdrop] at hbody
      cases h
      have hspells : EndpointText ('[' :: (_ ++ ']' :: ':' :: c :: rest)) 6 _ (c :: rest) :=
        .six hmem
      rwa [hbody] at hspells
    case h_2 => cases h
  case h_2 =>
    have htext := List.takeWhile_append_dropWhile (p := (· != ':')) (l := text)
    have hmem := not_mem_takeWhile_ne ':' text
    split at h
    case h_1 hdrop =>
      rw [hdrop] at htext
      split at h
      case isTrue => cases h
      case isFalse =>
        cases h
        have hspells : EndpointText (_ ++ ':' :: port) 4 _ port := .four hmem
        rwa [htext] at hspells
    case h_2 => cases h

theorem EndpointText.version {chars address port : List Char} {version : ℕ}
    (h : EndpointText chars version address port) : version = 4 ∨ version = 6 := by
  cases h with
  | four => exact .inl rfl
  | six => exact .inr rfl

variable {inet : Inet} {text : String} {packed : List UInt8}

theorem EndpointText.splitEndpoint_eq {address port : List Char} {version n : ℕ}
    (hlit : inet.Literal) (h : EndpointText text.toList version address port)
    (hpton : inet.pton version (String.ofList address) = some packed) (hport : PortText port n) :
    splitEndpoint text.toList = some (version, address, port) := by
  have hchars := hlit.chars hpton
  rw [String.toList_ofList] at hchars
  generalize text.toList = chars at h ⊢
  cases h with
  | four haddress =>
    refine splitEndpoint_v4 ?_ haddress ?_
    · intro hhead
      have := hchars '[' (List.mem_of_head? hhead)
      revert this
      decide
    · exact fun hmem => absurd (hport.digits ':' hmem) (by decide)
  | six haddress =>
    obtain ⟨c, cs, rfl⟩ := List.exists_cons_of_ne_nil hport.ne
    exact splitEndpoint_v6 haddress

theorem parseEndpoint_eq_some {endpoint : Endpoint} (hlit : inet.Literal) :
    parseEndpoint inet text = some endpoint ↔ ∃ address port packed,
      EndpointText text.toList endpoint.version address port ∧ address.length ≤ 45 ∧
      inet.pton endpoint.version (String.ofList address) = some packed ∧
      packed.all (· == 0) = false ∧ PortText port endpoint.port ∧
      endpoint = ⟨endpoint.version, inet.ntop endpoint.version packed, packed, endpoint.port⟩ := by
  constructor
  · intro h
    unfold parseEndpoint at h
    split at h
    case h_1 => cases h
    case h_2 version address port hsplit =>
      split at h
      case isTrue => cases h
      case isFalse hlength =>
        split at h
        case h_1 => cases h
        case h_2 n hn =>
          split at h
          case isTrue => cases h
          case isFalse hzero =>
            split at h
            case h_1 => cases h
            case h_2 packed hpton =>
              split at h
              case isTrue => cases h
              case isFalse hnonzero =>
                cases h
                have hle : address.length ≤ 45 := by
                  rw [addressSize] at hlength
                  omega
                exact ⟨address, port, packed, endpointText_of_splitEndpoint hsplit, hle, hpton,
                  Bool.eq_false_iff.mpr hnonzero, portText_iff.mpr ⟨hn, hzero⟩, rfl⟩
  · rintro ⟨address, port, packed, hspells, hlength, hpton, hnonzero, hport, hendpoint⟩
    have hne := hlit.ne hpton
    rw [String.toList_ofList] at hne
    obtain ⟨hparsed, hzero⟩ := portText_iff.mp hport
    have hfits : ¬ (address.length = 0 ∨ addressSize ≤ address.length) := by
      have := List.length_pos_of_ne_nil hne
      rw [addressSize]
      omega
    unfold parseEndpoint
    rw [hspells.splitEndpoint_eq hlit hpton hport]
    simp only [if_neg hfits, hparsed, if_neg hzero, hpton, hnonzero, Bool.false_eq_true, if_false]
    exact congrArg some hendpoint.symm

/-! ## The buffers -/

/-- The text of the address, and the two fields of the endpoint that are written. -/
inductive Buffer
  | address
  | packed
  | canonical
  deriving DecidableEq, Repr

def Buffer.size : Buffer → ℕ
  | .address => addressSize
  | .packed => 16
  | .canonical => addressSize

def writes (b : Buffer) (n : ℕ) : List (Buffer × ℕ) := (List.range n).map fun i => (b, i)

/-- `tcpcc_parse_endpoint` with the positions that it writes, the terminating NULs included. -/
def parseEndpointLogged (inet : Inet) (text : String) : Option Endpoint × List (Buffer × ℕ) :=
  match splitEndpoint text.toList with
  | none => (none, [])
  | some (version, address, portText) =>
    if address.length = 0 ∨ addressSize ≤ address.length then (none, [])
    else
      let copied := writes .address (address.length + 1)
      match parseUnsigned (String.ofList portText) 65535 with
      | none => (none, copied)
      | some port =>
        if port = 0 then (none, copied)
        else
          match inet.pton version (String.ofList address) with
          | none => (none, copied)
          | some packed =>
            let converted := copied ++ writes .packed packed.length
            if packed.all (· == 0) then (none, converted)
            else
              (some ⟨version, inet.ntop version packed, packed, port⟩,
                converted ++ writes .canonical ((inet.ntop version packed).length + 1))

theorem mem_writes {b : Buffer} {n : ℕ} {w : Buffer × ℕ} (hsize : n ≤ b.size)
    (h : w ∈ writes b n) : w.2 < w.1.size := by
  obtain ⟨i, hi, rfl⟩ := List.mem_map.mp h
  exact Nat.lt_of_lt_of_le (List.mem_range.mp hi) hsize

/-- The size of the texts that `inet_ntop` writes. -/
def Inet.Fits (inet : Inet) : Prop :=
  ∀ {version packed}, version = 4 ∨ version = 6 → packed.length = addressLength version →
    (inet.ntop version packed).length ≤ 45

theorem addressLength_le (version : ℕ) : addressLength version ≤ 16 := by
  rw [addressLength]
  split <;> omega

theorem parseEndpointLogged_spec (hlaw : inet.Lawful) (hfits : inet.Fits) :
    (parseEndpointLogged inet text).1 = parseEndpoint inet text ∧
      ∀ w ∈ (parseEndpointLogged inet text).2, w.2 < w.1.size := by
  unfold parseEndpointLogged parseEndpoint
  cases hsplit : splitEndpoint text.toList with
  | none => exact ⟨rfl, by simp⟩
  | some parts =>
    obtain ⟨version, address, portText⟩ := parts
    have hversion := (endpointText_of_splitEndpoint hsplit).version
    dsimp only
    by_cases hlength : address.length = 0 ∨ addressSize ≤ address.length
    · rw [if_pos hlength, if_pos hlength]
      exact ⟨rfl, by simp⟩
    rw [if_neg hlength, if_neg hlength]
    have hcopied : ∀ w ∈ writes .address (address.length + 1), w.2 < w.1.size :=
      fun w hw => mem_writes (by rw [Buffer.size]; omega) hw
    cases parseUnsigned (String.ofList portText) 65535 with
    | none => exact ⟨rfl, hcopied⟩
    | some port =>
      dsimp only
      by_cases hzero : port = 0
      · rw [if_pos hzero, if_pos hzero]
        exact ⟨rfl, hcopied⟩
      rw [if_neg hzero, if_neg hzero]
      cases hpton : inet.pton version (String.ofList address) with
      | none => exact ⟨rfl, hcopied⟩
      | some packed =>
        have hpacked := hlaw.size hpton
        have hconverted : ∀ w ∈ writes .address (address.length + 1) ++
            writes .packed packed.length, w.2 < w.1.size := by
          intro w hw
          rcases List.mem_append.mp hw with hw | hw
          · exact hcopied w hw
          · exact mem_writes (by rw [hpacked]; exact addressLength_le version) hw
        dsimp only
        by_cases hall : packed.all (· == 0) = true
        · rw [if_pos hall, if_pos hall]
          exact ⟨rfl, hconverted⟩
        rw [if_neg hall, if_neg hall]
        refine ⟨rfl, fun w hw => ?_⟩
        rcases List.mem_append.mp hw with hw | hw
        · exact hconverted w hw
        · exact mem_writes (Nat.succ_le_succ (hfits hversion hpacked)) hw

/-! ## The ready event -/

/-- An endpoint as `tcpcc_emit_ready` shows it. -/
def Endpoint.render (e : Endpoint) : String :=
  (if e.version = 6 then "[" else "") ++ e.address ++ (if e.version = 6 then "]" else "") ++ ":" ++
    toString e.port

theorem portText_toDigits {port : ℕ} (hpos : 1 ≤ port) (hle : port ≤ 65535) :
    PortText (Nat.toDigits 10 port) port :=
  ⟨Nat.toDigits_ne_nil, fun _ => isDigit_of_mem, decimal_toDigits port, hpos, hle⟩

theorem spells_render {e : Endpoint} (hlit : inet.Literal)
    (hversion : e.version = 4 ∨ e.version = 6)
    (hpton : inet.pton e.version e.address = some packed) :
    EndpointText e.render.toList e.version e.address.toList (Nat.toDigits 10 e.port) := by
  have hchars := hlit.chars hpton
  rw [Endpoint.render, toList_append_toString]
  rcases hversion with h | h
  · rw [h] at hchars ⊢
    have hspells : EndpointText (e.address.toList ++ ':' :: Nat.toDigits 10 e.port) 4
      e.address.toList
        (Nat.toDigits 10 e.port) := by
      refine .four fun hmem => ?_
      have := hchars ':' hmem
      revert this
      decide
    simpa using hspells
  · rw [h] at hchars ⊢
    have hspells :
      EndpointText ('[' :: (e.address.toList ++ ']' :: ':' :: Nat.toDigits 10 e.port)) 6
        e.address.toList (Nat.toDigits 10 e.port) := by
      refine .six fun hmem => ?_
      have := hchars ']' hmem
      revert this
      decide
    simpa using hspells

theorem parseEndpoint_render {e : Endpoint} (hlaw : inet.Lawful) (hlit : inet.Literal)
    (hfits : inet.Fits) (h : parseEndpoint inet text = some e) :
    parseEndpoint inet e.render = some e := by
  obtain ⟨address, port, packed, hspells, -, hpton, hnonzero, hport, he⟩ :=
    (parseEndpoint_eq_some hlit).mp h
  have hsize := hlaw.size hpton
  have haddress : e.address = inet.ntop e.version packed := congrArg Endpoint.address he
  have hread : inet.pton e.version e.address = some packed := by
    rw [haddress]
    exact hlaw.ntop_pton hspells.version hsize
  refine (parseEndpoint_eq_some hlit).mpr ⟨e.address.toList, Nat.toDigits 10 e.port, packed,
    spells_render hlit hspells.version hread, ?_, ?_, hnonzero,
    portText_toDigits hport.pos hport.le,
    he⟩
  · rw [haddress, String.length_toList]
    exact hfits hspells.version hsize
  · rwa [String.ofList_toList]

/-- The grammar of `tcpcc_parse_endpoint` is exact, its writes stay in their buffers, and what the
ready event shows is parsed to the same endpoint. -/
theorem parseEndpoint_exact (hlaw : inet.Lawful) (hlit : inet.Literal) (hfits : inet.Fits)
    (text : String) :
    ((parseEndpoint inet text).isSome ↔ ∃ version address port packed n,
        EndpointText text.toList version address port ∧ address.length ≤ 45 ∧
        inet.pton version (String.ofList address) = some packed ∧
        packed.all (· == 0) = false ∧ PortText port n) ∧
      ((parseEndpointLogged inet text).1 = parseEndpoint inet text ∧
        ∀ w ∈ (parseEndpointLogged inet text).2, w.2 < w.1.size) ∧
      ∀ e, parseEndpoint inet text = some e → parseEndpoint inet e.render = some e := by
  refine ⟨⟨?_, ?_⟩, parseEndpointLogged_spec hlaw hfits,
    fun e he => parseEndpoint_render hlaw hlit hfits he⟩
  · intro h
    obtain ⟨e, he⟩ := Option.isSome_iff_exists.mp h
    obtain ⟨address, port, packed, hspells, hlength, hpton, hnonzero, hport, -⟩ :=
      (parseEndpoint_eq_some hlit).mp he
    exact ⟨e.version, address, port, packed, e.port, hspells, hlength, hpton, hnonzero, hport⟩
  · rintro ⟨version, address, port, packed, n, hspells, hlength, hpton, hnonzero, hport⟩
    have he : parseEndpoint inet text = some ⟨version, inet.ntop version packed, packed, n⟩ :=
      (parseEndpoint_eq_some hlit).mpr
        ⟨address, port, packed, hspells, hlength, hpton, hnonzero, hport, rfl⟩
    rw [he]
    rfl

/-! Dotted decimal numbers for version 4 and hexadecimal digits for version 6. -/

def hexPair (b : UInt8) : List Char := [Nat.digitChar (b.toNat / 16), Nat.digitChar (b.toNat % 16)]

def hexValue (c : Char) : ℕ := if isDigit c then c.toNat - '0'.toNat else c.toNat - 'a'.toNat + 10

def hexByte (a b : Char) : UInt8 := UInt8.ofNat (16 * hexValue a + hexValue b)

def hexBytes : List Char → Option (List UInt8)
  | [] => some []
  | a :: b :: rest =>
    if hexPair (hexByte a b) = [a, b] then (hexBytes rest).map (hexByte a b :: ·) else none
  | [_] => none

def plainInet : Inet where
  pton version text :=
    if version = 6 then
      (hexBytes text.toList).bind fun packed => if packed.length = 16 then some packed else none
    else dottedInet.pton version text
  ntop version packed :=
    if version = 6 then String.ofList (packed.flatMap hexPair) else dottedInet.ntop version packed

theorem hexValue_digitChar : ∀ n < 16, hexValue (Nat.digitChar n) = n := by decide

theorem isAlphanum_digitChar : ∀ n < 16, (Nat.digitChar n).isAlphanum = true := by decide

theorem div_sixteen_lt (b : UInt8) : b.toNat / 16 < 16 := by
  have := b.toNat_lt
  omega

theorem hexByte_hexPair (b : UInt8) :
    hexByte (Nat.digitChar (b.toNat / 16)) (Nat.digitChar (b.toNat % 16)) = b := by
  rw [hexByte, hexValue_digitChar _ (div_sixteen_lt b),
    hexValue_digitChar _ (Nat.mod_lt _ (by decide)),
    Nat.div_add_mod, UInt8.ofNat_toNat]

theorem isAlphanum_of_mem_hexPair {c : Char} (h : c ∈ packed.flatMap hexPair) :
    c.isAlphanum = true := by
  obtain ⟨b, -, hc⟩ := List.mem_flatMap.mp h
  rcases List.mem_cons.mp hc with rfl | hc
  · exact isAlphanum_digitChar _ (div_sixteen_lt b)
  · obtain rfl := List.mem_singleton.mp hc
    exact isAlphanum_digitChar _ (Nat.mod_lt _ (by decide))

theorem hexBytes_flatMap (packed : List UInt8) :
    hexBytes (packed.flatMap hexPair) = some packed := by
  induction packed with
  | nil => rfl
  | cons b packed ih =>
    simp only [List.flatMap_cons, hexPair, List.cons_append, List.nil_append, hexBytes,
      hexByte_hexPair, if_true]
    rw [show packed.flatMap _ = packed.flatMap hexPair from rfl, ih]
    rfl

theorem eq_of_hexBytes {text : List Char} (h : hexBytes text = some packed) :
    text = packed.flatMap hexPair := by
  induction text using hexBytes.induct generalizing packed with
  | case1 =>
    cases h
    rfl
  | case2 a b rest hpair ih =>
    rw [hexBytes, if_pos hpair] at h
    obtain ⟨bytes, hbytes, rfl⟩ := Option.map_eq_some_iff.mp h
    rw [List.flatMap_cons, ← ih hbytes, hpair]
    rfl
  | case3 a b rest hpair =>
    rw [hexBytes, if_neg hpair] at h
    cases h
  | case4 => cases h

theorem eq_of_mapM_dottedByte {parts : List (List Char)} (h : parts.mapM dottedByte = some packed) :
    parts = packed.map fun b => Nat.toDigits 10 b.toNat := by
  induction parts generalizing packed with
  | nil =>
    cases h
    rfl
  | cons digits parts ih =>
    rw [List.mapM_cons] at h
    obtain ⟨b, hb, hrest⟩ := Option.bind_eq_some_iff.mp h
    obtain ⟨bytes, hbytes, ⟨⟩⟩ := Option.bind_eq_some_iff.mp hrest
    obtain ⟨⟨hlt, hdigits⟩, ⟨⟩⟩ := Option.ite_none_right_eq_some.mp hb
    rw [List.map_cons, ← ih hbytes]
    congr 1
    rwa [UInt8.toNat_ofNat_of_lt' (by simpa using hlt)]

theorem dottedInet_text {version : ℕ} {text : String}
    (h : dottedInet.pton version text = some packed) :
    text.toList = ['.'].intercalate (packed.map fun b => Nat.toDigits 10 b.toNat) ∧
      packed.length = addressLength version := by
  obtain ⟨bytes, hbytes, hsize⟩ := Option.bind_eq_some_iff.mp h
  obtain ⟨hlength, ⟨⟩⟩ := Option.ite_none_right_eq_some.mp hsize
  refine ⟨?_, hlength⟩
  rw [← eq_of_mapM_dottedByte hbytes]
  exact (List.intercalate_splitOn '.').symm

theorem dottedInet_literal : dottedInet.Literal where
  ne := by
    intro version text packed h hnil
    obtain ⟨bytes, hbytes, -⟩ := Option.bind_eq_some_iff.mp h
    rw [hnil] at hbytes
    cases hbytes
  chars := by
    intro version text packed h c hc
    obtain ⟨htext, -⟩ := dottedInet_text h
    rw [htext] at hc
    rcases mem_dotted hc with hdot | ⟨l, hl, hc⟩
    · exact .inr (.inl hdot)
    · obtain ⟨b, -, rfl⟩ := List.mem_map.mp hl
      have hdigit := Nat.isDigit_of_mem_toDigits (by decide) (by decide) hc
      exact .inl (by simp [Char.isAlphanum, hdigit])

theorem length_toDigits_byte (b : UInt8) : (Nat.toDigits 10 b.toNat).length ≤ 3 := by
  have hall : ∀ n < 256, (Nat.toDigits 10 n).length ≤ 3 := by decide +kernel
  exact hall b.toNat b.toNat_lt

theorem length_dotted (h : packed.length = 4) :
    (['.'].intercalate (packed.map fun b => Nat.toDigits 10 b.toNat)).length ≤ 15 := by
  obtain ⟨a, b, c, d, rfl⟩ := List.length_eq_four.mp h
  have ha := length_toDigits_byte a
  have hb := length_toDigits_byte b
  have hc := length_toDigits_byte c
  have hd := length_toDigits_byte d
  simp only [List.map_cons, List.map_nil, List.intercalate, List.intersperse, List.flatten_cons,
    List.flatten_nil, List.length_append, List.length_cons, List.length_nil]
  omega

theorem length_hexPairs (packed : List UInt8) :
    (packed.flatMap hexPair).length = 2 * packed.length := by
  induction packed with
  | nil => rfl
  | cons b packed ih =>
    rw [List.flatMap_cons, List.length_append, ih, List.length_cons]
    simp only [hexPair, List.length_cons, List.length_nil]
    omega

theorem plainInet_six {text : String} (h : plainInet.pton 6 text = some packed) :
    text.toList = packed.flatMap hexPair ∧ packed.length = 16 := by
  obtain ⟨bytes, hbytes, hsize⟩ := Option.bind_eq_some_iff.mp h
  obtain ⟨hlength, ⟨⟩⟩ := Option.ite_none_right_eq_some.mp hsize
  exact ⟨eq_of_hexBytes hbytes, hlength⟩

theorem plainInet_pton {version : ℕ} (h : version ≠ 6) (text : String) :
    plainInet.pton version text = dottedInet.pton version text :=
  if_neg h

theorem plainInet_ntop {version : ℕ} (h : version ≠ 6) (packed : List UInt8) :
    plainInet.ntop version packed = dottedInet.ntop version packed :=
  if_neg h

theorem plainInet_lawful : plainInet.Lawful where
  size := by
    intro version text packed h
    by_cases h6 : version = 6
    · subst h6
      exact (plainInet_six h).2
    · exact dottedInet_lawful.size ((plainInet_pton h6 text).symm.trans h)
  ntop_pton := by
    intro version packed hversion hlength
    by_cases h6 : version = 6
    · subst h6
      have hsize : packed.length = 16 := hlength
      simp only [plainInet, if_true, String.toList_ofList, hexBytes_flatMap, Option.bind_some,
        if_pos hsize]
    · rw [plainInet_pton h6, plainInet_ntop h6]
      exact dottedInet_lawful.ntop_pton hversion hlength
  plain := by
    intro version packed c hc
    by_cases h6 : version = 6
    · subst h6
      simp only [plainInet, if_true, String.toList_ofList] at hc
      exact .inl (isAlphanum_of_mem_hexPair hc)
    · rw [plainInet_ntop h6] at hc
      exact dottedInet_lawful.plain c hc

theorem plainInet_literal : plainInet.Literal where
  ne := by
    intro version text packed h hnil
    by_cases h6 : version = 6
    · subst h6
      obtain ⟨htext, hlength⟩ := plainInet_six h
      have hpairs := length_hexPairs packed
      rw [← htext, hnil, hlength] at hpairs
      cases hpairs
    · exact dottedInet_literal.ne ((plainInet_pton h6 text).symm.trans h) hnil
  chars := by
    intro version text packed h c hc
    by_cases h6 : version = 6
    · subst h6
      rw [(plainInet_six h).1] at hc
      exact .inl (isAlphanum_of_mem_hexPair hc)
    · exact dottedInet_literal.chars ((plainInet_pton h6 text).symm.trans h) c hc

theorem plainInet_fits : plainInet.Fits := by
  intro version packed hversion hlength
  rcases hversion with rfl | rfl
  · rw [plainInet_ntop (by decide)]
    have := length_dotted hlength
    simp only [dottedInet, String.length_ofList]
    omega
  · have hsize : packed.length = 16 := hlength
    have := length_hexPairs packed
    simp only [plainInet, if_true, String.length_ofList]
    omega

theorem plainInet_exact :
    ∃ e, parseEndpoint plainInet "192.0.2.1:00080" = some e ∧ e.render = "192.0.2.1:80" ∧
      parseEndpoint plainInet e.render = some e := by
  have hparse : parseEndpoint plainInet "192.0.2.1:00080" =
      some ⟨4, "192.0.2.1", [192, 0, 2, 1], 80⟩ := by decide +kernel
  exact ⟨_, hparse, by decide +kernel,
    (parseEndpoint_exact plainInet_lawful plainInet_literal plainInet_fits _).2.2 _ hparse⟩

end Tcpcc.Native

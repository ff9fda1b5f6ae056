import Tcpcc.Control.Wire
import Tcpcc.Lib.OnesComplement
import Tcpcc.Lib.Scan

/-!
# Packets from the host

`tcpcc_l3_inject_one` on the receive buffer, which holds a packet and, behind it, whatever earlier
packets left there. The checks read no byte behind the packet, and what passes them are the
well-formed IPv4 and IPv6 packets.
-/

namespace Tcpcc.L3
open Control

def ipv4HeaderSize : ℕ := 20
def ipv6HeaderSize : ℕ := 40
def rxBufferSize : ℕ := 1501

/-- `ntohs` of the two bytes at an offset. -/
def ntohsAt (i : ℕ) : Scan UInt8 ℕ := do
  let high ← Scan.cell i
  let low ← Scan.cell (i + 1)
  pure (256 * high.toNat + low.toNat)

def words : List UInt8 → List ℕ
  | low :: high :: rest => (low.toNat + 256 * high.toNat) :: words rest
  | _ => []

/-- `ip_fast_csum`: the complement of the one's complement sum of the header's words. -/
def ipFastCsum (ihl : ℕ) : Scan UInt8 ℕ := do
  let header ← Scan.cells 0 (4 * ihl)
  pure (65535 - OnesComplement.sum 65536 (words header))

def validIpv4 (len : ℕ) : Scan UInt8 Bool :=
  if len < ipv4HeaderSize then pure false
  else do
    let first ← Scan.cell 0
    let version := first.toNat / 16
    let ihl := first.toNat % 16
    if version ≠ 4 ∨ ihl < 5 then pure false
    else if 4 * ihl > len then pure false
    else do
      let totalLen ← ntohsAt 2
      if totalLen ≠ len ∨ totalLen < 4 * ihl then pure false
      else do
        let csum ← ipFastCsum ihl
        pure (csum == 0)

def validIpv6 (len : ℕ) : Scan UInt8 Bool :=
  if len < ipv6HeaderSize then pure false
  else do
    let first ← Scan.cell 0
    if first.toNat / 16 ≠ 6 then pure false
    else do
      let payloadLen ← ntohsAt 4
      pure (payloadLen == len - ipv6HeaderSize)

inductive Protocol
  | ip
  | ipv6
  deriving DecidableEq, Repr

structure RxStats where
  rxPackets : ℕ := 0
  rxBytes : ℕ := 0
  rxDropped : ℕ := 0
  rxErrors : ℕ := 0
  deriving DecidableEq, Repr

def RxStats.received (s : RxStats) (len : ℕ) : RxStats :=
  { s with rxPackets := s.rxPackets + 1, rxBytes := s.rxBytes + len }

def RxStats.dropped (s : RxStats) (error : Bool) : RxStats :=
  { s with
    rxDropped := s.rxDropped + 1
    rxErrors := if error then s.rxErrors + 1 else s.rxErrors }

structure Injected where
  ret : ℤ
  stats : RxStats
  passed : Option (Protocol × List UInt8) := none
  deriving DecidableEq, Repr

def protocolOf (len : ℕ) : Scan UInt8 (Option Protocol) := do
  let first ← Scan.cell 0
  if first.toNat / 16 = 4 then
    if ← validIpv4 len then pure (some .ip) else pure none
  else if first.toNat / 16 = 6 then
    if ← validIpv6 len then pure (some .ipv6) else pure none
  else pure none

def injectOne (mtu : ℕ) (allocated : Bool) (len : ℕ) (stats : RxStats) : Scan UInt8 Injected :=
  if len > mtu then pure { ret := -EMSGSIZE, stats := stats.dropped false }
  else do
    match ← (if len = 0 then pure none else protocolOf len) with
    | none => pure { ret := -EINVAL, stats := stats.dropped true }
    | some protocol =>
      if allocated = false then pure { ret := -ENOMEM, stats := stats.dropped true }
      else do
        let bytes ← Scan.cells 0 len
        pure { ret := 0, stats := stats.received len, passed := some (protocol, bytes) }

/-! ## Well-formed packets -/

def wordAt (packet : List UInt8) (i : ℕ) : ℕ :=
  256 * (packet.getD i 0).toNat + (packet.getD (i + 1) 0).toNat

def headerLength (packet : List UInt8) : ℕ := 4 * ((packet.getD 0 0).toNat % 16)

structure Ipv4 (packet : List UInt8) : Prop where
  version : (packet.getD 0 0).toNat / 16 = 4
  header : ipv4HeaderSize ≤ headerLength packet ∧ headerLength packet ≤ packet.length
  total : wordAt packet 2 = packet.length
  checksum : 65535 ∣ ((List.range' 0 (headerLength packet / 2) 2).map (wordAt packet)).sum

structure Ipv6 (packet : List UInt8) : Prop where
  header : ipv6HeaderSize ≤ packet.length
  version : (packet.getD 0 0).toNat / 16 = 6
  payload : wordAt packet 4 = packet.length - ipv6HeaderSize

/-! ## Reading within the packet -/

section
variable {b : ℕ → UInt8} {len : ℕ}
open Scan (Below)

theorem ntohsAt_below {i : ℕ} (h : i + 1 < len) : Below len (ntohsAt i) b :=
  (Scan.below_cell (by omega)).bind ((Scan.below_cell h).bind (Scan.below_pure _ _))

theorem ipFastCsum_below {ihl : ℕ} (h : 4 * ihl ≤ len) : Below len (ipFastCsum ihl) b :=
  (Scan.below_cells (by omega)).bind (Scan.below_pure _ _)

theorem validIpv4_below : Below len (validIpv4 len) b := by
  unfold validIpv4
  split
  case isTrue => exact Scan.below_pure _ _
  case isFalse hsize =>
    have hlen : 20 ≤ len := Nat.le_of_not_lt hsize
    refine (Scan.below_cell (by omega)).bind ?_
    dsimp only
    split
    case isTrue => exact Scan.below_pure _ _
    split
    case isTrue => exact Scan.below_pure _ _
    case isFalse hheader =>
      refine (ntohsAt_below (by omega)).bind ?_
      split
      case isTrue => exact Scan.below_pure _ _
      exact (ipFastCsum_below (Nat.le_of_not_lt hheader)).bind (Scan.below_pure _ _)

theorem validIpv6_below : Below len (validIpv6 len) b := by
  unfold validIpv6
  split
  case isTrue => exact Scan.below_pure _ _
  case isFalse hsize =>
    have hlen : 40 ≤ len := Nat.le_of_not_lt hsize
    refine (Scan.below_cell (by omega)).bind ?_
    split
    case isTrue => exact Scan.below_pure _ _
    exact (ntohsAt_below (by omega)).bind (Scan.below_pure _ _)

theorem protocolOf_below (h : 0 < len) : Below len (protocolOf len) b := by
  refine (Scan.below_cell h).bind ?_
  split
  case isTrue =>
    refine validIpv4_below.bind ?_
    split <;> exact Scan.below_pure _ _
  case isFalse =>
    split
    case isTrue =>
      refine validIpv6_below.bind ?_
      split <;> exact Scan.below_pure _ _
    case isFalse => exact Scan.below_pure _ _

theorem injectOne_below {mtu : ℕ} {allocated : Bool} {stats : RxStats} (h : 0 < len) :
    Below len (injectOne mtu allocated len stats) b := by
  unfold injectOne
  split
  case isTrue => exact Scan.below_pure _ _
  rw [if_neg (Nat.ne_of_gt h)]
  refine (protocolOf_below h).bind ?_
  split
  case h_1 => exact Scan.below_pure _ _
  split
  case isTrue => exact Scan.below_pure _ _
  exact (Scan.below_cells (by omega)).bind (Scan.below_pure _ _)

end

/-! ## What passes -/

section
variable {b : ℕ → UInt8} {packet : List UInt8}

def Holds (b : ℕ → UInt8) (packet : List UInt8) : Prop :=
  ∀ i, i < packet.length → b i = packet.getD i 0

theorem Holds.cells (h : Holds b packet) : (Scan.cells 0 packet.length).value b = packet := by
  rw [Scan.value_cells]
  refine List.ext_getElem (by simp) fun i hi hi' => ?_
  have hb : b i = packet[i] := by
    rw [h i hi']
    simp [hi']
  simpa using hb

theorem Holds.ntohsAt (h : Holds b packet) {i : ℕ} (hi : i + 1 < packet.length) :
    (ntohsAt i).value b = wordAt packet i := by
  change 256 * (b i).toNat + (b (i + 1)).toNat = _
  rw [h i (by omega), h (i + 1) hi]
  rfl

theorem words_cells (i n : ℕ) : words ((List.range' i (2 * n)).map b) =
    (List.range' i n 2).map fun j => (b j).toNat + 256 * (b (j + 1)).toNat := by
  induction n generalizing i with
  | zero => rfl
  | succ n ih =>
    rw [Nat.mul_succ, List.range'_succ, List.range'_succ, List.range'_succ]
    simp only [List.map_cons, words, ih]

theorem sum_swapped (l : List ℕ) :
    (l.map fun j => (b j).toNat + 256 * (b (j + 1)).toNat).sum ≡
      256 * (l.map fun j => 256 * (b j).toNat + (b (j + 1)).toNat).sum [MOD 65535] := by
  induction l with
  | nil => rfl
  | cons j l ih =>
    simp only [List.map_cons, List.sum_cons, Nat.mul_add]
    refine Nat.ModEq.add ?_ ih
    have hcarry : (b j).toNat ≡ 256 * (256 * (b j).toNat) [MOD 65535] := by
      refine (Nat.modEq_iff_dvd' (by omega)).mpr ⟨(b j).toNat, by omega⟩
    exact hcarry.add_right _

theorem Holds.csum (h : Holds b packet) {ihl : ℕ} (hihl : 4 * ihl ≤ packet.length)
    (hfirst : 0 < ihl ∧ 0 < (b 0).toNat) :
    (ipFastCsum ihl).value b = 0 ↔
      65535 ∣ ((List.range' 0 (2 * ihl) 2).map (wordAt packet)).sum := by
  have hwords : words ((Scan.cells 0 (4 * ihl)).value b) =
      (List.range' 0 (2 * ihl) 2).map fun j => (b j).toNat + 256 * (b (j + 1)).toNat := by
    rw [Scan.value_cells, show 4 * ihl = 2 * (2 * ihl) by omega, words_cells]
  have hlt : ∀ x ∈ words ((Scan.cells 0 (4 * ihl)).value b), x < 65536 := by
    rw [hwords]
    intro x hx
    obtain ⟨j, -, rfl⟩ := List.mem_map.mp hx
    have hlow := (b j).toNat_lt
    have hhigh := (b (j + 1)).toNat_lt
    omega
  have hne : (words ((Scan.cells 0 (4 * ihl)).value b)).sum ≠ 0 := by
    obtain ⟨n, hn⟩ := Nat.exists_eq_succ_of_ne_zero (Nat.ne_of_gt (Nat.mul_pos two_pos hfirst.1))
    rw [hwords, hn, List.range'_succ, List.map_cons, List.sum_cons]
    omega
  have hnetwork : (List.range' 0 (2 * ihl) 2).map (wordAt packet) =
      (List.range' 0 (2 * ihl) 2).map fun j => 256 * (b j).toNat + (b (j + 1)).toNat := by
    refine List.map_congr_left fun j hj => ?_
    obtain ⟨i, hi, rfl⟩ := List.mem_range'.mp hj
    rw [wordAt, h _ (by omega), h _ (by omega)]
  have htop := OnesComplement.sum_eq_top_iff (by decide) hlt
  have hle := OnesComplement.sum_lt (by decide) hlt
  have hsum := sum_swapped (b := b) (List.range' 0 (2 * ihl) 2)
  change 65535 - OnesComplement.sum 65536 (words ((Scan.cells 0 (4 * ihl)).value b)) = 0 ↔ _
  have hzero : 65535 - OnesComplement.sum 65536 (words ((Scan.cells 0 (4 * ihl)).value b)) = 0 ↔
      65535 ∣ (words ((Scan.cells 0 (4 * ihl)).value b)).sum := by
    rw [← htop.trans (and_iff_left hne)]
    omega
  rw [hzero, hwords, hnetwork, ← Nat.modEq_zero_iff_dvd, ← Nat.modEq_zero_iff_dvd]
  have hcoprime : Nat.gcd 65535 256 = 1 := by decide
  constructor
  · intro hz
    have hmul := hsum.symm.trans hz
    rw [Nat.modEq_zero_iff_dvd] at hmul ⊢
    exact Nat.Coprime.dvd_of_dvd_mul_left hcoprime hmul
  · intro hz
    exact hsum.trans (hz.mul_left 256)

theorem Holds.validIpv4 (h : Holds b packet) : (validIpv4 packet.length).value b = true ↔
    Ipv4 packet := by
  unfold L3.validIpv4
  by_cases hsize : packet.length < ipv4HeaderSize
  · rw [if_pos hsize]
    refine iff_of_false Bool.false_ne_true fun hip => ?_
    exact Nat.not_lt.mpr (hip.header.1.trans hip.header.2) hsize
  have hsize' : 20 ≤ packet.length := Nat.le_of_not_lt hsize
  have hfirst : b 0 = packet.getD 0 0 := h 0 (by omega)
  rw [if_neg hsize, Scan.value_bind]
  rw [Scan.value_cell]
  by_cases hbad : (b 0).toNat / 16 ≠ 4 ∨ (b 0).toNat % 16 < 5
  · rw [if_pos hbad]
    refine iff_of_false Bool.false_ne_true fun hip => ?_
    have hfrom : 20 ≤ headerLength packet := hip.header.1
    unfold headerLength at hfrom
    rw [hfirst] at hbad
    rcases hbad with hversion | hihl
    · exact hversion hip.version
    · omega
  obtain ⟨hversion, hihl⟩ := not_or.mp hbad
  have hheader : 4 * ((b 0).toNat % 16) = headerLength packet := by
    rw [hfirst]
    rfl
  rw [if_neg hbad]
  by_cases hlong : 4 * ((b 0).toNat % 16) > packet.length
  · rw [if_pos hlong]
    refine iff_of_false Bool.false_ne_true fun hip => ?_
    rw [hheader] at hlong
    exact Nat.not_lt.mpr hip.header.2 hlong
  have htotal := h.ntohsAt (i := 2) (by omega)
  rw [if_neg hlong, Scan.value_bind, htotal]
  by_cases hlen : wordAt packet 2 ≠ packet.length ∨ wordAt packet 2 < 4 * ((b 0).toNat % 16)
  · rw [if_pos hlen]
    refine iff_of_false Bool.false_ne_true fun hip => ?_
    rcases hlen with hlen | hlen
    · exact hlen hip.total
    · rw [hip.total] at hlen
      exact hlong hlen
  rw [if_neg hlen, Scan.value_bind]
  have hcsum := h.csum (Nat.le_of_not_lt hlong) ⟨by omega, by omega⟩
  have hwords : 2 * ((b 0).toNat % 16) = headerLength packet / 2 := by omega
  rw [hwords] at hcsum
  refine beq_iff_eq.trans (hcsum.trans ⟨fun hsum => ?_, fun hip => hip.checksum⟩)
  refine ⟨?_, ⟨?_, ?_⟩, ?_, hsum⟩
  · rw [← hfirst]
    exact not_not.mp hversion
  · rw [← hheader]
    change 20 ≤ _
    omega
  · rw [← hheader]
    exact Nat.le_of_not_lt hlong
  · exact not_not.mp (not_or.mp hlen).1

theorem Holds.validIpv6 (h : Holds b packet) : (validIpv6 packet.length).value b = true ↔
    Ipv6 packet := by
  unfold L3.validIpv6
  by_cases hsize : packet.length < ipv6HeaderSize
  · rw [if_pos hsize]
    exact iff_of_false Bool.false_ne_true fun hip => Nat.not_lt.mpr hip.header hsize
  have hsize' : 40 ≤ packet.length := Nat.le_of_not_lt hsize
  have hfirst : b 0 = packet.getD 0 0 := h 0 (by omega)
  rw [if_neg hsize, Scan.value_bind]
  rw [Scan.value_cell]
  by_cases hversion : (b 0).toNat / 16 ≠ 6
  · rw [if_pos hversion]
    refine iff_of_false Bool.false_ne_true fun hip => ?_
    rw [hfirst] at hversion
    exact hversion hip.version
  rw [if_neg hversion, Scan.value_bind, h.ntohsAt (by omega)]
  refine beq_iff_eq.trans ⟨fun hpayload => ⟨hsize', ?_, hpayload⟩, fun hip => hip.payload⟩
  rw [← hfirst]
  exact not_not.mp hversion

theorem Ipv4.not_ipv6 (h : Ipv4 packet) : ¬Ipv6 packet := fun h' => by
  have h4 := h.version
  have h6 := h'.version
  omega

def Carries (packet : List UInt8) : Protocol → Prop
  | .ip => Ipv4 packet
  | .ipv6 => Ipv6 packet

theorem Holds.protocolOf (h : Holds b packet) (hpos : 0 < packet.length) (protocol : Protocol) :
    (protocolOf packet.length).value b = some protocol ↔ Carries packet protocol := by
  have hfirst : b 0 = packet.getD 0 0 := h 0 hpos
  unfold L3.protocolOf
  rw [Scan.value_bind]
  rw [Scan.value_cell]
  by_cases h4 : (b 0).toNat / 16 = 4
  · rw [if_pos h4, Scan.value_bind]
    cases hvalid : (L3.validIpv4 packet.length).value b with
    | true =>
      have hip := h.validIpv4.mp hvalid
      cases protocol with
      | ip => exact iff_of_true rfl hip
      | ipv6 => exact iff_of_false nofun hip.not_ipv6
    | false =>
      have hip : ¬Ipv4 packet := fun hip => by simp [h.validIpv4.mpr hip] at hvalid
      cases protocol with
      | ip => exact iff_of_false nofun hip
      | ipv6 =>
        refine iff_of_false nofun fun hip6 => ?_
        have h6 := hip6.version
        rw [← hfirst] at h6
        omega
  rw [if_neg h4]
  by_cases h6 : (b 0).toNat / 16 = 6
  · rw [if_pos h6, Scan.value_bind]
    cases hvalid : (L3.validIpv6 packet.length).value b with
    | true =>
      have hip := h.validIpv6.mp hvalid
      cases protocol with
      | ip => exact iff_of_false nofun fun hip4 => hip4.not_ipv6 hip
      | ipv6 => exact iff_of_true rfl hip
    | false =>
      have hip : ¬Ipv6 packet := fun hip => by simp [h.validIpv6.mpr hip] at hvalid
      cases protocol with
      | ip =>
        refine iff_of_false nofun fun hip4 => ?_
        have h4' := hip4.version
        rw [← hfirst] at h4'
        exact h4 h4'
      | ipv6 => exact iff_of_false nofun hip
  rw [if_neg h6]
  refine iff_of_false nofun fun hcarries => ?_
  cases protocol with
  | ip =>
    have hversion := hcarries.version
    rw [← hfirst] at hversion
    exact h4 hversion
  | ipv6 =>
    have hversion := hcarries.version
    rw [← hfirst] at hversion
    exact h6 hversion

end

/-- What is read from the host is passed on, unchanged and as what it is, exactly when it is a
well-formed packet that fits into the MTU. The checks stay within the packet, and it is counted
once. -/
theorem injectOne_exact {b : ℕ → UInt8} {packet : List UInt8} (mtu : ℕ) (stats : RxStats)
    (hread : 1 ≤ packet.length ∧ packet.length ≤ rxBufferSize) (h : Holds b packet) :
    (∀ protocol bytes,
      ((injectOne mtu true packet.length stats).value b).passed = some (protocol, bytes) ↔
      bytes = packet ∧ packet.length ≤ mtu ∧ Carries packet protocol) ∧
    (∀ i ∈ (injectOne mtu true packet.length stats).offsets b, i < packet.length) ∧
    (((injectOne mtu true packet.length stats).value b).stats.rxPackets = stats.rxPackets + 1 ∧
        ((injectOne mtu true packet.length stats).value b).stats.rxDropped = stats.rxDropped ∨
      ((injectOne mtu true packet.length stats).value b).stats.rxPackets = stats.rxPackets ∧
        ((injectOne mtu true packet.length stats).value b).stats.rxDropped =
          stats.rxDropped + 1) := by
  suffices hvalue : (∀ protocol bytes,
      ((injectOne mtu true packet.length stats).value b).passed = some (protocol, bytes) ↔
        bytes = packet ∧ packet.length ≤ mtu ∧ Carries packet protocol) ∧
      (((injectOne mtu true packet.length stats).value b).stats = stats.received packet.length ∨
        ∃ error, ((injectOne mtu true packet.length stats).value b).stats = stats.dropped error) by
    refine ⟨hvalue.1, injectOne_below hread.1, ?_⟩
    rcases hvalue.2 with hstats | ⟨error, hstats⟩
    · rw [hstats]
      exact .inl ⟨rfl, rfl⟩
    · rw [hstats]
      exact .inr ⟨rfl, rfl⟩
  have hprotocol := h.protocolOf hread.1
  unfold injectOne
  by_cases hmtu : packet.length > mtu
  · rw [if_pos hmtu]
    exact ⟨fun _ _ => iff_of_false nofun fun hfits => Nat.not_lt.mpr hfits.2.1 hmtu,
      .inr ⟨false, rfl⟩⟩
  rw [if_neg hmtu, if_neg (Nat.ne_of_gt hread.1), Scan.value_bind]
  cases hfound : (protocolOf packet.length).value b with
  | none =>
    rw [hfound] at hprotocol
    refine ⟨fun protocol _ => iff_of_false nofun fun hfits => ?_, .inr ⟨true, rfl⟩⟩
    exact absurd ((hprotocol protocol).mpr hfits.2.2) nofun
  | some found =>
    rw [hfound] at hprotocol
    refine ⟨fun protocol bytes => ?_, .inl rfl⟩
    change some (found, (Scan.cells 0 packet.length).value b) = some (protocol, bytes) ↔ _
    rw [h.cells, ← hprotocol protocol]
    simp only [Option.some.injEq, Prod.mk.injEq]
    constructor
    · rintro ⟨rfl, rfl⟩
      exact ⟨rfl, Nat.le_of_not_lt hmtu, rfl⟩
    · rintro ⟨rfl, -, rfl⟩
      exact ⟨rfl, rfl⟩

def samplePacket : List UInt8 :=
  [0x45, 0, 0, 20, 0, 0, 0, 0, 64, 6, 0xee, 0xbc, 198, 18, 0, 1, 198, 18, 0, 2]

theorem injectOne_exact_sample :
    ((injectOne 1500 true 20 {}).value fun i => samplePacket.getD i 0xff).passed =
        some (.ip, samplePacket) ∧
      ((injectOne 1500 true 20 {}).value fun i => (samplePacket.set 9 7).getD i 0xff).passed =
        none := by
  have hholds : ∀ packet : List UInt8, Holds (fun i => packet.getD i 0xff) packet := by
    intro packet i hi
    simp [hi]
  have hip : Ipv4 samplePacket := ⟨by decide, by decide, by decide, by decide⟩
  refine ⟨((injectOne_exact 1500 {} (by decide) (hholds samplePacket)).1 _ _).mpr
    ⟨rfl, by decide, hip⟩, ?_⟩
  rw [Option.eq_none_iff_forall_ne_some]
  rintro ⟨protocol, bytes⟩ hpassed
  obtain ⟨-, -, hcarries⟩ :=
    ((injectOne_exact 1500 {} (by decide) (hholds (samplePacket.set 9 7))).1 _ _).mp hpassed
  cases protocol with
  | ip => exact absurd hcarries.checksum (by decide)
  | ipv6 => exact absurd hcarries.version (by decide)

end Tcpcc.L3

import Mathlib.Algebra.Order.Ring.Int
import Tcpcc.Runtime.Boot

/-!
# The TCP memory policy

`compat.c`: `tcpcc_compat_configure_tcp_wmem` and `tcpcc_compat_configure_tcp_mem`. An explicit
ceiling of the send buffers above that of `tcp_init` raises the thresholds of `tcp_mem` with it.
-/

namespace Tcpcc.Memory
open Tcpcc.Runtime (tcpWmemInvalid)

/-! ## Machine integers -/

def toInt (x : ℤ) : ℤ := x.bmod (2 ^ 32)
def toLong (x : ℤ) : ℤ := x.bmod (2 ^ 64)
def toUlong (x : ℤ) : ℕ := (x % 2 ^ 64).toNat

theorem toInt_eq {x : ℤ} (hlo : 0 ≤ x) (hhi : x < 2 ^ 31) : toInt x = x :=
  Int.bmod_eq_of_le (by omega) (by omega)

theorem toLong_eq {x : ℤ} (hlo : 0 ≤ x) (hhi : x < 2 ^ 63) : toLong x = x :=
  Int.bmod_eq_of_le (by omega) (by omega)

theorem toUlong_eq {x : ℤ} (hlo : 0 ≤ x) (hhi : x < 2 ^ 64) : (toUlong x : ℤ) = x := by
  unfold toUlong
  rw [Int.emod_eq_of_lt hlo hhi, Int.toNat_of_nonneg hlo]

/-! ## The policy -/

/-- `sysctl_tcp_mem` and the third element of `sysctl_tcp_wmem`. -/
structure TcpSysctl where
  low : ℤ
  pressure : ℤ
  high : ℤ
  wmemMax : ℤ
  deriving DecidableEq, Repr

def pressureWmemMultiplier : ℕ := 8
def pressureRamDivisor : ℕ := 8

def configureTcpMem (ramPages : ℕ) (upstreamWmemMax targetWmemMax : ℤ) (s : TcpSysctl) :
    TcpSysctl :=
  if targetWmemMax ≤ upstreamWmemMax then s
  else
    let wmemPages := toUlong (toUlong targetWmemMax + 4095) / 4096
    let pressureCap := max 1 (ramPages / pressureRamDivisor)
    let pressureFloor := min (toUlong (wmemPages * pressureWmemMultiplier)) pressureCap
    let newPressure := max s.pressure (toLong pressureFloor)
    let newLow := max s.low ((toLong (newPressure * 3)).tdiv 4)
    let newHigh := max s.high (toLong (newLow * 2))
    { s with low := newLow, pressure := newPressure, high := newHigh }

def configureTcpWmem (ramPages requestedKib : ℕ) (s : TcpSysctl) : TcpSysctl :=
  let oldMax := s.wmemMax
  let targetMax := if requestedKib ≠ 0 then toInt (toUlong (requestedKib * 1024)) else oldMax
  let s := if requestedKib ≠ 0 then { s with wmemMax := targetMax } else s
  configureTcpMem ramPages oldMax targetMax s

/-! ## Its properties -/

/-- What `tcp_init` leaves. -/
structure Upstream (s : TcpSysctl) : Prop where
  low_nonneg : 0 ≤ s.low
  low_le : s.low ≤ s.pressure
  pressure_le : s.pressure ≤ s.high
  high_lt : s.high < 2 ^ 60
  wmem_ge : 16 * 1024 ≤ s.wmemMax
  wmem_le : s.wmemMax < 2 ^ 31

variable {s : TcpSysctl} {ramPages requestedKib : ℕ}

theorem target_exact (hvalid : tcpWmemInvalid requestedKib = false) :
    toInt (toUlong ((requestedKib : ℤ) * 1024)) = requestedKib * 1024 ∧
      (requestedKib : ℤ) * 1024 < 2 ^ 31 := by
  have hle : requestedKib ≤ 2097151 := by
    simp only [tcpWmemInvalid, Bool.and_eq_false_iff, Bool.or_eq_false_iff,
      bne_eq_false_iff_eq] at hvalid
    obtain rfl | ⟨-, hmax⟩ := hvalid
    · exact Nat.zero_le _
    · exact Nat.le_of_not_lt (of_decide_eq_false hmax)
  have hlt : (requestedKib : ℤ) * 1024 < 2 ^ 31 := by omega
  rw [toUlong_eq (by omega) (by omega), toInt_eq (by omega) hlt]
  exact ⟨rfl, hlt⟩

theorem configureTcpMem_exact {upstream target : ℤ} (hs : Upstream s) (hlt : upstream < target)
    (hpos : 0 ≤ target) (htarget : target < 2 ^ 31) :
    ∃ floor : ℕ, floor = min ((target.toNat + 4095) / 4096 * 8) (max 1 (ramPages / 8)) ∧
      configureTcpMem ramPages upstream target s = { s with
        pressure := max s.pressure floor
        low := max s.low (max s.pressure floor * 3 / 4)
        high := max s.high (max s.low (max s.pressure floor * 3 / 4) * 2) } := by
  refine ⟨_, rfl, ?_⟩
  unfold configureTcpMem
  rw [if_neg (Int.not_le.mpr hlt)]
  dsimp only
  have htoNat : (target.toNat : ℤ) = target := Int.toNat_of_nonneg hpos
  have hwmem : toUlong (toUlong target + 4095) = target.toNat + 4095 := by
    have hfirst := toUlong_eq hpos (by omega)
    have hsum : ((toUlong (toUlong target + 4095) : ℕ) : ℤ) = toUlong target + 4095 :=
      toUlong_eq (by omega) (by omega)
    omega
  have hpages : toUlong (((target.toNat + 4095) / 4096 : ℕ) * pressureWmemMultiplier : ℤ) =
      (target.toNat + 4095) / 4096 * 8 := by
    have hmul :
        ((toUlong (((target.toNat + 4095) / 4096 : ℕ) * pressureWmemMultiplier : ℤ) : ℕ) : ℤ)
        = ((target.toNat + 4095) / 4096 : ℕ) * pressureWmemMultiplier :=
      toUlong_eq (by simp only [pressureWmemMultiplier]; omega)
        (by simp only [pressureWmemMultiplier]; omega)
    simp only [pressureWmemMultiplier] at hmul ⊢
    omega
  rw [hwmem, hpages]
  have hfloor : min ((target.toNat + 4095) / 4096 * 8) (max 1 (ramPages / 8)) < 2 ^ 60 := by omega
  have hcap : pressureRamDivisor = 8 := rfl
  rw [hcap]
  generalize min ((target.toNat + 4095) / 4096 * 8) (max 1 (ramPages / 8)) = floor at hfloor ⊢
  obtain ⟨hlow, hle, hle', hhigh, -, -⟩ := hs
  rw [toLong_eq (Int.natCast_nonneg floor) (by omega)]
  have hpressure : 0 ≤ max s.pressure floor ∧ max s.pressure floor < 2 ^ 60 := by omega
  generalize max s.pressure (floor : ℤ) = newPressure at hpressure ⊢
  rw [toLong_eq (by omega) (by omega), Int.tdiv_eq_ediv_of_nonneg (by omega)]
  have hnewLow : 0 ≤ max s.low (newPressure * 3 / 4) ∧
      max s.low (newPressure * 3 / 4) < 2 ^ 60 := by
    omega
  rw [toLong_eq (by omega) (by omega)]

theorem configureTcpMem_noop {upstream target : ℤ} (h : target ≤ upstream) :
    configureTcpMem ramPages upstream target s = s :=
  if_pos h

theorem configureTcpWmem_zero : configureTcpWmem ramPages 0 s = s :=
  configureTcpMem_noop (Int.le_refl s.wmemMax)

theorem configureTcpWmem_eq (hne : requestedKib ≠ 0)
    (hvalid : tcpWmemInvalid requestedKib = false) :
    configureTcpWmem ramPages requestedKib s =
      configureTcpMem ramPages s.wmemMax (requestedKib * 1024)
        { s with wmemMax := requestedKib * 1024 } := by
  unfold configureTcpWmem
  dsimp only
  rw [if_pos hne, if_pos hne, (target_exact hvalid).1]

theorem pressure_le_twice_low {pressure low : ℤ} (hpressure : 2 ≤ pressure)
    (hlow : pressure * 3 / 4 ≤ low) : pressure ≤ low * 2 := by
  omega

structure Policy (ramPages requestedKib : ℕ) (s t : TcpSysctl) : Prop where
  ceiling : t.wmemMax = if requestedKib = 0 then s.wmemMax else requestedKib * 1024
  inRange : t.wmemMax < 2 ^ 31
  low_ge : s.low ≤ t.low
  pressure_ge : s.pressure ≤ t.pressure
  high_ge : s.high ≤ t.high
  low_le : t.low ≤ t.pressure
  pressure_le : t.pressure ≤ t.high
  capped : t.pressure ≤ max s.pressure (max 1 (ramPages / 8 : ℕ))
  kept : requestedKib = 0 ∨ (requestedKib * 1024 : ℤ) ≤ s.wmemMax →
    t.low = s.low ∧ t.pressure = s.pressure ∧ t.high = s.high

theorem Policy.raised (hram : 16 ≤ ramPages) (hs : Upstream s) (hne : requestedKib ≠ 0)
    (hlt : s.wmemMax < requestedKib * 1024) (htarget : (requestedKib : ℤ) * 1024 < 2 ^ 31) :
    Policy ramPages requestedKib s (configureTcpMem ramPages s.wmemMax (requestedKib * 1024)
      { s with wmemMax := requestedKib * 1024 }) := by
  have hwmem := hs.wmem_ge
  have hset : Upstream { s with wmemMax := requestedKib * 1024 } :=
    ⟨hs.low_nonneg, hs.low_le, hs.pressure_le, hs.high_lt, hwmem.trans hlt.le, htarget⟩
  obtain ⟨floor, hfloor, heq⟩ := configureTcpMem_exact hset hlt (by omega) htarget
  have hcap : floor ≤ max 1 (ramPages / 8) := hfloor ▸ Nat.min_le_right _ _
  have htwo : 2 ≤ floor := by omega
  rw [heq]
  obtain ⟨hlow, hle, hle', -, -, -⟩ := hs
  constructor
  case ceiling => exact (if_neg hne).symm
  case inRange => exact htarget
  case low_ge => exact Int.le_max_left _ _
  case pressure_ge => exact Int.le_max_left _ _
  case high_ge => exact Int.le_max_left _ _
  case low_le =>
    dsimp only
    omega
  case pressure_le =>
    have hpressure : (2 : ℤ) ≤ max s.pressure floor := by omega
    have hhigh := pressure_le_twice_low hpressure (Int.le_max_right s.low _)
    exact hhigh.trans (Int.le_max_right _ _)
  case capped =>
    dsimp only
    omega
  case kept =>
    intro hsmall
    omega

theorem configureTcpWmem_policy (hram : 16 ≤ ramPages) (hs : Upstream s)
    (hvalid : tcpWmemInvalid requestedKib = false) :
    Policy ramPages requestedKib s (configureTcpWmem ramPages requestedKib s) ∧
      configureTcpWmem ramPages requestedKib (configureTcpWmem ramPages requestedKib s) =
        configureTcpWmem ramPages requestedKib s := by
  by_cases hzero : requestedKib = 0
  · subst hzero
    rw [configureTcpWmem_zero, configureTcpWmem_zero]
    exact ⟨⟨rfl, hs.wmem_le, le_rfl, le_rfl, le_rfl, hs.low_le, hs.pressure_le,
      Int.le_max_left _ _, fun _ => ⟨rfl, rfl, rfl⟩⟩, rfl⟩
  · have htarget := (target_exact hvalid).2
    have hpolicy : Policy ramPages requestedKib s (configureTcpWmem ramPages requestedKib s) := by
      rw [configureTcpWmem_eq hzero hvalid]
      obtain hle | hlt := le_or_gt (requestedKib * 1024 : ℤ) s.wmemMax
      · rw [configureTcpMem_noop hle]
        exact ⟨(if_neg hzero).symm, htarget, le_rfl, le_rfl, le_rfl, hs.low_le, hs.pressure_le,
          Int.le_max_left _ _, fun _ => ⟨rfl, rfl, rfl⟩⟩
      · exact .raised hram hs hzero hlt htarget
    refine ⟨hpolicy, ?_⟩
    have hceiling := hpolicy.ceiling
    rw [if_neg hzero] at hceiling
    generalize configureTcpWmem ramPages requestedKib s = t at hceiling ⊢
    rw [configureTcpWmem_eq hzero hvalid, configureTcpMem_noop hceiling.ge, ← hceiling]

theorem configureTcpWmem_policy_sample :
    Policy 32768 8192 ⟨1500, 2000, 3000, 4194304⟩
      (configureTcpWmem 32768 8192 ⟨1500, 2000, 3000, 4194304⟩) ∧
    configureTcpWmem 32768 8192 ⟨1500, 2000, 3000, 4194304⟩ = ⟨3072, 4096, 6144, 8388608⟩ :=
  ⟨(configureTcpWmem_policy (by decide) ⟨by decide, by decide, by decide, by decide, by decide,
    by decide⟩ (by decide)).1, by decide⟩

end Tcpcc.Memory

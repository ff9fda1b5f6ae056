import Mathlib.Data.Nat.ModEq

/-!
# One's complement sums

Addition of numbers below `M` with the carry added at the low end. The sum is congruent to the
ordinary one modulo `M - 1`, and of the two zeros it is the lower one only if all summands are.
-/

namespace OnesComplement
variable {M a b : ℕ}

def add (M a b : ℕ) : ℕ := (a + b) % M + (a + b) / M

def sum (M : ℕ) (l : List ℕ) : ℕ := l.foldl (add M) 0

theorem add_lt (ha : a < M) (hb : b < M) : add M a b < M := by
  unfold add
  rcases Nat.lt_or_ge (a + b) M with h | h
  · rw [Nat.mod_eq_of_lt h, Nat.div_eq_of_lt h]
    exact h
  · have hdiv : (a + b) / M = 1 := Nat.div_eq_of_lt_le (by omega) (by omega)
    have hmod := Nat.div_add_mod (a + b) M
    rw [hdiv] at hmod ⊢
    omega

theorem add_modEq (hM : 0 < M) : add M a b ≡ a + b [MOD M - 1] := by
  have hone : M ≡ 1 [MOD M - 1] := by
    have h : 1 + (M - 1) ≡ 1 [MOD M - 1] := Nat.add_modEq_right
    rwa [Nat.add_sub_cancel' hM] at h
  have hsplit : (a + b) % M + M * ((a + b) / M) = a + b := Nat.mod_add_div _ _
  calc add M a b = (a + b) % M + 1 * ((a + b) / M) := by rw [add, Nat.one_mul]
    _ ≡ (a + b) % M + M * ((a + b) / M) [MOD M - 1] :=
        Nat.ModEq.add_left _ (hone.symm.mul_right _)
    _ = a + b := hsplit

theorem add_eq_zero : add M a b = 0 ↔ a + b = 0 := by
  refine ⟨fun h => ?_, fun h => by rw [add, h, Nat.zero_mod, Nat.zero_div]⟩
  obtain ⟨hmod, hdiv⟩ := Nat.add_eq_zero_iff.mp h
  rw [← Nat.mod_add_div (a + b) M, hmod, hdiv, Nat.mul_zero]

theorem foldl_add {l : List ℕ} (hM : 0 < M) (ha : a < M) (hl : ∀ x ∈ l, x < M) :
    l.foldl (add M) a < M ∧ l.foldl (add M) a ≡ a + l.sum [MOD M - 1] ∧
      (l.foldl (add M) a = 0 ↔ a + l.sum = 0) := by
  induction l generalizing a with
  | nil => exact ⟨ha, rfl, Iff.rfl⟩
  | cons x l ih =>
    obtain ⟨hx, hl⟩ := List.forall_mem_cons.mp hl
    obtain ⟨hlt, hmod, hzero⟩ := ih (add_lt ha hx) hl
    rw [List.foldl_cons, List.sum_cons, ← Nat.add_assoc]
    refine ⟨hlt, hmod.trans ((add_modEq hM).add_right _), hzero.trans ?_⟩
    rw [Nat.add_eq_zero_iff, add_eq_zero, ← Nat.add_eq_zero_iff]

theorem sum_lt {l : List ℕ} (hM : 0 < M) (hl : ∀ x ∈ l, x < M) : sum M l < M :=
  (foldl_add hM hM hl).1

theorem sum_eq_top_iff {l : List ℕ} (hM : 1 < M) (hl : ∀ x ∈ l, x < M) :
    sum M l = M - 1 ↔ M - 1 ∣ l.sum ∧ l.sum ≠ 0 := by
  obtain ⟨hlt, hmod, hzero⟩ := foldl_add (Nat.zero_lt_of_lt hM) (Nat.zero_lt_of_lt hM) hl
  rw [Nat.zero_add] at hmod hzero
  change sum M l ≡ l.sum [MOD M - 1] at hmod
  constructor
  · intro htop
    refine ⟨(Nat.modEq_zero_iff_dvd).mp (hmod.symm.trans ?_), fun hsum => ?_⟩
    · rw [htop]
      exact Nat.modEq_zero_iff_dvd.mpr dvd_rfl
    · have := hzero.mpr hsum
      change sum M l = 0 at this
      omega
  · rintro ⟨hdvd, hne⟩
    have hdvd' : M - 1 ∣ sum M l := Nat.modEq_zero_iff_dvd.mp
      (hmod.trans (Nat.modEq_zero_iff_dvd.mpr hdvd))
    have hpos : sum M l ≠ 0 := fun h => hne (hzero.mp h)
    have hle := Nat.le_of_dvd (Nat.pos_of_ne_zero hpos) hdvd'
    have hlt' : sum M l < M := hlt
    omega

end OnesComplement

import Mathlib.Data.List.Basic
import Mathlib.Tactic.Ring

/-!
# Streams of records of one size

`records n l` are the complete records of `n` elements that `l` begins with. A stream that is put
together from records, with less than a record behind them, has these records and no others.
Numbers are stored in a fixed number of bytes, the lowest first.
-/

namespace Records
variable {α : Type}

def records (n : ℕ) (l : List α) : List (List α) :=
  (List.range (l.length / n)).map fun i => (l.drop (n * i)).take n

theorem records_of_lt {n : ℕ} {l : List α} (h : l.length < n) : records n l = [] := by
  simp [records, Nat.div_eq_of_lt h]

theorem records_cons {n : ℕ} (hn : 0 < n) {r : List α} (hr : r.length = n) (l : List α) :
    records n (r ++ l) = r :: records n l := by
  have hcount : (r ++ l).length / n = l.length / n + 1 := by
    rw [List.length_append, hr, Nat.add_comm, Nat.add_div_right _ hn]
  unfold records
  rw [hcount, List.range_succ_eq_map, List.map_cons, List.map_map]
  refine List.cons_eq_cons.mpr ⟨?_, ?_⟩
  · simp [← hr]
  · refine List.map_congr_left fun i _ => ?_
    have hdrop : (r ++ l).drop (n * (i + 1)) = l.drop (n * i) := by
      have hle : r.length ≤ n * (i + 1) := by
        rw [hr]
        exact Nat.le_mul_of_pos_right n (Nat.succ_pos i)
      rw [List.drop_append, List.drop_eq_nil_of_le hle, List.nil_append, hr]
      congr 1
      rw [Nat.mul_succ]
      omega
    simp only [Function.comp_apply, Nat.succ_eq_add_one, hdrop]

theorem records_flatten {n : ℕ} (hn : 0 < n) {rs : List (List α)} (hrs : ∀ r ∈ rs, r.length = n)
    (l : List α) : records n (rs.flatten ++ l) = rs ++ records n l := by
  induction rs with
  | nil => rfl
  | cons r rs ih =>
    obtain ⟨hr, hrest⟩ := List.forall_mem_cons.mp hrs
    rw [List.flatten_cons, List.append_assoc, records_cons hn hr, ih hrest, List.cons_append]

theorem length_flatten_records {n : ℕ} {rs : List (List α)} (hrs : ∀ r ∈ rs, r.length = n) :
    rs.flatten.length = n * rs.length := by
  induction rs with
  | nil => rfl
  | cons r rs ih =>
    obtain ⟨hr, hrest⟩ := List.forall_mem_cons.mp hrs
    rw [List.flatten_cons, List.length_append, hr, ih hrest, List.length_cons]
    ring

/-! ## Numbers -/

def encodeLittle : ℕ → ℕ → List UInt8
  | 0, _ => []
  | width + 1, n => UInt8.ofNat (n % 256) :: encodeLittle width (n / 256)

def decodeLittle (bytes : List UInt8) : ℕ := bytes.foldr (fun b n => b.toNat + 256 * n) 0

@[simp] theorem length_encodeLittle (width n : ℕ) : (encodeLittle width n).length = width := by
  induction width generalizing n with
  | zero => rfl
  | succ width ih => simp [encodeLittle, ih]

theorem decodeLittle_lt (bytes : List UInt8) : decodeLittle bytes < 256 ^ bytes.length := by
  induction bytes with
  | nil => decide
  | cons b bytes ih =>
    have hb : b.toNat < 256 := UInt8.toNat_lt b
    have hcons : decodeLittle (b :: bytes) = b.toNat + 256 * decodeLittle bytes := rfl
    rw [hcons, List.length_cons, pow_succ]
    omega

theorem decode_encode (width n : ℕ) : decodeLittle (encodeLittle width n) = n % 256 ^ width := by
  induction width generalizing n with
  | zero => simp [encodeLittle, decodeLittle, Nat.mod_one]
  | succ width ih =>
    have hstep : decodeLittle (encodeLittle (width + 1) n) =
        n % 256 + 256 * decodeLittle (encodeLittle width (n / 256)) := by
      simp [encodeLittle, decodeLittle]
    rw [hstep, ih, pow_succ, Nat.mul_comm (256 ^ width), Nat.mod_mul]

end Records

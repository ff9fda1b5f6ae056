import Mathlib.Data.List.Basic

/-!
# Programs that read a buffer

A scan computes from the cells of a buffer, and it is kept which cells it reads. The rules say
when a scan stays below a bound.
-/

structure Scan (β α : Type) where
  value : (ℕ → β) → α
  offsets : (ℕ → β) → List ℕ

namespace Scan
variable {β α γ : Type}

instance : Monad (Scan β) where
  pure a := ⟨fun _ => a, fun _ => []⟩
  bind p k := ⟨fun b => (k (p.value b)).value b,
    fun b => p.offsets b ++ (k (p.value b)).offsets b⟩

def cell (i : ℕ) : Scan β β := ⟨fun b => b i, fun _ => [i]⟩

def cells : ℕ → ℕ → Scan β (List β)
  | _, 0 => pure []
  | i, n + 1 => do
    let c ← cell i
    let rest ← cells (i + 1) n
    pure (c :: rest)

variable {b : ℕ → β}

theorem value_cell (i : ℕ) : (cell i).value b = b i := rfl

theorem value_bind (p : Scan β α) (k : α → Scan β γ) :
    (p >>= k).value b = (k (p.value b)).value b := rfl

theorem value_cells (i n : ℕ) : (cells i n).value b = (List.range' i n).map b := by
  induction n generalizing i with
  | zero => rfl
  | succ n ih =>
    rw [List.range'_succ, List.map_cons, ← ih (i + 1)]
    rfl

def Below (n : ℕ) (p : Scan β α) (b : ℕ → β) : Prop := ∀ i ∈ p.offsets b, i < n

theorem below_pure (n : ℕ) (a : α) : Below n (pure a : Scan β α) b := nofun

theorem below_cell {n i : ℕ} (h : i < n) : Below n (cell i) b := by
  intro j hj
  rw [List.mem_singleton.mp hj]
  exact h

theorem Below.bind {n : ℕ} {p : Scan β α} {k : α → Scan β γ} (h : Below n p b)
    (hk : Below n (k (p.value b)) b) : Below n (p >>= k) b := by
  intro i hi
  rcases List.mem_append.mp hi with hi | hi
  · exact h i hi
  · exact hk i hi

theorem below_cells {i k n : ℕ} (h : i + k ≤ n) : Below n (cells i k) b := by
  induction k generalizing i with
  | zero => exact below_pure n _
  | succ k ih => exact (below_cell (by omega)).bind (Below.bind (ih (by omega)) (below_pure n _))

end Scan

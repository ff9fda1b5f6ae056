import Mathlib.Algebra.BigOperators.Group.Finset.Basic
import Mathlib.Data.List.Nodup
import Mathlib.Logic.Function.Basic

/-!
# Queues with a membership flag

A kernel list is walked through nodes that its members carry, and a member says by a
flag whether its node is on the list. `Listed` is the agreement of the two: the list
holds each flagged element once and no other. The operations are those of a queue that
tests and sets the flag as it links and unlinks. The last lemma keeps a sum over a table
up to date when one entry of the table changes.
-/

namespace FlaggedList
variable {α : Type}

theorem forall_of_ne {p q : α → Prop} (x : α) (h : ∀ y, p y) (hne : ∀ y, y ≠ x → (q y ↔ p y))
    (hx : q x) (y : α) : q y := by
  by_cases hy : y = x
  · exact hy ▸ hx
  · exact (hne y hy).mpr (h y)

structure Listed (l : List α) (flag : α → Bool) : Prop where
  nodup : l.Nodup
  mem : ∀ x, x ∈ l ↔ flag x = true

variable {l : List α} {flag : α → Bool} {x : α}

theorem nil : Listed ([] : List α) fun _ => false :=
  ⟨List.nodup_nil, fun x => by simp⟩

theorem Listed.not_mem (h : Listed l flag) : x ∉ l ↔ flag x = false := by
  rw [h.mem, Bool.not_eq_true]

theorem Listed.eq_nil_iff (h : Listed l flag) : l = [] ↔ ∀ x, flag x = false := by
  rw [List.eq_nil_iff_forall_not_mem]
  exact forall_congr' fun x => h.not_mem

variable [DecidableEq α]

theorem Listed.append (h : Listed l flag) (hx : flag x = false) :
    Listed (l ++ [x]) (Function.update flag x true) where
  nodup := by
    have hnot : x ∉ l := h.not_mem.mpr hx
    rw [List.nodup_append]
    refine ⟨h.nodup, List.nodup_singleton x, ?_⟩
    intro a ha b hb hab
    rw [List.mem_singleton] at hb
    exact hnot (hb ▸ hab ▸ ha)
  mem y := by
    by_cases hy : y = x
    · simp [hy]
    · simp [hy, h.mem]

theorem Listed.push (h : Listed l flag) (x : α) :
    Listed (if flag x then l else l ++ [x]) (Function.update flag x true) := by
  cases hx : flag x with
  | true =>
    have hself : Function.update flag x true = flag := by rw [← hx, Function.update_eq_self]
    simpa [hself] using h
  | false => simpa using h.append hx

theorem Listed.tail (h : Listed (x :: l) flag) : Listed l (Function.update flag x false) where
  nodup := h.nodup.of_cons
  mem y := by
    have hnot : x ∉ l := (List.nodup_cons.mp h.nodup).1
    by_cases hy : y = x
    · simp [hy, hnot]
    · simp [hy, ← h.mem]

theorem Listed.erase (h : Listed l flag) (x : α) :
    Listed (l.erase x) (Function.update flag x false) where
  nodup := h.nodup.erase x
  mem y := by
    rw [h.nodup.mem_erase_iff, h.mem]
    by_cases hy : y = x <;> simp [hy]

theorem Listed.remove (h : Listed l flag) (x : α) :
    Listed (if flag x then l.erase x else l) (Function.update flag x false) := by
  have herase := h.erase x
  cases hx : flag x with
  | true => simpa using herase
  | false => simpa [List.erase_of_not_mem (h.not_mem.mpr hx)] using herase

theorem sum_update {β : Type} (weight : β → ℕ) (table : α → β) (S : Finset α) (hx : x ∈ S)
    (v : β) : ∑ y ∈ S, weight (Function.update table x v y) + weight (table x) =
      ∑ y ∈ S, weight (table y) + weight v := by
  have hrest : ∑ y ∈ S.erase x, weight (Function.update table x v y) =
      ∑ y ∈ S.erase x, weight (table y) := by
    refine Finset.sum_congr rfl fun y hy => ?_
    rw [Function.update_of_ne (Finset.ne_of_mem_erase hy)]
  rw [← Finset.sum_erase_add S _ hx, ← Finset.sum_erase_add S (fun y => weight (table y)) hx,
    hrest, Function.update_self]
  omega

end FlaggedList

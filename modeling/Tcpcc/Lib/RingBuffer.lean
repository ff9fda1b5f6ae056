import Mathlib.Data.List.Basic
import Mathlib.Data.Nat.ModEq

/-!
# Ring buffers

A buffer of a fixed number of slots, written at the tail and read at the head, with a count of the
slots in use. What it holds is a queue: what is pushed comes behind it and what is popped was its
first element.
-/

structure RingBuffer (α : Type*) (size : ℕ) where
  slots : ℕ → α
  head : ℕ
  tail : ℕ
  count : ℕ

namespace RingBuffer
variable {α : Type*} {size : ℕ}

def push (a : α) (r : RingBuffer α size) : RingBuffer α size :=
  { r with
    slots := Function.update r.slots r.tail a
    tail := (r.tail + 1) % size
    count := r.count + 1 }

def front (r : RingBuffer α size) : α := r.slots r.head

def pop (r : RingBuffer α size) : RingBuffer α size :=
  { r with
    head := (r.head + 1) % size
    count := r.count - 1 }

def contents (r : RingBuffer α size) : List α :=
  (List.range r.count).map fun i => r.slots ((r.head + i) % size)

structure WellFormed (r : RingBuffer α size) : Prop where
  head_lt : r.head < size
  count_le : r.count ≤ size
  tail_eq : r.tail = (r.head + r.count) % size

variable {r : RingBuffer α size}

theorem length_contents (r : RingBuffer α size) : r.contents.length = r.count := by
  rw [contents, List.length_map, List.length_range]

namespace WellFormed

theorem tail_lt (h : r.WellFormed) : r.tail < size := by
  rw [h.tail_eq]
  exact Nat.mod_lt _ (Nat.zero_lt_of_lt h.head_lt)

theorem push (h : r.WellFormed) (hroom : r.count < size) (a : α) : (r.push a).WellFormed where
  head_lt := h.head_lt
  count_le := hroom
  tail_eq := by
    show (r.tail + 1) % size = (r.head + (r.count + 1)) % size
    rw [h.tail_eq, Nat.mod_add_mod, Nat.add_assoc]

theorem pop (h : r.WellFormed) (hne : r.count ≠ 0) : r.pop.WellFormed where
  head_lt := Nat.mod_lt _ (Nat.zero_lt_of_lt h.head_lt)
  count_le := (Nat.sub_le _ _).trans h.count_le
  tail_eq := by
    show r.tail = ((r.head + 1) % size + (r.count - 1)) % size
    have hcount : r.head + 1 + (r.count - 1) = r.head + r.count := by omega
    rw [Nat.mod_add_mod, hcount, h.tail_eq]

theorem slot_ne_tail (h : r.WellFormed) (hroom : r.count < size) {i : ℕ} (hi : i < r.count) :
    (r.head + i) % size ≠ r.tail := by
  rw [h.tail_eq]
  intro heq
  have hmod : r.head + i ≡ r.head + r.count [MOD size] := heq
  have hcancel : i ≡ r.count [MOD size] := Nat.ModEq.add_left_cancel' r.head hmod
  have hsame := Nat.ModEq.eq_of_lt_of_lt hcancel (hi.trans hroom) hroom
  omega

theorem contents_push (h : r.WellFormed) (hroom : r.count < size) (a : α) :
    (r.push a).contents = r.contents ++ [a] := by
  have hlast : ((r.push a).slots ((r.head + r.count) % size)) = a := by
    rw [← h.tail_eq]
    exact Function.update_self _ _ _
  have hother : ∀ i ∈ List.range r.count,
      (r.push a).slots ((r.head + i) % size) = r.slots ((r.head + i) % size) := fun i hi =>
    Function.update_of_ne (h.slot_ne_tail hroom (List.mem_range.mp hi)) _ _
  show ((List.range (r.count + 1)).map fun i => (r.push a).slots ((r.head + i) % size)) = _
  rw [List.range_succ, List.map_append, List.map_congr_left hother, List.map_singleton, hlast]
  rfl

end WellFormed

theorem contents_eq_cons (hlt : r.head < size) (hne : r.count ≠ 0) :
    r.contents = r.front :: r.pop.contents := by
  obtain ⟨n, hn⟩ := Nat.exists_eq_succ_of_ne_zero hne
  have hpop : r.pop.contents =
      (List.range n).map fun i => r.slots (((r.head + 1) % size + i) % size) := by
    simp only [contents, pop, hn, Nat.succ_eq_add_one, Nat.add_sub_cancel]
  have hshift : ∀ i ∈ List.range n,
      r.slots ((r.head + (i + 1)) % size) = r.slots (((r.head + 1) % size + i) % size) := by
    intro i _
    rw [Nat.mod_add_mod, Nat.add_assoc, Nat.add_comm 1 i]
  rw [hpop, contents, hn, Nat.succ_eq_add_one, List.range_succ_eq_map, List.map_cons, List.map_map,
    Nat.add_zero, Nat.mod_eq_of_lt hlt, front]
  exact congrArg _ (List.map_congr_left hshift)

end RingBuffer

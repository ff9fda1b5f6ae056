import Mathlib.Data.List.Pairwise
import Mathlib.Data.Nat.Basic
import Mathlib.Tactic.Ring

/-!
# Extents of an address space

An extent is cut into blocks of one size. Extents that lie one behind the other have their blocks
in strictly increasing order.
-/

structure Extent where
  start : ℕ
  length : ℕ
  deriving DecidableEq, Repr

namespace Extent

def stop (e : Extent) : ℕ := e.start + e.length

/-- The first addresses of the blocks of size `B`. -/
def blocks (B : ℕ) (e : Extent) : List ℕ := (List.range (e.length / B)).map fun k => e.start + B * k

def Before (e f : Extent) : Prop := e.stop ≤ f.start

variable {B : ℕ} {e : Extent} {es : List Extent}

theorem blocks_zero (start : ℕ) : blocks B ⟨start, 0⟩ = [] := by
  simp only [blocks, Nat.zero_div, List.range_zero, List.map_nil]

theorem blocks_split {start n m : ℕ} (hB : 0 < B) (hn : B ∣ n) :
    blocks B ⟨start, n + m⟩ = blocks B ⟨start, n⟩ ++ blocks B ⟨start + n, m⟩ := by
  obtain ⟨k, rfl⟩ := hn
  have hdiv : (B * k + m) / B = k + m / B := by
    rw [Nat.add_comm, Nat.add_mul_div_left m k hB, Nat.add_comm]
  simp only [blocks, hdiv, Nat.mul_div_cancel_left k hB, List.range_add, List.map_append,
    List.map_map]
  congr 1
  refine List.map_congr_left fun j _ => ?_
  simp only [Function.comp_apply]
  ring

theorem mem_blocks {x : ℕ} (hx : x ∈ e.blocks B) : e.start ≤ x ∧ x < e.stop := by
  obtain ⟨k, hk, rfl⟩ := List.mem_map.mp hx
  have hlt : k + 1 ≤ e.length / B := List.mem_range.mp hk
  have hB : 0 < B := by
    refine Nat.pos_of_ne_zero fun hzero => ?_
    rw [hzero, Nat.div_zero] at hlt
    omega
  have hmul : B * (k + 1) ≤ e.length := by
    rw [Nat.mul_comm]
    exact (Nat.le_div_iff_mul_le hB).mp hlt
  rw [Nat.mul_succ] at hmul
  simp only [stop]
  omega

theorem blocks_increasing (hB : 0 < B) (e : Extent) : (e.blocks B).Pairwise (· < ·) := by
  refine List.pairwise_map.mpr (List.pairwise_lt_range.imp fun hab => ?_)
  exact Nat.add_lt_add_left (Nat.mul_lt_mul_of_pos_left hab hB) _

theorem flatMap_blocks_increasing (hB : 0 < B) (h : es.Pairwise Before) :
    (es.flatMap (blocks B)).Pairwise (· < ·) := by
  induction es with
  | nil => exact List.Pairwise.nil
  | cons e es ih =>
    obtain ⟨he, hes⟩ := List.pairwise_cons.mp h
    rw [List.flatMap_cons, List.pairwise_append]
    refine ⟨blocks_increasing hB e, ih hes, ?_⟩
    intro x hx y hy
    obtain ⟨f, hf, hyf⟩ := List.mem_flatMap.mp hy
    have hbefore : e.stop ≤ f.start := he f hf
    exact lt_of_lt_of_le (mem_blocks hx).2 (hbefore.trans (mem_blocks hyf).1)

theorem before_of_sorted (hsorted : es.Pairwise fun e f => e.start ≤ f.start)
    (hdisjoint : es.Pairwise fun e f => Before e f ∨ Before f e)
    (hpos : ∀ e ∈ es, 0 < e.length) : es.Pairwise Before := by
  refine (hsorted.and hdisjoint).imp_of_mem fun {e f} he hf hef => ?_
  obtain ⟨hle, hbefore | hafter⟩ := hef
  · exact hbefore
  · have hlt := hpos f hf
    simp only [Before, stop] at hafter ⊢
    omega

end Extent

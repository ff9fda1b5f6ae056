import Mathlib.Data.List.Basic

/-!
# Runs of a machine with partial steps

A machine is a function that takes a state and an event to the next state, or refuses the event.
What every step preserves holds after every run, and what the steps that meet a condition
preserve holds after every run in which each step meets it.
-/

namespace Machine
variable {S E : Type*}

def run (step : S → E → Option S) (s : S) : List E → Option S
  | [] => some s
  | e :: es => (step s e).bind fun t => run step t es

variable {step : S → E → Option S} {s t : S}

theorem run_cons {e : E} {es : List E} :
    run step s (e :: es) = some t ↔ ∃ u, step s e = some u ∧ run step u es = some t := by
  simp only [run, Option.bind_eq_some_iff]

theorem run_append_bind (es fs : List E) :
    run step s (es ++ fs) = (run step s es).bind fun t => run step t fs := by
  induction es generalizing s with
  | nil => rfl
  | cons e es ih => simp only [List.cons_append, run, Option.bind_assoc, ih]

theorem run_append {es fs : List E} :
    run step s (es ++ fs) = some t ↔ ∃ u, run step s es = some u ∧ run step u fs = some t := by
  rw [run_append_bind, Option.bind_eq_some_iff]

theorem run_trans {u : S} {es fs : List E} (h : run step s es = some u)
    (h' : run step u fs = some t) : run step s (es ++ fs) = some t :=
  run_append.mpr ⟨u, h, h'⟩

theorem run_invariant {I : S → Prop} (hstep : ∀ s e t, I s → step s e = some t → I t)
    {es : List E} (hs : I s) (h : run step s es = some t) : I t := by
  induction es generalizing s with
  | nil =>
    cases h
    exact hs
  | cons e es ih =>
    obtain ⟨u, hu, ht⟩ := run_cons.mp h
    exact ih (hstep s e u hs hu) ht

def meets (step : S → E → Option S) (C : S → E → Bool) (s : S) : List E → Bool
  | [] => true
  | e :: es =>
    C s e && match step s e with
      | some t => meets step C t es
      | none => true

theorem meets_cons {C : S → E → Bool} {e : E} {es : List E} (hstep : step s e = some t) :
    meets step C s (e :: es) = true ↔ C s e = true ∧ meets step C t es = true := by
  simp only [meets, hstep, Bool.and_eq_true]

theorem run_invariant_meets {I : S → Prop} {C : S → E → Bool}
    (hstep : ∀ s e t, I s → C s e = true → step s e = some t → I t) {es : List E} (hs : I s)
    (h : run step s es = some t) (hmeets : meets step C s es = true) : I t := by
  induction es generalizing s with
  | nil =>
    cases h
    exact hs
  | cons e es ih =>
    obtain ⟨u, hu, ht⟩ := run_cons.mp h
    obtain ⟨he, hes⟩ := (meets_cons hu).mp hmeets
    exact ih (hstep s e u hs he hu) ht hes

/-! ## Reordering

Events carry keys. If steps with different keys commute, a run depends only on the events of each
key, in their order. -/

section
variable {κ : Type*} {key : E → κ}
  (hcomm : ∀ s e f, key e ≠ key f →
    (step s e).bind (fun t => step t f) = (step s f).bind fun t => step t e)
include hcomm

theorem run_move_front {e : E} {es : List E} (hes : ∀ f ∈ es, key f ≠ key e) (fs : List E) (s : S) :
    run step s (es ++ e :: fs) = run step s (e :: (es ++ fs)) := by
  induction es generalizing s with
  | nil => rfl
  | cons f es ih =>
    obtain ⟨hf, hes⟩ := List.forall_mem_cons.mp hes
    have hswap := hcomm s f e hf
    simp only [List.cons_append, run, ih hes]
    rw [← Option.bind_assoc, hswap, Option.bind_assoc]

theorem run_eq_of_filter_eq [DecidableEq κ] {es fs : List E}
    (h : ∀ k, es.filter (fun e => key e = k) = fs.filter fun e => key e = k) (s : S) :
    run step s es = run step s fs := by
  induction fs generalizing es s with
  | nil =>
    have hnil : es = [] := by
      refine List.eq_nil_iff_forall_not_mem.mpr fun e he => ?_
      have hmem : e ∈ es.filter fun f => key f = key e := by simp [he]
      rw [h (key e)] at hmem
      cases hmem
    rw [hnil]
  | cons f fs ih =>
    have hfront := h (key f)
    rw [List.filter_cons_of_pos (by simp), List.filter_eq_cons_iff] at hfront
    obtain ⟨front, back, rfl, hother, -, hback⟩ := hfront
    have hother : ∀ e ∈ front, key e ≠ key f := fun e he => by simpa using hother e he
    rw [run_move_front hcomm hother]
    have hrest : ∀ k, (front ++ back).filter (fun e => key e = k) =
        fs.filter fun e => key e = k := by
      intro k
      have hk := h k
      rw [List.filter_append] at hk ⊢
      by_cases hkf : key f = k
      · have hnone : front.filter (fun e => key e = k) = [] := by
          rw [List.filter_eq_nil_iff]
          intro e he
          simpa [← hkf] using hother e he
        rw [hnone, List.nil_append, ← hkf]
        exact hback
      · simpa [hkf] using hk
    simp only [run]
    cases step s f with
    | none => rfl
    | some t => exact ih hrest t

theorem run_by_keys [DecidableEq κ] {keys : List κ} (hnodup : keys.Nodup) {es : List E}
    (hkeys : ∀ e ∈ es, key e ∈ keys) (s : S) :
    run step s es = run step s (keys.flatMap fun k => es.filter fun e => key e = k) := by
  refine run_eq_of_filter_eq hcomm (fun k => ?_) s
  have hpieces : ∀ keys : List κ, keys.Nodup →
      (keys.flatMap fun k' => es.filter fun e => key e = k').filter (fun e => key e = k) =
        if k ∈ keys then es.filter (fun e => key e = k) else [] := by
    intro keys hnodup
    induction keys with
    | nil => rfl
    | cons k' keys ih =>
      obtain ⟨hk', hnodup⟩ := List.nodup_cons.mp hnodup
      rw [List.flatMap_cons, List.filter_append, ih hnodup, List.filter_filter]
      by_cases hkk : k = k'
      · subst hkk
        simp [hk']
      · have hnone : (es.filter fun e => decide (key e = k) && decide (key e = k')) = [] := by
          rw [List.filter_eq_nil_iff]
          intro e _ hboth
          simp only [Bool.and_eq_true, decide_eq_true_eq] at hboth
          exact hkk (hboth.1.symm.trans hboth.2)
        rw [hnone, List.nil_append]
        simp [hkk]
  rw [hpieces keys hnodup]
  split
  case isTrue => rfl
  case isFalse hk =>
    rw [List.filter_eq_nil_iff]
    intro e he heq
    have heq : key e = k := by simpa using heq
    exact hk (heq ▸ hkeys e he)

end

end Machine

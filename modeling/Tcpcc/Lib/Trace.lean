import Mathlib.Data.List.Induction

/-!
# Properties of traces

A condition on the entries of a trace, each with what stands before it.
-/

namespace Trace

variable {α β : Type} {P : List α → α → Prop} {l k : List α} {a : α}

def Always (P : List α → α → Prop) (l : List α) : Prop :=
  ∀ before a after, l = before ++ a :: after → P before a

theorem always_nil : Always P [] := by
  intro before a after h
  simp at h

theorem always_append :
    Always P (l ++ k) ↔ Always P l ∧ Always (fun before => P (l ++ before)) k := by
  constructor
  · intro h
    constructor
    · rintro before a after rfl
      exact h before a (after ++ k) (by simp)
    · rintro before a after rfl
      exact h (l ++ before) a after (by simp)
  · rintro ⟨hl, hk⟩ before a after h
    rcases List.append_eq_append_iff.mp h with ⟨middle, rfl, hsplit⟩ | ⟨middle, hsplit, rest⟩
    · exact hk middle a after hsplit
    · rcases middle with _ | ⟨b, middle⟩
      · obtain rfl : before = l := by simpa using hsplit.symm
        have hhead := hk [] a after (by simpa using rest.symm)
        simpa using hhead
      · obtain ⟨rfl, -⟩ := List.cons.inj rest
        exact hl before a middle hsplit

theorem always_singleton : Always P [a] ↔ P [] a := by
  constructor
  · intro h
    exact h [] a [] rfl
  · intro h before b after heq
    rcases before with _ | ⟨c, before⟩
    · obtain ⟨rfl, -⟩ := List.cons.inj heq
      exact h
    · simp at heq

theorem always_concat : Always P (l ++ [a]) ↔ Always P l ∧ P l a := by
  rw [always_append, always_singleton, List.append_nil]

end Trace

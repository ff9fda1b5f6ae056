import Mathlib.Logic.ExistsUnique

/-!
# Linear ownership

Things that come into being, pass from owner to owner and are disposed of. `Linear` says
that the things at hand are exactly those that are owned, each by one owner. The rules
follow a thing through its life: it is gained by an owner, transferred to another one,
and lost.
-/

namespace Ownership
variable {ω κ : Type}

structure Linear (owns : ω → κ → Prop) (live : κ → Prop) : Prop where
  unique : ∀ {o o' k}, owns o k → owns o' k → o = o'
  live_iff : ∀ k, live k ↔ ∃ o, owns o k

variable {owns owns' : ω → κ → Prop} {live live' : κ → Prop} {o p q : ω} {k : κ}

namespace Linear

theorem isLive (h : Linear owns live) (hk : owns o k) : live k := (h.live_iff k).mpr ⟨o, hk⟩

theorem congr (h : Linear owns live) (howns : ∀ o k, owns' o k ↔ owns o k)
    (hlive : ∀ k, live' k ↔ live k) : Linear owns' live' where
  unique ho hp := h.unique ((howns _ _).mp ho) ((howns _ _).mp hp)
  live_iff k := by simp only [hlive, howns, h.live_iff]

theorem gain (h : Linear owns live) (hnew : ¬ live k) (hp : ∀ j, owns' p j ↔ j = k ∨ owns p j)
    (hother : ∀ o, o ≠ p → ∀ j, owns' o j ↔ owns o j) (hlive : ∀ j, live' j ↔ j = k ∨ live j) :
    Linear owns' live' := by
  have howns : ∀ o j, owns' o j ↔ j = k ∧ o = p ∨ owns o j := by
    intro o j
    by_cases ho : o = p
    · subst ho
      simp [hp]
    · simp [hother o ho, ho]
  refine ⟨fun {o o' j} ho ho' => ?_, fun j => ?_⟩
  · rcases (howns o j).mp ho with ⟨rfl, rfl⟩ | ho
    · rcases (howns o' j).mp ho' with ⟨-, rfl⟩ | ho'
      · rfl
      · exact absurd (h.isLive ho') hnew
    · rcases (howns o' j).mp ho' with ⟨rfl, -⟩ | ho'
      · exact absurd (h.isLive ho) hnew
      · exact h.unique ho ho'
  · rw [hlive, h.live_iff]
    constructor
    · rintro (rfl | ⟨o, ho⟩)
      · exact ⟨p, (howns _ _).mpr (.inl ⟨rfl, rfl⟩)⟩
      · exact ⟨o, (howns _ _).mpr (.inr ho)⟩
    · rintro ⟨o, ho⟩
      rcases (howns o j).mp ho with ⟨rfl, -⟩ | ho
      · exact .inl rfl
      · exact .inr ⟨o, ho⟩

theorem lose (h : Linear owns live) (hk : owns p k) (hp : ∀ j, owns' p j ↔ j ≠ k ∧ owns p j)
    (hother : ∀ o, o ≠ p → ∀ j, owns' o j ↔ owns o j) (hlive : ∀ j, live' j ↔ j ≠ k ∧ live j) :
    Linear owns' live' := by
  have howns : ∀ o j, owns' o j ↔ j ≠ k ∧ owns o j := by
    intro o j
    by_cases ho : o = p
    · subst ho
      exact hp j
    · rw [hother o ho]
      refine ⟨fun hj => ⟨?_, hj⟩, And.right⟩
      rintro rfl
      exact ho (h.unique hj hk)
  refine ⟨fun ho hp => h.unique ((howns _ _).mp ho).2 ((howns _ _).mp hp).2, fun j => ?_⟩
  rw [hlive, h.live_iff]
  simp only [howns, exists_and_left]

theorem transfer (h : Linear owns live) (hk : owns p k) (hne : p ≠ q)
    (hp : ∀ j, owns' p j ↔ j ≠ k ∧ owns p j) (hq : ∀ j, owns' q j ↔ j = k ∨ owns q j)
    (hother : ∀ o, o ≠ p → o ≠ q → ∀ j, owns' o j ↔ owns o j) (hlive : ∀ j, live' j ↔ live j) :
    Linear owns' live' := by
  have hstays : ∀ o, o ≠ p → ∀ j, owns o j ↔ j ≠ k ∧ owns o j := by
    intro o ho j
    refine ⟨fun hj => ⟨?_, hj⟩, And.right⟩
    rintro rfl
    exact ho (h.unique hj hk)
  have hlost : Linear (fun o j => j ≠ k ∧ owns o j) fun j => j ≠ k ∧ live j :=
    h.lose hk (fun _ => Iff.rfl) (fun o ho j => (hstays o ho j).symm) fun _ => Iff.rfl
  refine hlost.gain (k := k) (p := q) (fun hlive => hlive.1 rfl) (fun j => ?_) (fun o ho j => ?_)
    fun j => ?_
  · exact (hq j).trans (or_congr_right (hstays q hne.symm j))
  · by_cases hop : o = p
    · rw [hop, hp]
    · exact (hother o hop ho j).trans (hstays o hop j)
  · rw [hlive]
    constructor
    · intro hj
      by_cases hjk : j = k
      · exact .inl hjk
      · exact .inr ⟨hjk, hj⟩
    · rintro (rfl | ⟨-, hj⟩)
      · exact h.isLive hk
      · exact hj

end Linear
end Ownership

import Mathlib.Data.Int.Basic
import Mathlib.Data.List.Nodup
import Mathlib.Logic.Function.Basic

/-!
# Taking turns

A queue is served from its head; whoever has been served joins it again at its end, once, and
may also have joined it again while it was being served. Two members that always have work are
served alternately: `lead` says how far the first is ahead by the positions of the two alone,
so that it accounts for every difference between the numbers of their turns.
-/

namespace RoundRobin
variable {α : Type}

structure Turns (α : Type) where
  waiting : List α
  turn : Option α
  served : α → ℕ

/-- What may happen while `a` and `b` have work: they are not passed over. -/
inductive Step [DecidableEq α] (a b : α) (q q' : Turns α) : Prop
  | same (hwait : q'.waiting = q.waiting) (hturn : q'.turn = q.turn)
      (hserved : q'.served = q.served)
  | join (x : α) (hnew : x ∉ q.waiting) (hwait : q'.waiting = q.waiting ++ [x])
      (hturn : q'.turn = q.turn) (hserved : q'.served = q.served)
  | take (x : α) (hnone : q.turn = none) (hwait : q.waiting = x :: q'.waiting)
      (hturn : q'.turn = some x) (hserved : q'.served = q.served)
  | pass (x : α) (ha : x ≠ a) (hb : x ≠ b) (hturn : q.turn = some x) (hnone : q'.turn = none)
      (hwait : q'.waiting = q.waiting) (hserved : q'.served = q.served)
  | serve (x : α) (hturn : q.turn = some x) (hnone : q'.turn = none)
      (hwait : q'.waiting = if x ∈ q.waiting then q.waiting else q.waiting ++ [x])
      (hserved : q'.served = Function.update q.served x (q.served x + 1))
  | leave (x : α) (ha : x ≠ a) (hb : x ≠ b) (hwait : q'.waiting = q.waiting.erase x)
      (hturn : q'.turn = q.turn) (hserved : q'.served = q.served)

variable {a b x : α} {l : List α} {q q' : Turns α}

structure Engaged (a b : α) (q : Turns α) : Prop where
  nodup : q.waiting.Nodup
  first : a ∈ q.waiting ∨ q.turn = some a
  second : b ∈ q.waiting ∨ q.turn = some b

theorem Engaged.symm (h : Engaged a b q) : Engaged b a q := ⟨h.nodup, h.second, h.first⟩

theorem Engaged.other (h : Engaged a b q) (hab : a ≠ b) (ha : q.turn = some a) :
    b ∈ q.waiting := by
  refine h.second.resolve_right fun hb => hab ?_
  simpa [ha] using hb

variable [DecidableEq α]

def order (a b : α) (l : List α) : List α := l.filter fun x => x = a ∨ x = b

theorem order_append_self (ha : x = a ∨ x = b) : order a b (l ++ [x]) = order a b l ++ [x] := by
  simp [order, ha]

theorem order_append_other (ha : x ≠ a) (hb : x ≠ b) :
    order a b (l ++ [x]) = order a b l := by
  simp [order, ha, hb]

theorem order_cons_self (ha : x = a ∨ x = b) : order a b (x :: l) = x :: order a b l := by
  simp [order, ha]

theorem order_cons_other (ha : x ≠ a) (hb : x ≠ b) : order a b (x :: l) = order a b l := by
  simp [order, ha, hb]

theorem order_erase (ha : x ≠ a) (hb : x ≠ b) : order a b (l.erase x) = order a b l := by
  induction l with
  | nil => rfl
  | cons y l ih =>
    by_cases hy : y = x
    · subst hy
      rw [List.erase_cons_head, order_cons_other ha hb]
    · rw [List.erase_cons_tail (by simpa using hy)]
      by_cases hself : y = a ∨ y = b
      · rw [order_cons_self hself, order_cons_self hself, ih]
      · rw [not_or] at hself
        rw [order_cons_other hself.1 hself.2, order_cons_other hself.1 hself.2, ih]

theorem order_comm : order b a l = order a b l := by
  unfold order
  congr 1
  funext x
  simp only [or_comm]

theorem order_none (ha : a ∉ l) (hb : b ∉ l) : order a b l = [] := by
  rw [order, List.filter_eq_nil_iff]
  intro x hx
  simp only [decide_eq_true_eq, not_or]
  exact ⟨fun he => ha (he ▸ hx), fun he => hb (he ▸ hx)⟩

theorem order_one (hl : l.Nodup) (ha : a ∉ l) (hb : b ∈ l) : order a b l = [b] := by
  induction l with
  | nil => cases hb
  | cons y l ih =>
    obtain ⟨hy, hl⟩ := List.nodup_cons.mp hl
    have hal : a ∉ l := fun h => ha (List.mem_cons_of_mem _ h)
    rcases List.mem_cons.mp hb with rfl | hbl
    · rw [order_cons_self (.inr rfl), order_none hal hy]
    · have hya : y ≠ a := fun he => ha (he ▸ List.mem_cons_self ..)
      have hyb : y ≠ b := fun he => hy (he ▸ hbl)
      rw [order_cons_other hya hyb, ih hl hal hbl]

theorem order_both (hl : l.Nodup) (hab : a ≠ b) (ha : a ∈ l) (hb : b ∈ l) :
    order a b l = [a, b] ∨ order a b l = [b, a] := by
  induction l with
  | nil => cases ha
  | cons y l ih =>
    obtain ⟨hy, hl⟩ := List.nodup_cons.mp hl
    by_cases hya : y = a
    · subst hya
      have hbl : b ∈ l := (List.mem_cons.mp hb).resolve_left (Ne.symm hab)
      exact .inl (by rw [order_cons_self (.inl rfl), order_one hl hy hbl])
    · have hal : a ∈ l := (List.mem_cons.mp ha).resolve_left (Ne.symm hya)
      by_cases hyb : y = b
      · subst hyb
        exact .inr (by rw [order_cons_self (.inr rfl), ← order_comm, order_one hl hy hal])
      · have hbl : b ∈ l := (List.mem_cons.mp hb).resolve_left (Ne.symm hyb)
        rw [order_cons_other hya hyb]
        exact ih hl hal hbl

theorem Engaged.joined (h : Engaged a b q) (hab : a ≠ b) (hnot : a ∉ q.waiting) :
    q.turn = some a ∧ order a b q.waiting = [b] := by
  have hturn := h.first.resolve_left hnot
  exact ⟨hturn, order_one h.nodup hnot (h.other hab hturn)⟩

theorem Step.symm (h : Step a b q q') : Step b a q q' := by
  cases h with
  | same hwait hturn hserved => exact .same hwait hturn hserved
  | join x hnew hwait hturn hserved => exact .join x hnew hwait hturn hserved
  | take x hnone hwait hturn hserved => exact .take x hnone hwait hturn hserved
  | pass x ha hb hturn hnone hwait hserved => exact .pass x hb ha hturn hnone hwait hserved
  | serve x hturn hnone hwait hserved => exact .serve x hturn hnone hwait hserved
  | leave x ha hb hwait hturn hserved => exact .leave x hb ha hwait hturn hserved

/-- `a` is being served and waits again ahead of `b`: it will have two turns in a row. -/
def Ahead (a b : α) (q : Turns α) : Prop :=
  q.turn = some a ∧ order a b q.waiting = [a, b]

theorem Step.ahead (h : Step a b q q') (hab : a ≠ b) (hq : Engaged a b q)
    (hahead : Ahead a b q') : Ahead a b q := by
  obtain ⟨hturn', horder'⟩ := hahead
  cases h with
  | same hwait hturn hserved => exact ⟨hturn ▸ hturn', hwait ▸ horder'⟩
  | join x hnew hwait hturn hserved =>
    have hself : q.turn = some a := hturn ▸ hturn'
    rw [hwait] at horder'
    by_cases hxa : x = a
    · subst hxa
      rw [order_append_self (.inl rfl), (hq.joined hab hnew).2] at horder'
      simp [Ne.symm hab] at horder'
    · have hxb : x ≠ b := fun he => hnew (he ▸ hq.other hab hself)
      rw [order_append_other hxa hxb] at horder'
      exact ⟨hself, horder'⟩
  | take x hnone hwait hturn hserved =>
    have hxa : x = a := by simpa [hturn] using hturn'
    subst hxa
    have hnot : x ∉ q'.waiting := by
      have hnodup := hq.nodup
      rw [hwait] at hnodup
      exact (List.nodup_cons.mp hnodup).1
    have hmem : x ∈ order x b q'.waiting := by simp [horder']
    exact absurd (List.mem_filter.mp hmem).1 hnot
  | pass x ha hb hturn hnone hwait hserved => simp [hnone] at hturn'
  | serve x hturn hnone hwait hserved => simp [hnone] at hturn'
  | leave x ha hb hwait hturn hserved =>
    rw [hwait, order_erase ha hb] at horder'
    exact ⟨hturn ▸ hturn', horder'⟩

/-- How many turns `a` is ahead of `b`, counted from a state in which both wait and `a` is
next. -/
def lead (a b : α) (q : Turns α) : ℤ :=
  if q.turn = some a then if order a b q.waiting = [a, b] then -1 else 0
  else if q.turn = some b then if order a b q.waiting = [b, a] then 2 else 1
  else if order a b q.waiting = [a, b] then 0 else 1

theorem lead_congr (hfirst : q'.turn = some a ↔ q.turn = some a)
    (hsecond : q'.turn = some b ↔ q.turn = some b)
    (horder : order a b q'.waiting = order a b q.waiting) : lead a b q' = lead a b q := by
  simp only [lead, hfirst, hsecond, horder]

theorem lead_first (ha : q.turn = some a) (h : order a b q.waiting ≠ [a, b]) :
    lead a b q = 0 := by
  simp [lead, ha, h]

theorem lead_second (hab : a ≠ b) (hb : q.turn = some b) (h : order a b q.waiting ≠ [b, a]) :
    lead a b q = 1 := by
  simp [lead, hb, h, Ne.symm hab]

theorem lead_waiting (ha : q.turn ≠ some a) (hb : q.turn ≠ some b) :
    lead a b q = if order a b q.waiting = [a, b] then 0 else 1 := by
  simp [lead, ha, hb]

theorem lead_mem (hab : a ≠ b) (hfirst : ¬ Ahead a b q) (hsecond : ¬ Ahead b a q) :
    lead a b q = 0 ∨ lead a b q = 1 := by
  by_cases ha : q.turn = some a
  · exact .inl (lead_first ha fun h => hfirst ⟨ha, h⟩)
  · by_cases hb : q.turn = some b
    · exact .inr (lead_second hab hb fun h => hsecond ⟨hb, order_comm.trans h⟩)
    · rw [lead_waiting ha hb]
      split
      · exact .inl rfl
      · exact .inr rfl

theorem lead_symm (hab : a ≠ b) (hq : Engaged a b q) : lead b a q = 1 - lead a b q := by
  have hba : b ≠ a := Ne.symm hab
  have hcomm : order b a q.waiting = order a b q.waiting := order_comm
  by_cases ha : q.turn = some a
  · simp only [lead, ha, hcomm, Option.some.injEq, hab, if_true, if_false]
    split
    · rfl
    · rfl
  · have hmema := hq.first.resolve_right ha
    by_cases hb : q.turn = some b
    · simp only [lead, hb, hcomm, Option.some.injEq, hba, if_true, if_false]
      split
      · rfl
      · rfl
    · rw [lead_waiting hb ha, lead_waiting ha hb, hcomm]
      rcases order_both hq.nodup hab hmema (hq.second.resolve_right hb) with h | h
      · simp [h, hab]
      · simp [h, hba]

theorem lead_join (hab : a ≠ b) (hq : Engaged a b q) (hnew : a ∉ q.waiting)
    (hwait : q'.waiting = q.waiting ++ [a]) (hturn : q'.turn = q.turn) :
    lead a b q' = lead a b q := by
  obtain ⟨hself, horder⟩ := hq.joined hab hnew
  have horder' : order a b q'.waiting = [b, a] := by
    rw [hwait, order_append_self (.inl rfl), horder]
    rfl
  rw [lead_first hself (by simp [horder]),
    lead_first (hturn.trans hself) (by simp [horder', Ne.symm hab])]

theorem lead_take (hab : a ≠ b) (hq : Engaged a b q) (hnone : q.turn = none)
    (hwait : q.waiting = a :: q'.waiting) (hturn : q'.turn = some a) :
    lead a b q' = lead a b q := by
  have hnot : a ∉ q'.waiting := by
    have hnodup := hq.nodup
    rw [hwait] at hnodup
    exact (List.nodup_cons.mp hnodup).1
  have hmem : b ∈ q'.waiting := by
    have hb := hq.second.resolve_right (by simp [hnone])
    rw [hwait] at hb
    exact (List.mem_cons.mp hb).resolve_left (Ne.symm hab)
  have hnodup : q'.waiting.Nodup := by
    have hnodup := hq.nodup
    rw [hwait] at hnodup
    exact hnodup.of_cons
  have horder := order_one hnodup hnot hmem
  rw [lead_first hturn (by simp [horder]), lead_waiting (by simp [hnone]) (by simp [hnone]),
    hwait, order_cons_self (.inl rfl), horder, if_pos rfl]

theorem lead_serve (hab : a ≠ b) (hq : Engaged a b q) (hturn : q.turn = some a)
    (hnone : q'.turn = none)
    (hwait : q'.waiting = if a ∈ q.waiting then q.waiting else q.waiting ++ [a]) :
    lead a b q' = lead a b q + 1 := by
  have hba : b ≠ a := Ne.symm hab
  rw [lead_waiting (by simp [hnone]) (by simp [hnone])]
  by_cases hmem : a ∈ q.waiting
  · rw [hwait, if_pos hmem]
    rcases order_both hq.nodup hab hmem (hq.other hab hturn) with horder | horder
    · simp [lead, hturn, horder]
    · simp [lead, hturn, horder, hba]
  · have horder := (hq.joined hab hmem).2
    rw [hwait, if_neg hmem, order_append_self (.inl rfl), horder,
      lead_first hturn (by simp [horder])]
    simp [hba]

theorem Step.lead (h : Step a b q q') (hab : a ≠ b) (hq : Engaged a b q) (hq' : Engaged a b q') :
    (q'.served a : ℤ) - q'.served b - RoundRobin.lead a b q' =
      q.served a - q.served b - RoundRobin.lead a b q := by
  have hba : b ≠ a := Ne.symm hab
  have hsymm : RoundRobin.lead b a q = 1 - RoundRobin.lead a b q := lead_symm hab hq
  have hsymm' : RoundRobin.lead b a q' = 1 - RoundRobin.lead a b q' := lead_symm hab hq'
  cases h with
  | same hwait hturn hserved =>
    have hlead : RoundRobin.lead a b q' = RoundRobin.lead a b q :=
      lead_congr (by rw [hturn]) (by rw [hturn]) (by rw [hwait])
    rw [hlead, hserved]
  | leave x ha hb hwait hturn hserved =>
    have hlead : RoundRobin.lead a b q' = RoundRobin.lead a b q :=
      lead_congr (by rw [hturn]) (by rw [hturn]) (by rw [hwait, order_erase ha hb])
    rw [hlead, hserved]
  | pass x ha hb hturn hnone hwait hserved =>
    have hlead : RoundRobin.lead a b q' = RoundRobin.lead a b q :=
      lead_congr (by simp [hturn, hnone, ha]) (by simp [hturn, hnone, hb]) (by rw [hwait])
    rw [hlead, hserved]
  | join x hnew hwait hturn hserved =>
    rw [hserved]
    by_cases hxa : x = a
    · subst hxa
      rw [lead_join hab hq hnew hwait hturn]
    · by_cases hxb : x = b
      · subst hxb
        have hlead := lead_join hba hq.symm hnew hwait hturn
        omega
      · have hlead : RoundRobin.lead a b q' = RoundRobin.lead a b q :=
          lead_congr (by rw [hturn]) (by rw [hturn]) (by rw [hwait, order_append_other hxa hxb])
        rw [hlead]
  | take x hnone hwait hturn hserved =>
    rw [hserved]
    by_cases hxa : x = a
    · subst hxa
      rw [lead_take hab hq hnone hwait hturn]
    · by_cases hxb : x = b
      · subst hxb
        have hlead := lead_take hba hq.symm hnone hwait hturn
        omega
      · have hlead : RoundRobin.lead a b q' = RoundRobin.lead a b q :=
          lead_congr (by simp [hturn, hnone, hxa]) (by simp [hturn, hnone, hxb])
            (by rw [hwait, order_cons_other hxa hxb])
        rw [hlead]
  | serve x hturn hnone hwait hserved =>
    rw [hserved]
    by_cases hxa : x = a
    · subst hxa
      have hlead := lead_serve hab hq hturn hnone hwait
      rw [Function.update_self, Function.update_of_ne hba]
      push_cast
      omega
    · by_cases hxb : x = b
      · subst hxb
        have hlead := lead_serve hba hq.symm hturn hnone hwait
        rw [Function.update_self, Function.update_of_ne hab]
        push_cast
        omega
      · have horder : order a b q'.waiting = order a b q.waiting := by
          rw [hwait]
          split
          · rfl
          · exact order_append_other hxa hxb
        have hlead : RoundRobin.lead a b q' = RoundRobin.lead a b q :=
          lead_congr (by simp [hturn, hnone, hxa]) (by simp [hturn, hnone, hxb]) horder
        rw [hlead, Function.update_of_ne (Ne.symm hxa), Function.update_of_ne (Ne.symm hxb)]

end RoundRobin

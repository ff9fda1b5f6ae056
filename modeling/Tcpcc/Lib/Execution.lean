import Tcpcc.Lib.Resumption

/-!
# Executions of one thread

`Exec` lists the states before and after each block of a thread, with any steps of the
others in between; `Alone` is the execution that nobody interrupts. A run of a system in
which the right side is not called anew contains one execution of the right side, and
conversely the right side may be run to its end while the others wait. `Prompt` is the
reading of `Safe` for one call that never blocks, and `follow_right` carries it through a run.
-/

namespace Resumption
namespace Prog
variable {σ ι α β : Type}

inductive Exec : Prog σ ι α → List (σ × σ) → α → Prop
  | ret (a : α) : Exec (.ret a) [] a
  | act {ready : σ → ι → Bool} {run : σ → ι → σ} {next : σ → ι → Prog σ ι α}
      {moves : List (σ × σ)} {a : α} (s : σ) (i : ι) (hready : ready s i = true)
      (h : Exec (next s i) moves a) : Exec (.act ready run next) ((s, run s i) :: moves) a

variable {p : Prog σ ι α} {k : α → Prog σ ι β} {f : σ → ι → α × σ}

theorem Exec.bind {moves : List (σ × σ)} {b : β} (h : Exec (p >>= k) moves b) :
    ∃ first rest a, moves = first ++ rest ∧ Exec p first a ∧ Exec (k a) rest b := by
  induction p generalizing moves with
  | ret a => exact ⟨[], moves, a, rfl, .ret a, h⟩
  | act ready run next ih =>
    cases h with
    | act s i hready hnext =>
      obtain ⟨first, rest, a, rfl, hfirst, hrest⟩ := ih s i hnext
      exact ⟨(s, run s i) :: first, rest, a, rfl, .act s i hready hfirst, hrest⟩

theorem Exec.await {ready : σ → ι → Bool} {moves : List (σ × σ)} {a : α}
    (h : Exec (Prog.await ready f) moves a) :
    ∃ s i, ready s i = true ∧ moves = [(s, (f s i).2)] ∧ a = (f s i).1 := by
  cases h with
  | act s i hready hnext =>
    cases hnext
    exact ⟨s, i, hready, rfl, rfl⟩

theorem Exec.safe {I : σ → Prop} {C : Contract σ} {Q : α → σ → Prop} {T : α → Prop} {s : σ}
    (hT : ∀ moves a, Exec p moves a → T a) (h : Safe I C Q p s) :
    Safe I C (fun a t => Q a t ∧ T a) p s := by
  induction p generalizing s with
  | ret a => exact ⟨h, hT [] a (.ret a)⟩
  | act ready run next ih =>
    intro s' hr hi i hready
    obtain ⟨hinv, hguar, hnext⟩ := h s' hr hi i hready
    exact ⟨hinv, hguar, ih s' i (fun moves a he => hT _ a (.act s' i hready he)) hnext⟩

inductive Alone : Prog σ ι α → σ → α → σ → Prop
  | ret (a : α) (s : σ) : Alone (.ret a) s a s
  | act {ready : σ → ι → Bool} {run : σ → ι → σ} {next : σ → ι → Prog σ ι α} {s t : σ} {a : α}
      (i : ι) (hready : ready s i = true) (h : Alone (next s i) (run s i) a t) :
      Alone (.act ready run next) s a t

theorem Alone.bind {s t u : σ} {a : α} {b : β} (h : Alone p s a t) (hk : Alone (k a) t b u) :
    Alone (p >>= k) s b u := by
  induction h with
  | ret a s => exact hk
  | act i hready _ ih => exact .act i hready (ih hk)

theorem Alone.exists_bind {s t : σ} {a : α} (h : Alone p s a t) (hk : ∃ b u, Alone (k a) t b u) :
    ∃ b u, Alone (p >>= k) s b u := by
  obtain ⟨b, u, hk⟩ := hk
  exact ⟨b, u, h.bind hk⟩

theorem Alone.exec {s t : σ} {a : α} (h : Alone p s a t) : ∃ moves, Exec p moves a := by
  induction h with
  | ret a s => exact ⟨[], .ret a⟩
  | @act ready run next s t a i hready h ih =>
    obtain ⟨moves, hmoves⟩ := ih
    exact ⟨(s, run s i) :: moves, .act s i hready hmoves⟩

theorem Alone.await {ready : σ → ι → Bool} {s : σ} (i : ι) (h : ready s i = true) :
    Alone (Prog.await ready f) s (f s i).1 (f s i).2 :=
  .act i h (.ret _ _)

theorem Alone.block {s : σ} (i : ι) :
    Alone (Prog.block f) s (f s i).1 (f s i).2 := .await i rfl
end Prog

/-- A call that keeps its promises and is never kept waiting: whenever it has its turn, some
answer of the outside world lets it go on. -/
def Prompt {σ ι α : Type} (I : σ → Prop) (C : Contract σ) (Q : α → σ → Prop) :
    Prog σ ι α → σ → Prop
  | .ret a, s => Q a s
  | .act ready run next, s => ∀ s', C.rely s s' → I s' → (∃ i, ready s' i = true) ∧
      ∀ i, ready s' i = true → C.guar s' (run s' i) ∧ Prompt I C Q (next s' i) (run s' i)

namespace Prompt
variable {σ ι α β : Type} {I : σ → Prop} {C : Contract σ}

theorem bind {Q : β → σ → Prop} {p : Prog σ ι α} {k : α → Prog σ ι β} {s : σ}
    (h : Prompt I C (fun a s => Prompt I C Q (k a) s) p s) : Prompt I C Q (p >>= k) s := by
  induction p generalizing s with
  | ret a => exact h
  | act ready run next ih =>
    intro s' hr hi
    obtain ⟨hready, hnext⟩ := h s' hr hi
    exact ⟨hready, fun i hi' => ⟨(hnext i hi').1, ih s' i (hnext i hi').2⟩⟩

variable {Q : α → σ → Prop}

theorem mono {Q' : α → σ → Prop} (hQ : ∀ a s, Q a s → Q' a s) {p : Prog σ ι α} {s : σ}
    (h : Prompt I C Q p s) : Prompt I C Q' p s := by
  induction p generalizing s with
  | ret a => exact hQ a s h
  | act ready run next ih =>
    intro s' hr hi
    obtain ⟨hready, hnext⟩ := h s' hr hi
    exact ⟨hready, fun i hi' => ⟨(hnext i hi').1, ih s' i (hnext i hi').2⟩⟩

theorem seq {P : α → σ → Prop} {Q : β → σ → Prop} {p : Prog σ ι α} {k : α → Prog σ ι β} {s : σ}
    (h : Prompt I C P p s) (hk : ∀ a t, P a t → Prompt I C Q (k a) t) :
    Prompt I C Q (p >>= k) s := bind (h.mono hk)

theorem await {ready : σ → ι → Bool} {f : σ → ι → α × σ} {s : σ} (i : ι)
    (hready : ∀ s', ready s' i = true)
    (h : ∀ s', C.rely s s' → I s' → ∀ i, C.guar s' (f s' i).2 ∧ Q (f s' i).1 (f s' i).2) :
    Prompt I C Q (Prog.await ready f) s :=
  fun s' hr hi => ⟨⟨i, hready s'⟩, fun j _ => h s' hr hi j⟩

theorem block {f : σ → ι → α × σ} {s : σ} (i : ι)
    (h : ∀ s', C.rely s s' → I s' → ∀ i, C.guar s' (f s' i).2 ∧ Q (f s' i).1 (f s' i).2) :
    Prompt I C Q (Prog.block f) s := await i (fun _ => rfl) h

theorem stable (hQ : ∀ a s s', Q a s → C.rely s s' → Q a s') {p : Prog σ ι α} {s s' : σ}
    (h : Prompt I C Q p s) (hr : C.rely s s') : Prompt I C Q p s' := by
  cases p with
  | ret a => exact hQ a s s' h hr
  | act ready run next => exact fun s'' hr' hi' => h s'' (C.trans hr hr') hi'
end Prompt

def Label.callsRight {ι γ₁ γ₂ ε : Type} : Label ι γ₁ γ₂ ε → Bool
  | .resumeRight _ => true
  | _ => false

def Label.movesLeft {ι γ₁ γ₂ ε : Type} : Label ι γ₁ γ₂ ε → Bool
  | .left _ => true
  | _ => false

namespace System
variable {σ ι κ₁ κ₂ γ₁ γ₂ ε : Type} (S : System σ ι κ₁ κ₂ γ₁ γ₂ ε)
variable {c c' : Config σ ι κ₁ κ₂} {ls : List (Label ι γ₁ γ₂ ε)}

theorem run_append (ls' : List (Label ι γ₁ γ₂ ε)) :
    S.run c (ls ++ ls') = (S.run c ls).bind fun d => S.run d ls' := by
  induction ls generalizing c with
  | nil => rfl
  | cons l ls ih =>
    simp only [List.cons_append, run, Option.bind_assoc]
    congr 1
    exact funext fun d => ih

theorem Reachable.run {c₀ : Config σ ι κ₁ κ₂} (h : S.Reachable c₀ c)
    (hrun : S.run c ls = some c') : S.Reachable c₀ c' := by
  obtain ⟨ls₀, h₀⟩ := h
  exact ⟨ls₀ ++ ls, by rw [run_append, h₀]; exact hrun⟩

def after (c : Config σ ι κ₁ κ₂) (ls : List (Label ι γ₁ γ₂ ε)) : Config σ ι κ₁ κ₂ :=
  (S.run c ls).getD c

theorem reachable_after (ls : List (Label ι γ₁ γ₂ ε)) : S.Reachable c (S.after c ls) := by
  unfold after
  cases hrun : S.run c ls with
  | none => exact ⟨[], rfl⟩
  | some d => exact ⟨ls, hrun⟩

theorem run_eq_after (h : (S.run c ls).isSome = true) : S.run c ls = some (S.after c ls) := by
  obtain ⟨c', hrun⟩ := Option.isSome_iff_exists.mp h
  simp only [after, hrun, Option.getD_some]

theorem run_after {ls' : List (Label ι γ₁ γ₂ ε)} (h : (S.run c (ls ++ ls')).isSome = true) :
    S.run (S.after c ls) ls' = some (S.after c (ls ++ ls')) := by
  obtain ⟨c', hrun⟩ := Option.isSome_iff_exists.mp h
  have hsplit := hrun
  rw [S.run_append, Option.bind_eq_some_iff] at hsplit
  obtain ⟨d, hd, hrest⟩ := hsplit
  simp only [after, hd, hrun, Option.getD_some]
  exact hrest

def rightMoves (c : Config σ ι κ₁ κ₂) : List (Label ι γ₁ γ₂ ε) → List (σ × σ)
  | [] => []
  | l :: ls =>
    match S.step c l with
    | none => []
    | some d =>
      match l with
      | .right _ => (c.state, d.state) :: rightMoves d ls
      | _ => rightMoves d ls

def Along (ok : Config σ ι κ₁ κ₂ → Label ι γ₁ γ₂ ε → Prop) :
    Config σ ι κ₁ κ₂ → List (Label ι γ₁ γ₂ ε) → Prop
  | _, [] => True
  | c, l :: ls => ok c l ∧ ∀ d, S.step c l = some d → Along ok d ls

instance Along.decidable (ok : Config σ ι κ₁ κ₂ → Label ι γ₁ γ₂ ε → Prop)
    [∀ c l, Decidable (ok c l)] :
    (c : Config σ ι κ₁ κ₂) → (ls : List (Label ι γ₁ γ₂ ε)) → Decidable (S.Along ok c ls)
  | _, [] => inferInstanceAs (Decidable True)
  | c, l :: ls =>
    have := fun d => Along.decidable ok d ls
    inferInstanceAs (Decidable (ok c l ∧ ∀ d ∈ S.step c l, S.Along ok d ls))

variable {ok : Config σ ι κ₁ κ₂ → Label ι γ₁ γ₂ ε → Prop} {P : Config σ ι κ₁ κ₂ → Prop}
  {l : Label ι γ₁ γ₂ ε} {R : σ → σ → Prop}

theorem Along.carries {K : Config σ ι κ₁ κ₂ → Prop}
    (hstep : ∀ c l c', ok c l → K c → S.step c l = some c' → K c') (h : S.Along ok c ls) (hK : K c)
    (hrun : S.run c ls = some c') : K c' := by
  induction ls generalizing c with
  | nil => exact S.run_nil.mp hrun ▸ hK
  | cons l ls ih =>
    obtain ⟨d, hd, hrest⟩ := S.run_cons.mp hrun
    exact ih (h.2 d hd) (hstep c l d h.1 hK hd) hrest

theorem Along.guarded {q : Prop} (h : q → S.Along ok c ls) :
    S.Along (fun c l => q → ok c l) c ls := by
  induction ls generalizing c with
  | nil => trivial
  | cons l ls ih => exact ⟨fun hq => (h hq).1, fun d hd => ih fun hq => (h hq).2 d hd⟩

def Throughout (P : Config σ ι κ₁ κ₂ → Prop) :
    Config σ ι κ₁ κ₂ → List (Label ι γ₁ γ₂ ε) → Prop
  | c, [] => P c
  | c, l :: ls => P c ∧ ∀ d ∈ S.step c l, Throughout P d ls

instance Throughout.decidable (P : Config σ ι κ₁ κ₂ → Prop) [DecidablePred P] :
    (c : Config σ ι κ₁ κ₂) → (ls : List (Label ι γ₁ γ₂ ε)) → Decidable (S.Throughout P c ls)
  | c, [] => inferInstanceAs (Decidable (P c))
  | c, l :: ls =>
    have := fun d => Throughout.decidable P d ls
    inferInstanceAs (Decidable (P c ∧ ∀ d ∈ S.step c l, S.Throughout P d ls))

theorem Throughout.start (h : S.Throughout P c ls) : P c := by
  cases ls with
  | nil => exact h
  | cons l ls => exact h.1

theorem Throughout.carries {K : Config σ ι κ₁ κ₂ → Prop}
    (hstep : ∀ c l c', P c → P c' → K c → S.step c l = some c' → K c') (h : S.Throughout P c ls)
    (hK : K c) (hrun : S.run c ls = some c') : K c' := by
  induction ls generalizing c with
  | nil => exact S.run_nil.mp hrun ▸ hK
  | cons l ls ih =>
    obtain ⟨d, hd, hrest⟩ := S.run_cons.mp hrun
    have hd' := h.2 d hd
    exact ih hd' (hstep c l d h.1 (Throughout.start S hd') hK hd) hrest

theorem Along.of_forall {q : Label ι γ₁ γ₂ ε → Prop} (h : ∀ l ∈ ls, q l) :
    S.Along (fun _ l => q l) c ls := by
  induction ls generalizing c with
  | nil => trivial
  | cons l ls ih =>
    obtain ⟨hl, hls⟩ := List.forall_mem_cons.mp h
    exact ⟨hl, fun _ _ => ih hls⟩

theorem Along.and {ok' : Config σ ι κ₁ κ₂ → Label ι γ₁ γ₂ ε → Prop} (h : S.Along ok c ls)
    (h' : S.Along ok' c ls) : S.Along (fun c l => ok c l ∧ ok' c l) c ls := by
  induction ls generalizing c with
  | nil => trivial
  | cons l ls ih => exact ⟨⟨h.1, h'.1⟩, fun d hd => ih (h.2 d hd) (h'.2 d hd)⟩

theorem rightMoves_right {i : ι} (h : S.step c (.right i) = some c') :
    S.rightMoves c (.right i :: ls) = (c.state, c'.state) :: S.rightMoves c' ls := by
  simp only [rightMoves, h]

theorem rightMoves_other (hr : ∀ i, l ≠ .right i) (h : S.step c l = some c') :
    S.rightMoves c (l :: ls) = S.rightMoves c' ls := by
  cases l with
  | right i => exact absurd rfl (hr i)
  | _ => simp only [rightMoves, h]

theorem rightMoves_eq_nil (h : ∀ l ∈ ls, ∀ i, l ≠ .right i) : S.rightMoves c ls = [] := by
  induction ls generalizing c with
  | nil => rfl
  | cons l ls ih =>
    obtain ⟨hl, hls⟩ := List.forall_mem_cons.mp h
    cases hd : S.step c l with
    | none => simp only [rightMoves, hd]
    | some d => rw [S.rightMoves_other hl hd, ih hls]

theorem run_induct {K : Config σ ι κ₁ κ₂ → List (σ × σ) → Prop} (hend : K c' [])
    (hright : ∀ c i d moves, S.step c (.right i) = some d → K d moves →
      K c ((c.state, d.state) :: moves))
    (hother : ∀ c l d moves, ok c l → (∀ i, l ≠ .right i) → S.step c l = some d →
      K d moves → K c moves)
    (hok : S.Along ok c ls) (hrun : S.run c ls = some c') : K c (S.rightMoves c ls) := by
  induction ls generalizing c with
  | nil => exact S.run_nil.mp hrun ▸ hend
  | cons l ls ih =>
    obtain ⟨d, hd, hrest⟩ := S.run_cons.mp hrun
    have hnext := ih (hok.2 d hd) hrest
    by_cases hl : ∃ i, l = .right i
    · obtain ⟨i, rfl⟩ := hl
      rw [S.rightMoves_right hd]
      exact hright c i d _ hd hnext
    · have hr : ∀ i, l ≠ .right i := fun i he => hl ⟨i, he⟩
      rw [S.rightMoves_other hr hd]
      exact hother c l d _ hok.1 hr hd hnext

variable {S}

theorem Reachable.step {c₀ : Config σ ι κ₁ κ₂} (h : S.Reachable c₀ c) (hs : S.step c l = some c') :
    S.Reachable c₀ c' := by
  have hrun : S.run c [l] = some c' := by simp [System.run, hs]
  exact h.run S hrun

theorem step_right_other (hl : l.callsRight = false) (hr : ∀ i, l ≠ .right i)
    (h : S.step c l = some c') : c'.right = c.right := by
  cases S.moved_of_step h with
  | env | left => rfl
  | right => exact absurd rfl (hr _)
  | resumeLeft => rfl
  | resumeRight => simp [Label.callsRight] at hl

theorem step_right {i : ι} (h : S.step c (.right i) = some c') :
    ∃ ready run next, c.right = .act ready run next ∧ ready c.state i = true ∧
      c' = { c with state := run c.state i, right := next c.state i } := by
  cases S.moved_of_step h with
  | right hp hready => exact ⟨_, _, _, hp, hready, rfl⟩

theorem run_drive {i : ι} {p : Prog σ ι κ₂} {a : κ₂} {t : σ} (hp : c.right = p)
    (h : p.drive i c.state = some (a, t)) :
    ∃ n, S.run c (List.replicate n (.right i)) = some { c with state := t, right := .ret a } := by
  induction p generalizing c with
  | ret b =>
    cases h
    exact ⟨0, by rw [← hp]; rfl⟩
  | act ready run next ih =>
    rw [Prog.drive, Option.ite_none_right_eq_some] at h
    obtain ⟨n, hn⟩ := ih c.state i
      (c := { c with state := run c.state i, right := next c.state i }) rfl h.2
    refine ⟨n + 1, ?_⟩
    rw [List.replicate_succ, System.run, System.step, hp]
    simp only [h.1, if_true, Option.bind_some]
    exact hn

theorem exec_right {a : κ₂} (hcalls : ∀ l ∈ ls, l.callsRight = false)
    (hrun : S.run c ls = some c') (ha : c'.right = .ret a) :
    Prog.Exec c.right (S.rightMoves c ls) a := by
  refine S.run_induct (K := fun c moves => Prog.Exec c.right moves a) (ha ▸ .ret a)
    (fun c i d moves hd hexec => ?_) (fun c l d moves hl hr hd hexec => ?_)
    (.of_forall S hcalls) hrun
  · obtain ⟨ready, run, next, hp, hready, rfl⟩ := step_right hd
    rw [hp]
    exact .act c.state i hready hexec
  · rw [← step_right_other hl hr hd]
    exact hexec

theorem run_of_alone {a : κ₂} {t : σ} (h : Prog.Alone c.right c.state a t) :
    ∃ ls, (∀ l ∈ ls, ∃ i, l = .right i) ∧
      S.run c ls = some { c with state := t, right := .ret a } := by
  obtain ⟨s, left, p⟩ := c
  simp only at h
  induction h with
  | ret a s => exact ⟨[], by simp, rfl⟩
  | @act ready run next s t a i hready h ih =>
    obtain ⟨ls, hls, hrun⟩ := ih
    refine ⟨.right i :: ls, ?_, ?_⟩
    · intro l hl
      rcases List.mem_cons.mp hl with rfl | hl
      · exact ⟨i, rfl⟩
      · exact hls l hl
    · simp only [System.run, step, hready, if_true, Option.bind_some]
      exact hrun

theorem run_moves (hrefl : ∀ s, R s s) (htrans : ∀ a b d, R a b → R b d → R a d)
    (hP : ∀ c l c', P c → S.step c l = some c' → P c')
    (hother : ∀ c l c', P c → (∀ i, l ≠ .right i) → S.step c l = some c' → R c.state c'.state)
    (hc : P c) (hright : ∀ m ∈ S.rightMoves c ls, R m.1 m.2) (hrun : S.run c ls = some c') :
    R c.state c'.state := by
  refine S.run_induct (K := fun c moves => P c → (∀ m ∈ moves, R m.1 m.2) → R c.state c'.state)
    (fun _ _ => hrefl _) (fun c i d moves hd ih hc hmoves => ?_)
    (fun c l d moves _ hr hd ih hc hmoves => ?_) (.of_forall S fun _ _ => trivial) hrun hc hright
  · obtain ⟨hmove, hmoves⟩ := List.forall_mem_cons.mp hmoves
    exact htrans _ _ _ hmove (ih (hP _ _ _ hc hd) hmoves)
  · exact htrans _ _ _ (hother c l d hc hr hd) (ih (hP _ _ _ hc hd) hmoves)

/-- What a prompt call promises of its blocks and of its result holds in a run, if the steps of
the others are as the call expects. `P` is what is known of the configurations of the run, and
`ok` restricts its steps. -/
theorem follow_right {I : σ → Prop} {C : Contract σ} {Q : κ₂ → σ → Prop}
    (hP : ∀ c l c', P c → S.step c l = some c' → P c') (hI : ∀ c, P c → I c.state)
    (hrely : ∀ c l c', P c → ok c l → l.callsRight = false → (∀ i, l ≠ .right i) →
      S.step c l = some c' → C.rely c.state c'.state)
    (hQ : ∀ a s s', Q a s → C.rely s s' → Q a s') (hcalls : ∀ l ∈ ls, l.callsRight = false)
    (hok : S.Along ok c ls) (hc : P c) (h : Prompt I C Q c.right c.state)
    (hrun : S.run c ls = some c') :
    Prompt I C Q c'.right c'.state ∧ ∀ m ∈ S.rightMoves c ls, C.guar m.1 m.2 := by
  refine S.run_induct (K := fun c moves => P c → Prompt I C Q c.right c.state →
      Prompt I C Q c'.right c'.state ∧ ∀ m ∈ moves, C.guar m.1 m.2)
    (fun _ h => ⟨h, List.forall_mem_nil _⟩) (fun c i d moves hd ih hc h => ?_)
    (fun c l d moves hl hr hd ih hc h => ?_) (Along.and S (.of_forall S hcalls) hok) hrun hc h
  · obtain ⟨ready, run, next, hp, hready, rfl⟩ := step_right hd
    rw [hp] at h
    obtain ⟨hguar, hnext⟩ := (h c.state (C.refl _) (hI c hc)).2 i hready
    obtain ⟨hlast, hmoves⟩ := ih (hP _ _ _ hc hd) hnext
    exact ⟨hlast, List.forall_mem_cons.mpr ⟨hguar, hmoves⟩⟩
  · refine ih (hP _ _ _ hc hd) ?_
    rw [step_right_other hl.1 hr hd]
    exact h.stable hQ (hrely c l d hc hl.2 hl.1 hr hd)

theorem returns_right {I : σ → Prop} {C : Contract σ} {Q : κ₂ → σ → Prop}
    (hP : ∀ c l c', P c → S.step c l = some c' → P c') (hI : ∀ c, P c → I c.state) (hc : P c)
    (h : Prompt I C Q c.right c.state) :
    ∃ ls c' a, (∀ l ∈ ls, ∃ i, l = Label.right i) ∧ S.run c ls = some c' ∧ c'.right = .ret a := by
  obtain ⟨s, left, p⟩ := c
  simp only at h
  induction p generalizing s with
  | ret a => exact ⟨[], _, a, by simp, rfl, rfl⟩
  | act ready run next ih =>
    obtain ⟨⟨i, hready⟩, hnext⟩ := h s (C.refl s) (hI _ hc)
    have hstep : S.step ⟨s, left, .act ready run next⟩ (.right i) =
        some ⟨run s i, left, next s i⟩ := by
      simp [step, hready]
    obtain ⟨ls, c', a, hls, hrun, ha⟩ := ih s i (run s i) (hP _ _ _ hc hstep) (hnext i hready).2
    refine ⟨.right i :: ls, c', a, ?_, ?_, ha⟩
    · intro l hl
      rcases List.mem_cons.mp hl with rfl | hl
      · exact ⟨i, rfl⟩
      · exact hls l hl
    · simp only [System.run, hstep, Option.bind_some]
      exact hrun

def Linked (R : σ → σ → Prop) : σ → List (σ × σ) → σ → Prop
  | s, [], t => R s t
  | s, m :: moves, t => R s m.1 ∧ Linked R m.2 moves t

theorem Linked.after (htrans : ∀ a b d, R a b → R b d → R a d) {s t u : σ} {moves : List (σ × σ)}
    (hst : R s t) (h : Linked R t moves u) : Linked R s moves u := by
  cases moves with
  | nil => exact htrans s t u hst h
  | cons m moves => exact ⟨htrans s t m.1 hst h.1, h.2⟩

theorem Linked.initial {s t : σ} {first rest : List (σ × σ)} (h : Linked R s (first ++ rest) t) :
    ∃ u, Linked R s first u := by
  induction first generalizing s with
  | nil =>
    cases rest with
    | nil => exact ⟨t, h⟩
    | cons m rest => exact ⟨m.1, h.1⟩
  | cons m first ih =>
    obtain ⟨u, hu⟩ := ih h.2
    exact ⟨u, h.1, hu⟩

theorem linked_right (hrefl : ∀ s, R s s) (htrans : ∀ a b d, R a b → R b d → R a d)
    (hP : ∀ c l c', P c → S.step c l = some c' → P c')
    (hother : ∀ c l c', P c → (∀ i, l ≠ .right i) → S.step c l = some c' → R c.state c'.state)
    (hc : P c) (hrun : S.run c ls = some c') :
    Linked R c.state (S.rightMoves c ls) c'.state :=
  S.run_induct (K := fun c moves => P c → Linked R c.state moves c'.state) (fun _ => hrefl _)
    (fun _ _ _ _ hd ih hc => ⟨hrefl _, ih (hP _ _ _ hc hd)⟩)
    (fun c l d _ _ hr hd ih hc => (ih (hP _ _ _ hc hd)).after htrans (hother c l d hc hr hd))
    (.of_forall S fun _ _ => trivial) hrun hc

/-! ## While one side does not move -/
section rely
variable {I : σ → Prop} {A B : Contract σ} {QA : κ₁ → σ → Prop} {QB : κ₂ → σ → Prop}
  {l : Label ι γ₁ γ₂ ε}

theorem Compatible.rely_right (h : S.Compatible I A B QA QB)
    (hl : ∀ i, l ≠ .right i) (hc : Sound I A B QA QB c) (hs : S.step c l = some c') :
    B.rely c.state c'.state := by
  have hi' := (h.step hc hs).1
  obtain ⟨hi, hsafe, -⟩ := hc
  cases S.moved_of_step hs with
  | env he => exact (h.env _ _ _ hi he).2.2
  | right => exact absurd rfl (hl _)
  | left hp hready =>
    rw [hp] at hsafe
    exact h.guarA _ _ hi hi' (hsafe c.state (A.refl _) hi _ hready).2.1
  | resumeLeft | resumeRight => exact B.refl _

theorem Compatible.rely_left (h : S.Compatible I A B QA QB)
    (hl : l.movesLeft = false) (hc : Sound I A B QA QB c) (hs : S.step c l = some c') :
    A.rely c.state c'.state := by
  have hi' := (h.step hc hs).1
  obtain ⟨hi, -, hsafe⟩ := hc
  cases S.moved_of_step hs with
  | env he => exact (h.env _ _ _ hi he).2.1
  | left => simp [Label.movesLeft] at hl
  | right hp hready =>
    rw [hp] at hsafe
    exact h.guarB _ _ hi hi' (hsafe c.state (B.refl _) hi _ hready).2.1
  | resumeLeft | resumeRight => exact A.refl _

theorem Compatible.undisturbed {P : σ → Prop} (h : S.Compatible I A B QA QB)
    (hP : ∀ s s', P s → A.rely s s' → I s' → P s')
    (hmoves : ∀ l ∈ ls, l.movesLeft = false) (hc : Sound I A B QA QB c) (hp : P c.state)
    (hrun : S.run c ls = some c') : P c'.state := by
  induction ls generalizing c with
  | nil => exact S.run_nil.mp hrun ▸ hp
  | cons l ls ih =>
    obtain ⟨d, hd, hrest⟩ := S.run_cons.mp hrun
    obtain ⟨hl, hls⟩ := List.forall_mem_cons.mp hmoves
    have hsound := h.step hc hd
    exact ih hls hsound (hP _ _ hp (h.rely_left hl hc hd) hsound.1) hrest

end rely

/-! ## One call in a run -/

def muted (S : System σ ι κ₁ κ₂ γ₁ γ₂ ε) : System σ ι κ₁ κ₂ γ₁ γ₂ ε :=
  { S with right := fun _ _ => none }

theorem step_muted {l : Label ι γ₁ γ₂ ε} (hl : l.callsRight = false) :
    S.muted.step c l = S.step c l := by
  cases l with
  | resumeRight g => simp [Label.callsRight] at hl
  | _ => rfl

/-- A call of the right side that is safe for a contract of its own, under which it expects no
more and promises no less than the right side does, keeps that contract in a run and ends as it
should. -/
theorem Compatible.follow {I : σ → Prop} {A B C : Contract σ} {QA : κ₁ → σ → Prop}
    {QB Q : κ₂ → σ → Prop} (h : S.Compatible I A B QA QB)
    (hrely : ∀ s s', B.rely s s' → C.rely s s') (hguar : ∀ s s', C.guar s s' → B.guar s s')
    (hQ : ∀ a s s', Q a s → C.rely s s' → I s' → Q a s')
    (hcalls : ∀ l ∈ ls, l.callsRight = false) (hc : Sound I A C QA Q c)
    (hrun : S.run c ls = some c') :
    Sound I A C QA Q c' ∧ ∀ m ∈ S.rightMoves c ls, I m.1 ∧ C.guar m.1 m.2 := by
  have hmuted : S.muted.Compatible I A C QA Q :=
    { guarA := fun s s' hi hi' hg => hrely s s' (h.guarA s s' hi hi' hg)
      guarB := fun s s' hi hi' hg => h.guarB s s' hi hi' (hguar s s' hg)
      env := fun s e s' hi he => by
        obtain ⟨hi', hra, hrb⟩ := h.env s e s' hi he
        exact ⟨hi', hra, hrely s s' hrb⟩
      stableA := h.stableA
      stableB := hQ
      resumeA := h.resumeA
      resumeB := fun a g p s hp => by cases hp }
  refine S.run_induct (K := fun c moves => Sound I A C QA Q c →
      Sound I A C QA Q c' ∧ ∀ m ∈ moves, I m.1 ∧ C.guar m.1 m.2)
    (fun hc => ⟨hc, List.forall_mem_nil _⟩) (fun c i d moves hd ih hc => ?_)
    (fun c l d moves hl _ hd ih hc => ih (hmuted.step hc ((step_muted hl).trans hd)))
    (.of_forall S hcalls) hrun hc
  obtain ⟨hlast, hmoves⟩ := ih (hmuted.step hc ((step_muted rfl).trans hd))
  obtain ⟨ready, run, next, hp, hready, rfl⟩ := step_right hd
  obtain ⟨hi, -, hright⟩ := hc
  rw [hp] at hright
  exact ⟨hlast,
    List.forall_mem_cons.mpr ⟨⟨hi, (hright c.state (C.refl _) hi i hready).2.1⟩, hmoves⟩⟩
end System
end Resumption

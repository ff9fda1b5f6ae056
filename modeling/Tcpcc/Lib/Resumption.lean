import Mathlib.Logic.Basic

/-!
# Threads as resumptions

A thread that runs on one processor without preemption is a tree of blocks. A
block is executed in one piece on the shared state, reads one input of the
outside world, and hands over to the block that follows it. Between two blocks
anything else may run. `Safe` is the rely/guarantee reading of such a tree: each
block is entered in a state that the other parties may have moved, keeps the
common invariant, and moves the state only as the others were promised. The
rules of this module compose blocks into threads and two threads with their
environment into a system.
-/

namespace Resumption

inductive Prog (σ ι α : Type) where
  | ret (a : α)
  | act (ready : σ → ι → Bool) (run : σ → ι → σ) (next : σ → ι → Prog σ ι α)

namespace Prog
variable {σ ι α β : Type}

def bind : Prog σ ι α → (α → Prog σ ι β) → Prog σ ι β
  | .ret a, k => k a
  | .act ready run next, k => .act ready run fun s i => (next s i).bind k

instance : Monad (Prog σ ι) where
  pure := .ret
  bind := bind

/-- One block that may wait: it is entered only in a state and with an input that
`ready` admits. -/
def await (ready : σ → ι → Bool) (f : σ → ι → α × σ) : Prog σ ι α :=
  .act ready (fun s i => (f s i).2) fun s i => .ret (f s i).1

def block (f : σ → ι → α × σ) : Prog σ ι α := await (fun _ _ => true) f

/-- The program as part of a larger system, on the component `get` of its state. -/
def lift {τ : Type} (get : σ → τ) (put : σ → τ → σ) : Prog τ ι α → Prog σ ι α
  | .ret a => .ret a
  | .act ready run next =>
    .act (fun s i => ready (get s) i) (fun s i => put s (run (get s) i)) fun s i =>
      (next (get s) i).lift get put

/-- The program by itself, with one input throughout: its result, if it never has to wait. -/
def drive (i : ι) : Prog σ ι α → σ → Option (α × σ)
  | .ret a, s => some (a, s)
  | .act ready run next, s => if ready s i then (next s i).drive i (run s i) else none

theorem drive_await (i : ι) (ready : σ → ι → Bool) (f : σ → ι → α × σ) (s : σ) :
    (await ready f).drive i s = if ready s i then some (f s i) else none := rfl

theorem drive_block (i : ι) (f : σ → ι → α × σ) (s : σ) :
    (block f).drive i s = some (f s i) := rfl

theorem drive_bind (i : ι) (p : Prog σ ι α) (k : α → Prog σ ι β) (s : σ) :
    (p >>= k).drive i s = (p.drive i s).bind fun a => (k a.1).drive i a.2 := by
  induction p generalizing s with
  | ret a => rfl
  | act ready run next ih =>
    change (if ready s i then ((next s i).bind k).drive i (run s i) else none) = _
    rw [drive]
    split
    · exact ih s i (run s i)
    · rfl

section
variable {R : σ → σ → Prop}

/-- Every block of the program is a step of the relation, in whatever state it is entered. -/
def Obeys (R : σ → σ → Prop) : Prog σ ι α → Prop
  | .ret _ => True
  | .act ready run next => ∀ s i, ready s i = true → R s (run s i) ∧ (next s i).Obeys R

theorem Obeys.await {ready : σ → ι → Bool} {f : σ → ι → α × σ} (h : ∀ s i, R s (f s i).2) :
    (await ready f).Obeys R := fun s i _ => ⟨h s i, trivial⟩

theorem Obeys.block {f : σ → ι → α × σ} (h : ∀ s i, R s (f s i).2) : (block f).Obeys R :=
  Obeys.await h

theorem Obeys.bind {p : Prog σ ι α} {k : α → Prog σ ι β} (h : p.Obeys R)
    (hk : ∀ a, (k a).Obeys R) : (p >>= k).Obeys R := by
  induction p with
  | ret a => exact hk a
  | act ready run next ih => exact fun s i hready => ⟨(h s i hready).1, ih s i (h s i hready).2⟩

theorem Obeys.lift {τ : Type} {get : σ → τ} {put : σ → τ → σ} (p : Prog τ ι α)
    (h : ∀ s t, R s (put s t)) : (p.lift get put).Obeys R := by
  induction p with
  | ret a => trivial
  | act ready run next ih => exact fun s i _ => ⟨h s _, ih (get s) i⟩

end
end Prog

/-- What a thread expects of the others between its blocks, and what it promises
them for each of its own. -/
structure Contract (σ : Type) where
  rely : σ → σ → Prop
  guar : σ → σ → Prop
  refl : ∀ s, rely s s
  trans : ∀ {a b c}, rely a b → rely b c → rely a c

section Safe
variable {σ ι α β : Type} {I : σ → Prop} {C : Contract σ}

def Safe (I : σ → Prop) (C : Contract σ) (Q : α → σ → Prop) : Prog σ ι α → σ → Prop
  | .ret a, s => Q a s
  | .act ready run next, s => ∀ s', C.rely s s' → I s' → ∀ i, ready s' i = true →
      I (run s' i) ∧ C.guar s' (run s' i) ∧ Safe I C Q (next s' i) (run s' i)

variable {Q : α → σ → Prop}

theorem Safe.mono {Q' : α → σ → Prop} (hQ : ∀ a s, Q a s → Q' a s) {p : Prog σ ι α} {s : σ}
    (h : Safe I C Q p s) : Safe I C Q' p s := by
  induction p generalizing s with
  | ret a => exact hQ a s h
  | act ready run next ih =>
    intro s' hr hi i hready
    obtain ⟨hinv, hguar, hnext⟩ := h s' hr hi i hready
    exact ⟨hinv, hguar, ih s' i hnext⟩

theorem Safe.weaken {D : Contract σ} (hrely : ∀ s s', D.rely s s' → C.rely s s')
    (hguar : ∀ s s', C.guar s s' → D.guar s s') {p : Prog σ ι α} {s : σ} (h : Safe I C Q p s) :
    Safe I D Q p s := by
  induction p generalizing s with
  | ret a => exact h
  | act ready run next ih =>
    intro s' hr hi i hready
    obtain ⟨hinv, hg, hnext⟩ := h s' (hrely s s' hr) hi i hready
    exact ⟨hinv, hguar _ _ hg, ih s' i hnext⟩

theorem Safe.bind {Q : β → σ → Prop} {p : Prog σ ι α} {k : α → Prog σ ι β} {s : σ}
    (h : Safe I C (fun a s => Safe I C Q (k a) s) p s) : Safe I C Q (p >>= k) s := by
  induction p generalizing s with
  | ret a => exact h
  | act ready run next ih =>
    intro s' hr hi i hready
    obtain ⟨hinv, hguar, hnext⟩ := h s' hr hi i hready
    exact ⟨hinv, hguar, ih s' i hnext⟩

theorem Safe.seq {P : α → σ → Prop} {Q : β → σ → Prop} {p : Prog σ ι α}
    {k : α → Prog σ ι β} {s : σ} (h : Safe I C P p s)
    (hk : ∀ a t, P a t → Safe I C Q (k a) t) : Safe I C Q (p >>= k) s :=
  Safe.bind (h.mono hk)

theorem Safe.await {ready : σ → ι → Bool} {f : σ → ι → α × σ} {s : σ}
    (h : ∀ s', C.rely s s' → I s' → ∀ i, ready s' i = true → I (f s' i).2 ∧ C.guar s' (f s' i).2 ∧
      Q (f s' i).1 (f s' i).2) :
    Safe I C Q (Prog.await ready f) s := h

theorem Safe.block {f : σ → ι → α × σ} {s : σ}
    (h : ∀ s', C.rely s s' → I s' → ∀ i, I (f s' i).2 ∧ C.guar s' (f s' i).2 ∧
      Q (f s' i).1 (f s' i).2) :
    Safe I C Q (Prog.block f) s := fun s' hr hi i _ => h s' hr hi i

/-- A program that is safe on a component of the state is safe in the larger system, in a
frame `F` of facts about the rest, if the others leave the component as it expects and its
own blocks keep the larger invariant. -/
theorem Safe.lift {τ : Type} {get : σ → τ} {put : σ → τ → σ} {J : τ → Prop} {D : Contract τ}
    {F : σ → Prop} {Q : α → τ → Prop} (hput : ∀ s t, get (put s t) = t)
    (hinv : ∀ s, I s → J (get s))
    (hrely : ∀ s s', F s → C.rely s s' → I s' → F s' ∧ D.rely (get s) (get s'))
    (hstep : ∀ s t, I s → F s → J t → D.guar (get s) t →
      I (put s t) ∧ C.guar s (put s t) ∧ F (put s t))
    {p : Prog τ ι α} {s : σ} (hF : F s) (h : Safe J D Q p (get s)) :
    Safe I C (fun a s => F s ∧ Q a (get s)) (p.lift get put) s := by
  induction p generalizing s with
  | ret a => exact ⟨hF, h⟩
  | act ready run next ih =>
    intro s' hr hi i hready
    obtain ⟨hF', hr'⟩ := hrely s s' hF hr hi
    obtain ⟨hJ, hguar, hnext⟩ := h (get s') hr' (hinv s' hi) i hready
    obtain ⟨hi', hguar', hF''⟩ := hstep s' _ hi hF' hJ hguar
    refine ⟨hi', hguar', ih (get s') i hF'' ?_⟩
    rw [hput]
    exact hnext

theorem Safe.keep {G : σ → Prop} (hguar : ∀ s s', I s → G s → C.guar s s' → G s') {p : Prog σ ι α}
    {s : σ} (hG : G s) (h : Safe I C Q p s) :
    Safe (fun s => I s ∧ G s) C (fun a s => Q a s ∧ G s) p s := by
  induction p generalizing s with
  | ret a => exact ⟨h, hG⟩
  | act ready run next ih =>
    intro s' hr hi i hready
    obtain ⟨hinv, hg, hnext⟩ := h s' hr hi.1 i hready
    have hG' := hguar s' _ hi.1 hi.2 hg
    exact ⟨⟨hinv, hG'⟩, hg, ih s' i hG' hnext⟩

theorem Safe.stable (hQ : ∀ a s s', Q a s → C.rely s s' → I s' → Q a s') {p : Prog σ ι α} {s s' : σ}
    (h : Safe I C Q p s) (hr : C.rely s s') (hi : I s') : Safe I C Q p s' := by
  cases p with
  | ret a => exact hQ a s s' h hr hi
  | act ready run next =>
    intro s'' hr' hi' i hready
    exact h s'' (C.trans hr hr') hi' i hready
end Safe

/-- Two threads and their environment. When a thread returns, `left` or `right`
says how it goes on; the choice is an input. -/
structure System (σ ι κ₁ κ₂ γ₁ γ₂ ε : Type) where
  env : σ → ε → Option σ
  left : κ₁ → γ₁ → Option (Prog σ ι κ₁)
  right : κ₂ → γ₂ → Option (Prog σ ι κ₂)

structure Config (σ ι κ₁ κ₂ : Type) where
  state : σ
  left : Prog σ ι κ₁
  right : Prog σ ι κ₂

inductive Label (ι γ₁ γ₂ ε : Type)
  | env (e : ε)
  | left (i : ι)
  | right (i : ι)
  | resumeLeft (g : γ₁)
  | resumeRight (g : γ₂)

namespace System
variable {σ ι κ₁ κ₂ γ₁ γ₂ ε : Type} (S : System σ ι κ₁ κ₂ γ₁ γ₂ ε)

def step (c : Config σ ι κ₁ κ₂) : Label ι γ₁ γ₂ ε → Option (Config σ ι κ₁ κ₂)
  | .env e => (S.env c.state e).map fun s => { c with state := s }
  | .left i =>
    match c.left with
    | .ret _ => none
    | .act ready run next =>
      if ready c.state i then some { c with state := run c.state i, left := next c.state i }
      else none
  | .right i =>
    match c.right with
    | .ret _ => none
    | .act ready run next =>
      if ready c.state i then some { c with state := run c.state i, right := next c.state i }
      else none
  | .resumeLeft g =>
    match c.left with
    | .ret a => (S.left a g).map fun p => { c with left := p }
    | .act .. => none
  | .resumeRight g =>
    match c.right with
    | .ret a => (S.right a g).map fun p => { c with right := p }
    | .act .. => none

inductive Moved (c : Config σ ι κ₁ κ₂) : Label ι γ₁ γ₂ ε → Config σ ι κ₁ κ₂ → Prop
  | env {e : ε} {s : σ} (he : S.env c.state e = some s) : Moved c (.env e) { c with state := s }
  | left {ready run next} {i : ι} (hp : c.left = .act ready run next)
      (hready : ready c.state i = true) :
      Moved c (.left i) { c with state := run c.state i, left := next c.state i }
  | right {ready run next} {i : ι} (hp : c.right = .act ready run next)
      (hready : ready c.state i = true) :
      Moved c (.right i) { c with state := run c.state i, right := next c.state i }
  | resumeLeft {a p} {g : γ₁} (hp : c.left = .ret a) (hg : S.left a g = some p) :
      Moved c (.resumeLeft g) { c with left := p }
  | resumeRight {a p} {g : γ₂} (hp : c.right = .ret a) (hg : S.right a g = some p) :
      Moved c (.resumeRight g) { c with right := p }

variable {c c' : Config σ ι κ₁ κ₂}

theorem moved_of_step {l : Label ι γ₁ γ₂ ε} (h : S.step c l = some c') : S.Moved c l c' := by
  cases l with
  | env e =>
    obtain ⟨s, he, rfl⟩ := Option.map_eq_some_iff.mp h
    exact .env he
  | left i =>
    cases hp : c.left with
    | ret a => simp [step, hp] at h
    | act ready run next =>
      simp only [step, hp, Option.ite_none_right_eq_some, Option.some.injEq] at h
      obtain ⟨hready, rfl⟩ := h
      exact .left hp hready
  | right i =>
    cases hp : c.right with
    | ret a => simp [step, hp] at h
    | act ready run next =>
      simp only [step, hp, Option.ite_none_right_eq_some, Option.some.injEq] at h
      obtain ⟨hready, rfl⟩ := h
      exact .right hp hready
  | resumeLeft g =>
    cases hp : c.left with
    | act ready run next => simp [step, hp] at h
    | ret a =>
      simp only [step, hp, Option.map_eq_some_iff] at h
      obtain ⟨p, hg, rfl⟩ := h
      exact .resumeLeft hp hg
  | resumeRight g =>
    cases hp : c.right with
    | act ready run next => simp [step, hp] at h
    | ret a =>
      simp only [step, hp, Option.map_eq_some_iff] at h
      obtain ⟨p, hg, rfl⟩ := h
      exact .resumeRight hp hg

def run (c : Config σ ι κ₁ κ₂) : List (Label ι γ₁ γ₂ ε) → Option (Config σ ι κ₁ κ₂)
  | [] => some c
  | l :: ls => (S.step c l).bind fun c' => run c' ls

def Reachable (c₀ c : Config σ ι κ₁ κ₂) : Prop := ∃ ls, S.run c₀ ls = some c

theorem run_nil : S.run c [] = some c' ↔ c = c' := by
  rw [run, Option.some.injEq]

theorem run_cons {l : Label ι γ₁ γ₂ ε} {ls : List (Label ι γ₁ γ₂ ε)} :
    S.run c (l :: ls) = some c' ↔ ∃ d, S.step c l = some d ∧ S.run d ls = some c' := by
  rw [run, Option.bind_eq_some_iff]

theorem run_preserves {P : Config σ ι κ₁ κ₂ → Prop}
    (hstep : ∀ c l c', P c → S.step c l = some c' → P c')
    (ls : List (Label ι γ₁ γ₂ ε)) {c c' : Config σ ι κ₁ κ₂} (h : P c)
    (hrun : S.run c ls = some c') : P c' := by
  induction ls generalizing c with
  | nil => exact S.run_nil.mp hrun ▸ h
  | cons l ls ih =>
    obtain ⟨d, hd, hrest⟩ := S.run_cons.mp hrun
    exact ih (hstep c l d h hd) hrest

theorem Reachable.induct {P : Config σ ι κ₁ κ₂ → Prop} {c₀ : Config σ ι κ₁ κ₂}
    (hc : S.Reachable c₀ c) (h0 : P c₀) (hstep : ∀ c l c', P c → S.step c l = some c' → P c') :
    P c := by
  obtain ⟨ls, hrun⟩ := hc
  exact S.run_preserves hstep ls h0 hrun

/-- The obligations under which two threads keep an invariant together: each keeps
it by itself, each promises what the other expects, and the environment does too. -/
structure Compatible (I : σ → Prop) (A B : Contract σ) (QA : κ₁ → σ → Prop)
    (QB : κ₂ → σ → Prop) : Prop where
  guarA : ∀ s s', I s → I s' → A.guar s s' → B.rely s s'
  guarB : ∀ s s', I s → I s' → B.guar s s' → A.rely s s'
  env : ∀ s e s', I s → S.env s e = some s' → I s' ∧ A.rely s s' ∧ B.rely s s'
  stableA : ∀ a s s', QA a s → A.rely s s' → I s' → QA a s'
  stableB : ∀ a s s', QB a s → B.rely s s' → I s' → QB a s'
  resumeA : ∀ a g p s, S.left a g = some p → I s → QA a s → Safe I A QA p s
  resumeB : ∀ a g p s, S.right a g = some p → I s → QB a s → Safe I B QB p s
variable {S} {I : σ → Prop} {A B : Contract σ} {QA : κ₁ → σ → Prop} {QB : κ₂ → σ → Prop}

def Sound (I : σ → Prop) (A B : Contract σ) (QA : κ₁ → σ → Prop) (QB : κ₂ → σ → Prop)
    (c : Config σ ι κ₁ κ₂) : Prop :=
  I c.state ∧ Safe I A QA c.left c.state ∧ Safe I B QB c.right c.state

theorem Compatible.step (h : S.Compatible I A B QA QB) {c c' : Config σ ι κ₁ κ₂}
    {l : Label ι γ₁ γ₂ ε} (hc : Sound I A B QA QB c) (hs : S.step c l = some c') :
    Sound I A B QA QB c' := by
  obtain ⟨hi, hA, hB⟩ := hc
  cases S.moved_of_step hs with
  | env he =>
    obtain ⟨hi', hra, hrb⟩ := h.env _ _ _ hi he
    exact ⟨hi', hA.stable h.stableA hra hi', hB.stable h.stableB hrb hi'⟩
  | left hp hready =>
    rw [hp] at hA
    obtain ⟨hi', hg, hn⟩ := hA c.state (A.refl _) hi _ hready
    exact ⟨hi', hn, hB.stable h.stableB (h.guarA _ _ hi hi' hg) hi'⟩
  | right hp hready =>
    rw [hp] at hB
    obtain ⟨hi', hg, hn⟩ := hB c.state (B.refl _) hi _ hready
    exact ⟨hi', hA.stable h.stableA (h.guarB _ _ hi hi' hg) hi', hn⟩
  | resumeLeft hp hg =>
    rw [hp] at hA
    exact ⟨hi, h.resumeA _ _ _ _ hg hi hA, hB⟩
  | resumeRight hp hg =>
    rw [hp] at hB
    exact ⟨hi, hA, h.resumeB _ _ _ _ hg hi hB⟩

theorem Sound.transition {R : σ → σ → Prop} {c c' : Config σ ι κ₁ κ₂} {l : Label ι γ₁ γ₂ ε}
    (hc : Sound I A B QA QB c) (hrefl : ∀ s, R s s) (hA : ∀ s s', A.guar s s' → R s s')
    (hB : ∀ s s', B.guar s s' → R s s') (henv : ∀ s e s', I s → S.env s e = some s' → R s s')
    (hs : S.step c l = some c') : R c.state c'.state := by
  obtain ⟨hi, hsafeA, hsafeB⟩ := hc
  cases S.moved_of_step hs with
  | env he => exact henv _ _ _ hi he
  | left hp hready =>
    rw [hp] at hsafeA
    exact hA _ _ (hsafeA c.state (A.refl _) hi _ hready).2.1
  | right hp hready =>
    rw [hp] at hsafeB
    exact hB _ _ (hsafeB c.state (B.refl _) hi _ hready).2.1
  | resumeLeft | resumeRight => exact hrefl _

theorem Compatible.reachable (h : S.Compatible I A B QA QB) {c₀ c : Config σ ι κ₁ κ₂}
    (hc : S.Reachable c₀ c) (h0 : Sound I A B QA QB c₀) : Sound I A B QA QB c :=
  hc.induct S h0 fun _ _ _ hsound hs => h.step hsound hs
end System
end Resumption

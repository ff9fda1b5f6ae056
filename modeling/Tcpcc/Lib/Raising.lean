import Mathlib.Data.List.Basic

/-!
# Computations that raise

A computation over a state that returns or raises, and whose changes to the state are kept either
way. `wp` holds of a state from which the computation ends in one of two postconditions, one for
each way to end. There is one rule for each way to build a computation.
-/

abbrev Raising (σ ε α : Type) := ExceptT ε (StateM σ) α

namespace Raising
variable {σ δ ε α β : Type}

def outcome (x : Raising σ ε α) (s : σ) : Except ε α × σ := StateT.run (ExceptT.run x) s

/-- A foreign call: it answers as it likes in a state, the answer is recorded, and what it raises
is raised. -/
def call (answer : σ → Except δ α) (record : Except δ α → σ → σ) (embed : δ → ε) :
    Raising σ ε α :=
  ExceptT.mk fun s => ((answer s).mapError embed, record (answer s) s)

def wp (x : Raising σ ε α) (Q : α → σ → Prop) (E : ε → σ → Prop) (s : σ) : Prop :=
  (∀ a t, x.outcome s = (.ok a, t) → Q a t) ∧ ∀ e t, x.outcome s = (.error e, t) → E e t

variable {Q : α → σ → Prop} {E : ε → σ → Prop} {s t : σ}

theorem wp_of_ok {x : Raising σ ε α} {a : α} (h : x.outcome s = (.ok a, t)) :
    x.wp Q E s ↔ Q a t := by
  constructor
  · exact fun hx => hx.1 a t h
  · intro hq
    refine ⟨?_, ?_⟩
    · intro b u hb
      cases h.symm.trans hb
      exact hq
    · intro e u he
      cases h.symm.trans he

theorem wp_of_error {x : Raising σ ε α} {e : ε} (h : x.outcome s = (.error e, t)) :
    x.wp Q E s ↔ E e t := by
  constructor
  · exact fun hx => hx.2 e t h
  · intro hq
    refine ⟨?_, ?_⟩
    · intro b u hb
      cases h.symm.trans hb
    · intro e' u he
      cases h.symm.trans he
      exact hq

theorem outcome_cases (x : Raising σ ε α) (s : σ) :
    (∃ a t, x.outcome s = (.ok a, t)) ∨ ∃ e t, x.outcome s = (.error e, t) := by
  rcases x.outcome s with ⟨r, t⟩
  cases r with
  | ok a => exact .inl ⟨a, t, rfl⟩
  | error e => exact .inr ⟨e, t, rfl⟩

theorem wp_mono {x : Raising σ ε α} {Q' : α → σ → Prop} {E' : ε → σ → Prop} (h : x.wp Q E s)
    (hQ : ∀ a t, Q a t → Q' a t) (hE : ∀ e t, E e t → E' e t) : x.wp Q' E' s :=
  ⟨fun a t ha => hQ a t (h.1 a t ha), fun e t he => hE e t (h.2 e t he)⟩

theorem wp_outcome {x : Raising σ ε α} (h : x.wp Q E s) :
    x.wp (fun a t => x.outcome s = (.ok a, t) ∧ Q a t)
      (fun e t => x.outcome s = (.error e, t) ∧ E e t) s :=
  ⟨fun a t ha => ⟨ha, h.1 a t ha⟩, fun e t he => ⟨he, h.2 e t he⟩⟩

@[simp] theorem wp_pure (a : α) : wp (pure a : Raising σ ε α) Q E s ↔ Q a s :=
  wp_of_ok rfl

@[simp] theorem wp_throw (e : ε) : wp (throw e : Raising σ ε α) Q E s ↔ E e s :=
  wp_of_error rfl

@[simp] theorem wp_modify {Q : Unit → σ → Prop} (f : σ → σ) :
    wp (modify f : Raising σ ε Unit) Q E s ↔ Q () (f s) :=
  wp_of_ok rfl

@[simp] theorem wp_get {Q : σ → σ → Prop} : wp (get : Raising σ ε σ) Q E s ↔ Q s s :=
  wp_of_ok rfl

@[simp] theorem wp_call (answer : σ → Except δ α) (record : Except δ α → σ → σ) (embed : δ → ε) :
    wp (call answer record embed) Q E s ↔
      (∀ a, answer s = .ok a → Q a (record (.ok a) s)) ∧
        ∀ e, answer s = .error e → E (embed e) (record (.error e) s) := by
  cases h : answer s with
  | ok a =>
    have hcall : (call answer record embed).outcome s = (.ok a, record (.ok a) s) := by
      rw [← h]
      exact Prod.ext (congrArg (Except.mapError embed) h) rfl
    simp [wp_of_ok hcall]
  | error e =>
    have hcall : (call answer record embed).outcome s =
        (.error (embed e), record (.error e) s) := by
      rw [← h]
      exact Prod.ext (congrArg (Except.mapError embed) h) rfl
    simp [wp_of_error hcall]

theorem outcome_bind_ok {x : Raising σ ε α} {a : α} (f : α → Raising σ ε β)
    (h : x.outcome s = (.ok a, t)) : (x >>= f).outcome s = (f a).outcome t := by
  change StateT.run (ExceptT.run (x >>= f)) s = _
  have hrun : StateT.run (ExceptT.run x) s = (.ok a, t) := h
  rw [ExceptT.run_bind, StateT.run_bind, hrun]
  rfl

theorem outcome_bind_error {x : Raising σ ε α} {e : ε} (f : α → Raising σ ε β)
    (h : x.outcome s = (.error e, t)) : (x >>= f).outcome s = (.error e, t) := by
  change StateT.run (ExceptT.run (x >>= f)) s = _
  have hrun : StateT.run (ExceptT.run x) s = (.error e, t) := h
  rw [ExceptT.run_bind, StateT.run_bind, hrun]
  rfl

@[simp] theorem wp_bind {R : β → σ → Prop} (x : Raising σ ε α) (f : α → Raising σ ε β) :
    wp (x >>= f) R E s ↔ x.wp (fun a t => (f a).wp R E t) E s := by
  rcases x.outcome_cases s with ⟨a, t, h⟩ | ⟨e, t, h⟩
  · rw [wp_of_ok h, wp, wp, outcome_bind_ok f h]
  · rw [wp_of_error h, wp_of_error (outcome_bind_error f h)]

theorem outcome_tryCatch_ok {x : Raising σ ε α} {a : α} (handler : ε → Raising σ ε α)
    (h : x.outcome s = (.ok a, t)) : (tryCatch x handler).outcome s = (.ok a, t) := by
  have hrun : StateT.run (m := Id) (α := Except ε α) x s = (.ok a, t) := h
  unfold outcome
  simp only [tryCatch, tryCatchThe, MonadExceptOf.tryCatch, ExceptT.tryCatch, ExceptT.run_mk]
  rw [StateT.run_bind, hrun]
  rfl

theorem outcome_tryCatch_error {x : Raising σ ε α} {e : ε} (handler : ε → Raising σ ε α)
    (h : x.outcome s = (.error e, t)) :
    (tryCatch x handler).outcome s = (handler e).outcome t := by
  have hrun : StateT.run (m := Id) (α := Except ε α) x s = (.error e, t) := h
  unfold outcome
  simp only [tryCatch, tryCatchThe, MonadExceptOf.tryCatch, ExceptT.tryCatch, ExceptT.run_mk]
  rw [StateT.run_bind, hrun]
  rfl

@[simp] theorem wp_tryCatch (x : Raising σ ε α) (handler : ε → Raising σ ε α) :
    wp (tryCatch x handler) Q E s ↔ x.wp Q (fun e t => (handler e).wp Q E t) s := by
  rcases x.outcome_cases s with ⟨a, t, h⟩ | ⟨e, t, h⟩
  · rw [wp_of_ok h, wp_of_ok (outcome_tryCatch_ok handler h)]
  · rw [wp_of_error h, wp, wp, outcome_tryCatch_error handler h]

end Raising

import Mathlib.Algebra.Order.Ring.Int
import Mathlib.Data.Int.Notation
import Mathlib.Data.List.Basic

/-!
# The process table

The lines of `/proc/PID/stat`, as both supervisors read them to tell whether the owner of a
firewall rule is still there. The command name in the second field is chosen by the process; it
can contain blanks, parentheses and digits.
-/

namespace Tcpcc.Procfs

def isGraph (c : Char) : Bool := '!' ≤ c && c ≤ '~'

/-- A process: its command name, fields 3 to 21, its start time in field 22, and the fields behind
it. -/
structure ProcessStat where
  comm : List Char
  before : List (List Char)
  startTime : ℕ
  after : List (List Char)
  named : '\x00' ∉ comm
  count : before.length = 19
  tokens : ∀ f ∈ before ++ after, f ≠ [] ∧ ∀ c ∈ f, isGraph c = true ∧ c ≠ ')'
  range : startTime < 2 ^ 64

namespace ProcessStat
variable (p : ProcessStat)

def fields : List (List Char) := p.before ++ Nat.toDigits 10 p.startTime :: p.after

def rest : List Char := p.fields.flatMap fun f => ' ' :: f

def line (pid : ℕ) : List Char :=
  Nat.toDigits 10 pid ++ ' ' :: '(' :: (p.comm ++ ')' :: p.rest) ++ ['\n']

end ProcessStat

theorem graph_of_isDigit {c : Char} (h : c.isDigit = true) : isGraph c = true ∧ c ≠ ')' := by
  simp only [Char.isDigit, Bool.and_eq_true, decide_eq_true_eq] at h
  refine ⟨?_, ?_⟩
  · simp only [isGraph, Bool.and_eq_true, decide_eq_true_eq]
    exact ⟨Char.le_trans (b := '0') (by decide) h.1, Char.le_trans (b := '9') h.2 (by decide)⟩
  · rintro rfl
    exact absurd h.1 (by decide)

theorem graph_toDigits {n : ℕ} {c : Char} (h : c ∈ Nat.toDigits 10 n) :
    isGraph c = true ∧ c ≠ ')' :=
  graph_of_isDigit (Nat.isDigit_of_mem_toDigits (by decide) (by decide) h)

variable {p : ProcessStat} {f : List Char} {c : Char}

theorem ProcessStat.field_graph (hf : f ∈ p.fields) :
    f ≠ [] ∧ ∀ c ∈ f, isGraph c = true ∧ c ≠ ')' := by
  rcases List.mem_append.mp hf with hf | hf
  · exact p.tokens f (List.mem_append_left _ hf)
  · rcases List.mem_cons.mp hf with rfl | hf
    · exact ⟨Nat.toDigits_ne_nil, fun c hc => graph_toDigits hc⟩
    · exact p.tokens f (List.mem_append_right _ hf)

theorem ProcessStat.mem_rest (hc : c ∈ p.rest) : c = ' ' ∨ isGraph c = true ∧ c ≠ ')' := by
  obtain ⟨f, hf, hc⟩ := List.mem_flatMap.mp hc
  rcases List.mem_cons.mp hc with rfl | hc
  · exact .inl rfl
  · exact .inr ((ProcessStat.field_graph hf).2 c hc)

theorem ProcessStat.rest_close (p : ProcessStat) : ')' ∉ p.rest := by
  intro hc
  rcases ProcessStat.mem_rest hc with heq | hgraph
  · exact absurd heq (by decide)
  · exact hgraph.2 rfl

theorem ProcessStat.rest_last (p : ProcessStat) : ∃ front c, p.rest = front ++ [c] ∧
    isGraph c = true := by
  have hne : p.fields ≠ [] := by simp [ProcessStat.fields]
  obtain ⟨fs, f, hfs⟩ := (List.eq_nil_or_concat p.fields).resolve_left hne
  have hf : f ∈ p.fields := by simp [hfs]
  obtain ⟨hfne, hgraph⟩ := ProcessStat.field_graph hf
  obtain ⟨g, c, rfl⟩ := (List.eq_nil_or_concat f).resolve_left hfne
  refine ⟨fs.flatMap (' ' :: ·) ++ ' ' :: g, c, ?_, (hgraph c (by simp)).1⟩
  rw [ProcessStat.rest, hfs]
  simp

/-- Which processes there are. A pid is a positive `pid_t`, and a line is shorter than the page that
is read of it. -/
structure ProcessTable where
  entry : ℕ → Option ProcessStat
  pids : ∀ pid p, entry pid = some p → 0 < pid ∧ pid < 2 ^ 31
  fits : ∀ pid p, entry pid = some p → (p.line pid).length < 4096

/-- The contents of `/proc/PID/stat`. -/
def ProcessTable.file (t : ProcessTable) (pid : ℤ) : Option (List Char) :=
  if 0 < pid then (t.entry pid.toNat).map (·.line pid.toNat) else none

def ProcessTable.Alive (t : ProcessTable) (pid start : ℕ) : Prop :=
  ∃ p, t.entry pid = some p ∧ p.startTime = start

instance (t : ProcessTable) (pid start : ℕ) : Decidable (t.Alive pid start) :=
  decidable_of_iff ((t.entry pid).any (·.startTime = start) = true) (by
    cases h : t.entry pid with
    | none => simp [ProcessTable.Alive, h]
    | some p => simp [ProcessTable.Alive, h])

theorem ProcessTable.file_natCast (t : ProcessTable) {pid : ℕ} (h : 0 < pid) :
    t.file pid = (t.entry pid).map (·.line pid) := by
  have hpos : (0 : ℤ) < pid := Int.natCast_pos.mpr h
  rw [ProcessTable.file, if_pos hpos, Int.toNat_natCast]

/-! ## Tables of processes without a name -/

theorem zeros_graph {n : ℕ} {f : List Char} (h : f ∈ List.replicate n ['0']) :
    f ≠ [] ∧ ∀ c ∈ f, isGraph c = true ∧ c ≠ ')' := by
  rw [List.eq_of_mem_replicate h]
  exact ⟨List.cons_ne_nil _ _, List.forall_mem_singleton.mpr ⟨rfl, by decide⟩⟩

def ProcessStat.bare (start : ℕ) (h : start < 2 ^ 64) : ProcessStat where
  comm := []
  before := List.replicate 19 ['0']
  startTime := start
  after := []
  named := List.not_mem_nil
  count := rfl
  tokens := fun _ hf => zeros_graph (List.append_nil _ ▸ hf)
  range := h

theorem ProcessStat.length_line_bare {pid start : ℕ} (hpid : pid < 2 ^ 31) (h : start < 2 ^ 64) :
    ((ProcessStat.bare start h).line pid).length < 4096 := by
  have hpidDigits : (Nat.toDigits 10 pid).length ≤ 10 :=
    (Nat.length_toDigits_le_iff (by decide) (by decide)).mpr (Nat.lt_trans hpid (by decide))
  have hstartDigits : (Nat.toDigits 10 start).length ≤ 20 :=
    (Nat.length_toDigits_le_iff (by decide) (by decide)).mpr (Nat.lt_trans h (by decide))
  simp [ProcessStat.line, ProcessStat.rest, ProcessStat.fields, ProcessStat.bare]
  omega

/-- The processes with these start times, as far as there can be such processes. -/
def ProcessTable.bare (starts : ℕ → Option ℕ) : ProcessTable where
  entry pid := (starts pid).bind fun start =>
    if h : (0 < pid ∧ pid < 2 ^ 31) ∧ start < 2 ^ 64 then some (.bare start h.2) else none
  pids := by
    intro pid p hp
    obtain ⟨start, -, hp⟩ := Option.bind_eq_some_iff.mp hp
    split at hp
    · rename_i h
      exact h.1
    · cases hp
  fits := by
    intro pid p hp
    obtain ⟨start, -, hp⟩ := Option.bind_eq_some_iff.mp hp
    split at hp
    · rename_i h
      cases hp
      exact ProcessStat.length_line_bare h.1.2 h.2
    · cases hp

theorem ProcessTable.bare_comm {starts : ℕ → Option ℕ} {pid : ℕ} {p : ProcessStat}
    (h : (ProcessTable.bare starts).entry pid = some p) : p.comm = [] := by
  obtain ⟨start, -, hp⟩ := Option.bind_eq_some_iff.mp h
  split at hp
  · cases hp
    rfl
  · cases hp

theorem ProcessTable.bare_alive {starts : ℕ → Option ℕ} {pid start : ℕ}
    (hpid : 0 < pid ∧ pid < 2 ^ 31) (hstart : start < 2 ^ 64) (h : starts pid = some start) :
    (ProcessTable.bare starts).Alive pid start := by
  refine ⟨.bare start hstart, ?_, rfl⟩
  simp only [ProcessTable.bare, h, Option.bind_some]
  rw [dif_pos ⟨hpid, hstart⟩]

end Tcpcc.Procfs

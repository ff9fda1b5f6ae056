import Mathlib.Data.List.Basic

/-!
# Descriptor tables

The descriptors of a process: finitely many numbers refer to open files, each with a close-on-exec
flag. New descriptors take the lowest free numbers, and `dup2` of a descriptor to its own number
changes nothing, the flag included.
-/

structure Descriptor (α : Type*) where
  file : α
  cloexec : Bool
  deriving DecidableEq, Repr

abbrev FdTable (α : Type*) := List (Option (Descriptor α))

namespace FdTable
variable {α : Type*}

def get (t : FdTable α) (fd : ℕ) : Option (Descriptor α) := (t[fd]?).join

def put (t : FdTable α) (fd : ℕ) (d : Descriptor α) : FdTable α :=
  (t ++ List.replicate (fd + 1 - t.length) none).set fd (some d)

def lowestFree (t : FdTable α) : ℕ := t.findIdx Option.isNone

/-- A call that opens one descriptor, close-on-exec; with its number. -/
def openNew (file : α) (t : FdTable α) : ℕ × FdTable α :=
  (t.lowestFree, t.put t.lowestFree ⟨file, true⟩)

/-- `pipe2` with `O_CLOEXEC`: the numbers of the read end and of the write end. -/
def pipe (readEnd writeEnd : α) (t : FdTable α) : (ℕ × ℕ) × FdTable α :=
  let reading := t.openNew readEnd
  let writing := reading.2.openNew writeEnd
  ((reading.1, writing.1), writing.2)

def dup2 (old new : ℕ) (t : FdTable α) : Option (FdTable α) :=
  (t.get old).map fun d => if old = new then t else t.put new ⟨d.file, false⟩

/-- `fcntl` with `F_SETFD`. -/
def setCloexec (fd : ℕ) (flag : Bool) (t : FdTable α) : Option (FdTable α) :=
  (t.get fd).map fun d => t.put fd ⟨d.file, flag⟩

/-- `close` of every number from `first` up to `limit`, open or not. -/
def closeBelow (first limit : ℕ) (t : FdTable α) : FdTable α :=
  t.mapIdx fun fd d => if first ≤ fd ∧ fd < limit then none else d

/-- The table after a successful `execv`. -/
def exec (t : FdTable α) : FdTable α := t.map (Option.filter fun d => !d.cloexec)

theorem get_put (t : FdTable α) (fd k : ℕ) (d : Descriptor α) :
    (t.put fd d).get k = if k = fd then some d else t.get k := by
  by_cases hk : k = fd
  · subst hk
    have hlt : k < (t ++ List.replicate (k + 1 - t.length) none).length := by
      simp only [List.length_append, List.length_replicate]
      omega
    rw [if_pos rfl, get, put, List.getElem?_set_self hlt]
    rfl
  · rw [if_neg hk, get, put, List.getElem?_set_ne (Ne.symm hk), get]
    rcases Nat.lt_or_ge k t.length with hlt | hge
    · rw [List.getElem?_append_left hlt]
    · rw [List.getElem?_append_right hge, List.getElem?_replicate, List.getElem?_eq_none hge]
      split <;> rfl

theorem get_put_self (t : FdTable α) (fd : ℕ) (d : Descriptor α) :
    (t.put fd d).get fd = some d := by
  rw [get_put, if_pos rfl]

theorem get_put_of_ne (t : FdTable α) {fd k : ℕ} (d : Descriptor α) (h : k ≠ fd) :
    (t.put fd d).get k = t.get k := by
  rw [get_put, if_neg h]

theorem get_lowestFree (t : FdTable α) : t.get t.lowestFree = none := by
  rcases Nat.lt_or_ge t.lowestFree t.length with hlt | hge
  · have hfree : (t[t.lowestFree]).isNone := List.findIdx_getElem (w := hlt)
    rw [get, List.getElem?_eq_getElem hlt, Option.isNone_iff_eq_none.mp hfree]
    rfl
  · rw [get, List.getElem?_eq_none hge]
    rfl

theorem lowestFree_le {t : FdTable α} {fd : ℕ} (h : t.get fd = none) : t.lowestFree ≤ fd := by
  by_contra hlt
  have hfd : fd < t.lowestFree := Nat.lt_of_not_le hlt
  have hlen : fd < t.length := Nat.lt_of_lt_of_le hfd List.findIdx_le_length
  have hused : (t[fd]).isNone = false := by simpa using List.not_of_lt_findIdx hfd
  rw [get, List.getElem?_eq_getElem hlen] at h
  have hfree : t[fd] = none := h
  rw [hfree] at hused
  cases hused

theorem lowestFree_lt_put (t : FdTable α) (d : Descriptor α) :
    t.lowestFree < (t.put t.lowestFree d).lowestFree := by
  have hfree := (t.put t.lowestFree d).get_lowestFree
  rw [get_put] at hfree
  split at hfree
  case isTrue => cases hfree
  case isFalse hne => exact Nat.lt_of_le_of_ne (lowestFree_le hfree) (Ne.symm hne)

theorem get_openNew_self (file : α) (t : FdTable α) :
    (t.openNew file).2.get (t.openNew file).1 = some ⟨file, true⟩ :=
  get_put_self _ _ _

theorem get_openNew (file : α) {t : FdTable α} {k : ℕ} {d : Descriptor α}
    (hk : t.get k = some d) : (t.openNew file).2.get k = some d := by
  refine (get_put_of_ne _ _ ?_).trans hk
  rintro rfl
  rw [get_lowestFree] at hk
  cases hk

theorem isSome_openNew_zero (file : α) (t : FdTable α) : ((t.openNew file).2.get 0).isSome := by
  cases hzero : t.get 0 with
  | some d =>
    rw [get_openNew file hzero]
    rfl
  | none =>
    have hnumber : (t.openNew file).1 = 0 := Nat.le_zero.mp (lowestFree_le hzero)
    rw [← hnumber, get_openNew_self]
    rfl

structure Piped (readEnd writeEnd : α) (t : FdTable α) (r w : ℕ) (t' : FdTable α) : Prop where
  read_eq : r = t.lowestFree
  read_lt : r < w
  write_lt : w < t'.lowestFree
  read : t'.get r = some ⟨readEnd, true⟩
  write : t'.get w = some ⟨writeEnd, true⟩
  kept : ∀ {k d}, t.get k = some d → t'.get k = some d

theorem pipe_spec (readEnd writeEnd : α) (t : FdTable α) :
    ∃ r w t', t.pipe readEnd writeEnd = ((r, w), t') ∧ Piped readEnd writeEnd t r w t' := by
  have hread := get_openNew writeEnd (get_openNew_self readEnd t)
  exact ⟨_, _, _, rfl, rfl, t.lowestFree_lt_put _, lowestFree_lt_put _ _, hread,
    get_openNew_self _ _, fun hk => get_openNew _ (get_openNew _ hk)⟩

theorem dup2_spec {t : FdTable α} {old : ℕ} {d : Descriptor α} (new : ℕ)
    (hold : t.get old = some d) :
    ∃ t', t.dup2 old new = some t' ∧
      t'.get new = some ⟨d.file, if old = new then d.cloexec else false⟩ ∧
      ∀ k, k ≠ new → t'.get k = t.get k := by
  rw [dup2, hold, Option.map_some]
  by_cases h : old = new
  · subst h
    rw [if_pos rfl, if_pos rfl]
    exact ⟨t, rfl, hold, fun k _ => rfl⟩
  · rw [if_neg h, if_neg h]
    exact ⟨_, rfl, get_put_self _ _ _, fun k hk => get_put_of_ne _ _ hk⟩

theorem setCloexec_spec {t : FdTable α} {fd : ℕ} {d : Descriptor α} (flag : Bool)
    (hfd : t.get fd = some d) :
    ∃ t', t.setCloexec fd flag = some t' ∧ t'.get fd = some ⟨d.file, flag⟩ ∧
      ∀ k, k ≠ fd → t'.get k = t.get k := by
  rw [setCloexec, hfd]
  exact ⟨_, rfl, get_put_self _ _ _, fun k hk => get_put_of_ne _ _ hk⟩

theorem get_take (t : FdTable α) (first fd : ℕ) :
    get (t.take first) fd = if fd < first then t.get fd else none := by
  rw [get, List.getElem?_take, get]
  split <;> rfl

theorem get_exec (t : FdTable α) (fd : ℕ) :
    t.exec.get fd = (t.get fd).filter fun d => !d.cloexec := by
  rw [get, exec, List.getElem?_map, get]
  cases t[fd]? with
  | none => rfl
  | some d => rfl

end FdTable

import Mathlib.Algebra.BigOperators.Group.List.Basic
import Mathlib.Data.List.Sort
import Tcpcc.Kernel
import Tcpcc.Lib.Extents

/-!
# Page reclaim

`reclaim.c`: `tcpcc_reclaim_report` and what it calls. A batch of free pages is checked, sorted,
joined to longer ranges and given back to the host in calls of bounded size. `calls` is history:
the calls of `tcpcc_host_discard_pages` with their results.
-/

namespace Tcpcc.Memory

def pageSize : ℕ := 4096
def reclaimMaxRangeBytes : ℕ := 16 * 1024 * 1024
def pageReportingCapacity : ℕ := 32
def ulongMax : ℕ := 2 ^ 64 - 1

/-- The memory of the hosted kernel: `tcpcc_physmem` and `max_pfn`. -/
structure Arena where
  physmem : ℕ
  maxPfn : ℕ
  aligned : pageSize ∣ physmem
  fits : physmem + maxPfn * pageSize ≤ ulongMax + 1

structure Entry where
  page : Option ℕ
  offset : ℕ := 0
  length : ℕ
  deriving DecidableEq, Repr

inductive ReclaimState
  | starting
  | active
  | unsupported
  | failed
  deriving DecidableEq, Repr

/-- `struct tcpcc_control_reclaim_stats` without its constants. -/
structure ReclaimStats where
  reportedBytes : ℕ := 0
  successfulDiscardBytes : ℕ := 0
  batches : ℕ := 0
  ranges : ℕ := 0
  failedBytes : ℕ := 0
  advisoryFailures : ℕ := 0
  state : ReclaimState := .active
  lastError : ℤ := 0
  deriving DecidableEq, Repr

structure Call extends Extent where
  result : ℤ
  deriving DecidableEq, Repr

structure Reclaim where
  stats : ReclaimStats := {}
  disableScheduled : Bool := false
  calls : List Call := []
  deriving DecidableEq, Repr

namespace Reclaim

def fail (error : ℤ) (bytes : ℕ) (s : Reclaim) : Reclaim :=
  let s := if s.stats.advisoryFailures = 0 then
      { s with
        stats := { s.stats with
          advisoryFailures := 1
          lastError := error
          state := if error = -ENOSYS ∨ error = -EINVAL then .unsupported else .failed }
        disableScheduled := true }
    else s
  { s with stats := { s.stats with failedBytes := s.stats.failedBytes + bytes } }

/-- The inner loop of `tcpcc_reclaim_sort`. The sorted part of the array is kept from its end,
where the loop starts. -/
def sortInsert (value : Extent) : List Extent → List Extent
  | [] => [value]
  | r :: rs => if r.start > value.start then r :: sortInsert value rs else value :: r :: rs

def sort (ranges : List Extent) : List Extent :=
  (ranges.foldl (fun sorted value => sortInsert value sorted) []).reverse

variable (answer : ℕ → ℤ)

/-- `answer` gives the results of `tcpcc_host_discard_pages`, by the number of the call. -/
def oneRange (start length : ℕ) (s : Reclaim) : ℤ × Reclaim :=
  if length = 0 then (0, s)
  else
    let chunk := min length reclaimMaxRangeBytes
    let ret := answer s.calls.length
    let s := { s with
      stats := { s.stats with ranges := s.stats.ranges + 1 }
      calls := s.calls ++ [Call.mk ⟨start, chunk⟩ ret] }
    if ret ≠ 0 then (ret, s.fail ret length)
    else
      oneRange (start + chunk) (length - chunk) { s with
        stats := { s.stats with
          successfulDiscardBytes := s.stats.successfulDiscardBytes + chunk } }
termination_by length
decreasing_by
  simp only [reclaimMaxRangeBytes]
  omega

/-- The range is joined to the next one by the inner loop of `tcpcc_reclaim_report`. -/
def joins (start length : ℕ) (next : Extent) : Bool :=
  decide ((start + length) % (ulongMax + 1) = next.start) &&
    decide (length ≤ ulongMax - next.length)

/-- The loop over the sorted ranges, with a first range that may already be joined. -/
def discardFrom (start length : ℕ) : List Extent → Reclaim → ℤ × Reclaim
  | [], s =>
    let (ret, s) := oneRange answer start length s
    if ret ≠ 0 then (s.stats.lastError, s) else (0, s)
  | next :: rest, s =>
    if joins start length next then discardFrom start (length + next.length) rest s
    else
      let (ret, s) := oneRange answer start length s
      if ret ≠ 0 then (s.stats.lastError, s) else discardFrom next.start next.length rest s

def checkEntry (arena : Arena) (entry : Entry) : Except ℤ Extent :=
  match entry.page with
  | none => .error (-EINVAL)
  | some pfn =>
    if entry.offset ≠ 0 ∨ entry.length = 0 ∨ entry.length % pageSize ≠ 0 then .error (-EINVAL)
    else if pfn = 0 ∨ pfn ≥ arena.maxPfn ∨ entry.length / pageSize > arena.maxPfn - pfn then
      .error (-ERANGE)
    else .ok ⟨arena.physmem + pfn * pageSize, entry.length⟩

/-- The loop over the entries; a failure comes with the bytes of the entries before it. -/
def gather (arena : Arena) : List Entry → List Extent → ℕ → Except (ℤ × ℕ) (List Extent × ℕ)
  | [], ranges, total => .ok (ranges, total)
  | entry :: entries, ranges, total =>
    match checkEntry arena entry with
    | .error error => .error (error, total)
    | .ok r => gather arena entries (ranges ++ [r]) (total + r.length)

def report (arena : Arena) (entries : List Entry) (s : Reclaim) : ℤ × Reclaim :=
  if entries.length = 0 ∨ entries.length > pageReportingCapacity then
    (-EINVAL, s.fail (-EINVAL) 0)
  else
    match gather arena entries [] 0 with
    | .error (error, total) => (error, s.fail error total)
    | .ok (ranges, total) =>
      let s := { s with stats := { s.stats with
        batches := s.stats.batches + 1
        reportedBytes := s.stats.reportedBytes + total } }
      match sort ranges with
      | [] => (0, s)
      | r :: rs => discardFrom answer r.start r.length rs s

end Reclaim

open Reclaim

/-! ## Sorting -/

theorem sortInsert_eq (value : Extent) (rs : List Extent) :
    sortInsert value rs = rs.orderedInsert (fun a b => b.start ≤ a.start) value := by
  induction rs with
  | nil => rfl
  | cons r rs ih =>
    simp only [sortInsert, List.orderedInsert]
    by_cases hgt : r.start > value.start
    · rw [if_pos hgt, if_neg (Nat.not_le.mpr hgt), ih]
    · rw [if_neg hgt, if_pos (Nat.le_of_not_lt hgt)]

theorem sort_eq (ranges : List Extent) :
    sort ranges = (ranges.reverse.insertionSort fun a b => b.start ≤ a.start).reverse := by
  unfold sort
  rw [List.foldl_eq_foldr_reverse, List.insertionSort]
  simp only [sortInsert_eq]

theorem perm_sort (ranges : List Extent) : (sort ranges).Perm ranges := by
  rw [sort_eq]
  exact (List.reverse_perm _).trans ((List.perm_insertionSort _ _).trans (List.reverse_perm _))

theorem sorted_sort (ranges : List Extent) :
    (sort ranges).Pairwise fun a b => a.start ≤ b.start := by
  rw [sort_eq, List.pairwise_reverse]
  exact List.pairwise_insertionSort _ _

/-! ## Discarding -/

variable {answer : ℕ → ℤ} {s t : Reclaim} {start length : ℕ}

def Call.pages (c : Call) : List ℕ := c.toExtent.blocks pageSize

structure Discards (lo hi : ℕ) (pages : List ℕ) (ok : Prop) (calls : List Call) : Prop where
  bounds : ∀ c ∈ calls, lo ≤ c.start ∧ c.stop ≤ hi ∧ pageSize ∣ c.start ∧ pageSize ∣ c.length ∧
    0 < c.length ∧ c.length ≤ reclaimMaxRangeBytes
  order : calls.Pairwise fun a b => a.Before b.toExtent
  complete : ok → (∀ c ∈ calls, c.result = 0) ∧ calls.flatMap Call.pages = pages
  cut : ¬ ok → ∃ before last, calls = before ++ [last] ∧ (∀ c ∈ before, c.result = 0) ∧
    last.result ≠ 0 ∧ before.flatMap Call.pages <+: pages

theorem fail_calls (error : ℤ) (bytes : ℕ) (s : Reclaim) :
    (s.fail error bytes).calls = s.calls := by
  unfold fail
  dsimp only
  split <;> rfl

theorem Discards.nothing (lo : ℕ) {ok : Prop} (hok : ok) : Discards lo lo [] ok [] where
  bounds _ h := absurd h List.not_mem_nil
  order := List.Pairwise.nil
  complete _ := ⟨fun _ h => absurd h List.not_mem_nil, rfl⟩
  cut h := absurd hok h

variable {calls : List Call} {next : Extent} {entries : List Entry}

theorem Discards.widen {lo mid hi : ℕ} {pages : List ℕ} {ok : Prop}
    (h : Discards lo mid pages ok calls) (hhi : mid ≤ hi) : Discards lo hi pages ok calls := by
  refine ⟨fun c hc => ?_, h.order, h.complete, h.cut⟩
  obtain ⟨h₁, h₂, h₃⟩ := h.bounds c hc
  exact ⟨h₁, h₂.trans hhi, h₃⟩

theorem Discards.append {lo mid hi : ℕ} {pages rest : List ℕ} {ok ok' : Prop} {later : List Call}
    (h : Discards lo mid pages ok calls) (hok : ok) (h' : Discards mid hi rest ok' later)
    (hlo : lo ≤ mid) (hhi : mid ≤ hi) : Discards lo hi (pages ++ rest) ok' (calls ++ later) := by
  obtain ⟨hzero, hpages⟩ := h.complete hok
  constructor
  case bounds =>
    intro c hc
    obtain hc | hc := List.mem_append.mp hc
    · obtain ⟨h₁, h₂, h₃⟩ := h.bounds c hc
      exact ⟨h₁, h₂.trans hhi, h₃⟩
    · obtain ⟨h₁, h₂, h₃⟩ := h'.bounds c hc
      exact ⟨hlo.trans h₁, h₂, h₃⟩
  case order =>
    refine List.pairwise_append.mpr ⟨h.order, h'.order, fun a ha b hb => ?_⟩
    exact (h.bounds a ha).2.1.trans (h'.bounds b hb).1
  case complete =>
    intro hok'
    obtain ⟨hzero', hpages'⟩ := h'.complete hok'
    refine ⟨fun c hc => (List.mem_append.mp hc).elim (hzero c) (hzero' c), ?_⟩
    rw [List.flatMap_append, hpages, hpages']
  case cut =>
    intro hok'
    obtain ⟨before, last, rfl, hbefore, hlast, hcut⟩ := h'.cut hok'
    refine ⟨calls ++ before, last, (List.append_assoc _ _ _).symm, ?_, hlast, ?_⟩
    · exact fun c hc => (List.mem_append.mp hc).elim (hzero c) (hbefore c)
    · rw [List.flatMap_append, hpages]
      exact (List.prefix_append_right_inj pages).mpr hcut

theorem Discards.stopped {lo mid hi : ℕ} {pages : List ℕ} {ok ok' : Prop}
    (h : Discards lo mid pages ok calls) (hok : ¬ ok) (hhi : mid ≤ hi) (rest : List ℕ)
    (hok' : ¬ ok') : Discards lo hi (pages ++ rest) ok' calls := by
  obtain ⟨before, last, hcalls, hbefore, hlast, hcut⟩ := h.cut hok
  refine ⟨(h.widen hhi).bounds, h.order, fun hyes => absurd hyes hok', fun _ => ?_⟩
  exact ⟨before, last, hcalls, hbefore, hlast, hcut.trans (List.prefix_append pages rest)⟩

theorem chunk_dvd (hlength : pageSize ∣ length) : pageSize ∣ min length reclaimMaxRangeBytes := by
  obtain hle | hle := Nat.le_total length reclaimMaxRangeBytes
  · rwa [Nat.min_eq_left hle]
  · rw [Nat.min_eq_right hle]
    decide

theorem Discards.single {chunk : ℕ} (ret : ℤ) (hstart : pageSize ∣ start)
    (hchunk : pageSize ∣ chunk) (hpos : 0 < chunk) (hmax : chunk ≤ reclaimMaxRangeBytes) :
    Discards start (start + chunk) (Extent.blocks pageSize ⟨start, chunk⟩) (ret = 0)
      [Call.mk ⟨start, chunk⟩ ret] where
  bounds c hc := by
    obtain rfl := List.mem_singleton.mp hc
    exact ⟨le_rfl, le_rfl, hstart, hchunk, hpos, hmax⟩
  order := List.pairwise_singleton _ _
  complete hret := by
    refine ⟨fun c hc => ?_, List.append_nil _⟩
    obtain rfl := List.mem_singleton.mp hc
    exact hret
  cut hret := ⟨[], _, rfl, fun _ h => absurd h List.not_mem_nil, hret, List.nil_prefix⟩

theorem Discards.chunk (ret : ℤ) (hstart : pageSize ∣ start) (hlength : pageSize ∣ length)
    (hpos : length ≠ 0) :
    Discards start (start + min length reclaimMaxRangeBytes)
      (Extent.blocks pageSize ⟨start, min length reclaimMaxRangeBytes⟩) (ret = 0)
      [Call.mk ⟨start, min length reclaimMaxRangeBytes⟩ ret] := by
  refine .single ret hstart (chunk_dvd hlength) ?_ (Nat.min_le_right _ _)
  simp only [reclaimMaxRangeBytes]
  omega

theorem blocks_chunk (start : ℕ) (hlength : pageSize ∣ length) :
    Extent.blocks pageSize ⟨start, length⟩ =
      Extent.blocks pageSize ⟨start, min length reclaimMaxRangeBytes⟩ ++
        Extent.blocks pageSize ⟨start + min length reclaimMaxRangeBytes,
          length - min length reclaimMaxRangeBytes⟩ := by
  rw [← Extent.blocks_split (by decide) (chunk_dvd hlength),
    Nat.add_sub_cancel' (Nat.min_le_left _ _)]

theorem oneRange_discards (answer : ℕ → ℤ) (hstart : pageSize ∣ start)
    (hlength : pageSize ∣ length) (s : Reclaim) :
    ∃ calls, (oneRange answer start length s).2.calls = s.calls ++ calls ∧
      Discards start (start + length) (Extent.blocks pageSize ⟨start, length⟩)
        ((oneRange answer start length s).1 = 0) calls := by
  fun_induction oneRange answer start length s with
  | case1 start s =>
    rw [Extent.blocks_zero]
    exact ⟨[], (List.append_nil _).symm, Discards.nothing start rfl⟩
  | case2 start length s hpos chunk ret t hret =>
    have hle : chunk ≤ length := Nat.min_le_left _ _
    rw [blocks_chunk start hlength]
    refine ⟨_, fail_calls _ _ _, ?_⟩
    exact (Discards.chunk ret hstart hlength hpos).stopped hret (by omega) _ hret
  | case3 start length s hpos chunk ret t hret ih =>
    have hle : chunk ≤ length := Nat.min_le_left _ _
    obtain ⟨later, hcalls, hlater⟩ := ih (Nat.dvd_add hstart (chunk_dvd hlength))
      (Nat.dvd_sub hlength (chunk_dvd hlength))
    rw [Nat.add_assoc, Nat.add_sub_cancel' hle] at hlater
    rw [blocks_chunk start hlength]
    refine ⟨Call.mk ⟨start, chunk⟩ ret :: later, ?_, ?_⟩
    · rw [hcalls, List.append_assoc, List.singleton_append]
    · exact (Discards.chunk ret hstart hlength hpos).append (not_not.mp hret) hlater
        (by omega) (by omega)

structure Laid (hi : ℕ) (ranges : List Extent) : Prop where
  order : ranges.Pairwise Extent.Before
  aligned : ∀ r ∈ ranges, pageSize ∣ r.start ∧ pageSize ∣ r.length
  stop : ∀ r ∈ ranges, r.stop ≤ hi

theorem Laid.tail {hi : ℕ} {r : Extent} {rs : List Extent} (h : Laid hi (r :: rs)) : Laid hi rs :=
  ⟨(List.pairwise_cons.mp h.order).2, fun e he => h.aligned e (List.mem_cons_of_mem r he),
    fun e he => h.stop e (List.mem_cons_of_mem r he)⟩

theorem Laid.join {hi : ℕ} {rest : List Extent} (h : Laid hi (⟨start, length⟩ :: next :: rest))
    (hnext : start + length = next.start) : Laid hi (⟨start, length + next.length⟩ :: rest) := by
  obtain ⟨hfirst, hrest⟩ := List.pairwise_cons.mp h.order
  obtain ⟨hnextfirst, hlater⟩ := List.pairwise_cons.mp hrest
  have hmem : next ∈ (⟨start, length⟩ : Extent) :: next :: rest :=
    List.mem_cons_of_mem _ List.mem_cons_self
  have hstop : (⟨start, length + next.length⟩ : Extent).stop = next.stop := by
    simp only [Extent.stop]
    omega
  refine ⟨List.pairwise_cons.mpr ⟨fun e he => ?_, hlater⟩, fun e he => ?_, fun e he => ?_⟩
  · exact hstop.le.trans (hnextfirst e he)
  · obtain rfl | he := List.mem_cons.mp he
    · obtain ⟨hstart, hlength⟩ := h.aligned _ List.mem_cons_self
      exact ⟨hstart, Nat.dvd_add hlength (h.aligned next hmem).2⟩
    · exact h.aligned e (List.mem_cons_of_mem _ (List.mem_cons_of_mem _ he))
  · obtain rfl | he := List.mem_cons.mp he
    · exact hstop ▸ h.stop next hmem
    · exact h.stop e (List.mem_cons_of_mem _ (List.mem_cons_of_mem _ he))

theorem joins_eq (hjoins : joins start length next = true) (hstop : start + length ≤ ulongMax + 1)
    (hnext : 0 < next.start) : start + length = next.start := by
  simp only [joins, Bool.and_eq_true, decide_eq_true_eq] at hjoins
  obtain hlt | heq := Nat.lt_or_eq_of_le hstop
  · rw [Nat.mod_eq_of_lt hlt] at hjoins
    exact hjoins.1
  · rw [heq, Nat.mod_self] at hjoins
    omega

theorem discardFrom_nil (s : Reclaim) :
    (discardFrom answer start length [] s).2 = (oneRange answer start length s).2 := by
  unfold discardFrom
  dsimp only
  split <;> rfl

theorem discardFrom_joined (hjoins : joins start length next = true) (rest : List Extent)
    (s : Reclaim) : discardFrom answer start length (next :: rest) s =
      discardFrom answer start (length + next.length) rest s := by
  rw [discardFrom, if_pos hjoins]

theorem discardFrom_stopped (hjoins : joins start length next = false)
    (hret : (oneRange answer start length s).1 ≠ 0) (rest : List Extent) :
    (discardFrom answer start length (next :: rest) s).2 = (oneRange answer start length s).2 := by
  rw [discardFrom, if_neg (Bool.eq_false_iff.mp hjoins)]
  dsimp only
  rw [if_pos hret]

theorem discardFrom_next (hjoins : joins start length next = false)
    (hret : (oneRange answer start length s).1 = 0) (rest : List Extent) :
    discardFrom answer start length (next :: rest) s =
      discardFrom answer next.start next.length rest (oneRange answer start length s).2 := by
  rw [discardFrom, if_neg (Bool.eq_false_iff.mp hjoins)]
  dsimp only
  rw [if_neg (not_not.mpr hret)]

theorem discardFrom_discards (answer : ℕ → ℤ) {hi : ℕ} {rest : List Extent}
    (hlaid : Laid hi (⟨start, length⟩ :: rest)) (hpos : 0 < start) (hhi : hi ≤ ulongMax + 1)
    (s : Reclaim) : ∃ calls ok,
      (discardFrom answer start length rest s).2.calls = s.calls ++ calls ∧
      Discards start hi ((⟨start, length⟩ :: rest).flatMap (Extent.blocks pageSize)) ok calls := by
  induction rest generalizing start length s with
  | nil =>
    have hstop : start + length ≤ hi := hlaid.stop _ List.mem_cons_self
    obtain ⟨hstart, hlength⟩ := hlaid.aligned _ List.mem_cons_self
    obtain ⟨calls, hcalls, hdiscards⟩ :=
      oneRange_discards answer hstart hlength s
    refine ⟨calls, (oneRange answer start length s).1 = 0, by rw [discardFrom_nil, hcalls], ?_⟩
    rw [List.flatMap_cons, List.flatMap_nil, List.append_nil]
    exact hdiscards.widen hstop
  | cons next rest ih =>
    have hstop : start + length ≤ hi := hlaid.stop _ List.mem_cons_self
    have hbefore : start + length ≤ next.start :=
      (List.pairwise_cons.mp hlaid.order).1 next List.mem_cons_self
    cases hjoins : joins start length next with
    | true =>
      have hnext := joins_eq hjoins (hstop.trans hhi) (by omega)
      obtain ⟨calls, ok, hcalls, hdiscards⟩ := ih (hlaid.join hnext) hpos s
      refine ⟨calls, ok, by rw [discardFrom_joined hjoins, hcalls], ?_⟩
      have hlength := (hlaid.aligned _ List.mem_cons_self).2
      rw [List.flatMap_cons, Extent.blocks_split (by decide) hlength, hnext,
        List.append_assoc] at hdiscards
      exact hdiscards
    | false =>
      obtain ⟨hstart, hlength⟩ := hlaid.aligned _ List.mem_cons_self
      obtain ⟨calls, hcalls, hdiscards⟩ :=
        oneRange_discards answer hstart hlength s
      rw [List.flatMap_cons]
      by_cases hret : (oneRange answer start length s).1 = 0
      · obtain ⟨later, ok, hlater, hrest⟩ := ih hlaid.tail (by omega)
          (oneRange answer start length s).2
        refine ⟨calls ++ later, ok, ?_, ?_⟩
        · rw [discardFrom_next hjoins hret, hlater, hcalls, List.append_assoc]
        · exact (hdiscards.widen hbefore).append hret hrest
            ((Nat.le_add_right _ _).trans hbefore)
            ((Nat.le_add_right _ _).trans (hlaid.stop next (by simp)))
      · refine ⟨calls, False, by rw [discardFrom_stopped hjoins hret, hcalls], ?_⟩
        exact hdiscards.stopped hret hstop _ id

/-! ## Batches -/

def Entry.range (arena : Arena) (e : Entry) : Extent :=
  ⟨arena.physmem + e.page.getD 0 * pageSize, e.length⟩

def Entry.pages (arena : Arena) (e : Entry) : List ℕ := (e.range arena).blocks pageSize

structure Entry.Valid (arena : Arena) (e : Entry) : Prop where
  page : e.page.isSome = true
  offset : e.offset = 0
  nonempty : e.length ≠ 0
  aligned : pageSize ∣ e.length
  notZero : e.page ≠ some 0
  inside : e.page.getD 0 < arena.maxPfn ∧ e.length / pageSize ≤ arena.maxPfn - e.page.getD 0

variable {arena : Arena}

theorem checkEntry_ok {e : Entry} (h : e.Valid arena) :
    checkEntry arena e = .ok (e.range arena) := by
  obtain ⟨pfn, hpfn⟩ := Option.isSome_iff_exists.mp h.page
  have hzero : pfn ≠ 0 := fun hz => h.notZero (hz ▸ hpfn)
  have hinside := h.inside
  rw [hpfn, Option.getD_some] at hinside
  unfold checkEntry Entry.range
  rw [hpfn]
  dsimp only
  rw [if_neg, if_neg]
  · rfl
  · omega
  · rintro (hoffset | hlength | hmod)
    · exact hoffset h.offset
    · exact h.nonempty hlength
    · exact hmod (Nat.mod_eq_zero_of_dvd h.aligned)

theorem checkEntry_error {e : Entry} (h : ¬ e.Valid arena) :
    ∃ error, checkEntry arena e = .error error := by
  cases hcheck : checkEntry arena e with
  | error error => exact ⟨error, rfl⟩
  | ok r =>
    refine absurd ?_ h
    unfold checkEntry at hcheck
    cases hpage : e.page with
    | none =>
      rw [hpage] at hcheck
      cases hcheck
    | some pfn =>
      rw [hpage] at hcheck
      dsimp only at hcheck
      split at hcheck
      case isTrue => cases hcheck
      case isFalse hshape =>
        split at hcheck
        case isTrue => cases hcheck
        case isFalse hplace =>
          simp only [not_or, not_not] at hshape hplace
          refine ⟨by rw [hpage]; rfl, hshape.1, hshape.2.1,
            Nat.dvd_of_mod_eq_zero hshape.2.2, ?_, ?_⟩
          · rw [hpage]
            exact fun hzero => hplace.1 (Option.some.inj hzero)
          · rw [hpage, Option.getD_some]
            omega

theorem gather_ok (h : ∀ e ∈ entries, e.Valid arena) (ranges : List Extent) (total : ℕ) :
    gather arena entries ranges total =
      .ok (ranges ++ entries.map (Entry.range arena), total + (entries.map Entry.length).sum) := by
  induction entries generalizing ranges total with
  | nil => simp only [gather, List.map_nil, List.append_nil, List.sum_nil, Nat.add_zero]
  | cons e es ih =>
    obtain ⟨he, hes⟩ := List.forall_mem_cons.mp h
    rw [gather, checkEntry_ok he]
    dsimp only
    rw [ih hes, List.append_assoc, List.map_cons, List.map_cons, List.sum_cons, ← Nat.add_assoc]
    rfl

theorem gather_error (h : ∃ e ∈ entries, ¬ e.Valid arena) (ranges : List Extent) (total : ℕ) :
    ∃ error, gather arena entries ranges total = .error error := by
  induction entries generalizing ranges total with
  | nil => exact absurd h (by simp)
  | cons e es ih =>
    rw [gather]
    cases hcheck : checkEntry arena e with
    | error error => exact ⟨_, rfl⟩
    | ok r =>
      refine ih ?_ _ _
      obtain ⟨bad, hbad, hinvalid⟩ := h
      obtain rfl | hbad := List.mem_cons.mp hbad
      · obtain ⟨error, herror⟩ := checkEntry_error hinvalid
        rw [herror] at hcheck
        cases hcheck
      · exact ⟨bad, hbad, hinvalid⟩

theorem Entry.Valid.range_bounds {e : Entry} (h : e.Valid arena) :
    arena.physmem + pageSize ≤ (e.range arena).start ∧
      (e.range arena).stop ≤ arena.physmem + arena.maxPfn * pageSize ∧
      pageSize ∣ (e.range arena).start ∧ pageSize ∣ (e.range arena).length := by
  obtain ⟨pfn, hpfn⟩ := Option.isSome_iff_exists.mp h.page
  have hzero : pfn ≠ 0 := fun hz => h.notZero (hz ▸ hpfn)
  obtain ⟨hlt, hpages⟩ := h.inside
  obtain ⟨k, hk⟩ := h.aligned
  rw [hpfn, Option.getD_some] at hlt hpages
  rw [hk, Nat.mul_div_cancel_left k (by decide)] at hpages
  simp only [Entry.range, Extent.stop, hpfn, Option.getD_some, hk]
  refine ⟨?_, ?_, ?_, Nat.dvd_mul_right _ _⟩
  · simp only [pageSize]
    omega
  · simp only [pageSize]
    omega
  · exact Nat.dvd_add arena.aligned (Nat.dvd_mul_left _ _)

theorem laid_sort (h : ∀ e ∈ entries, e.Valid arena)
    (hdisjoint : entries.Pairwise fun e f => (e.range arena).Before (f.range arena) ∨
      (f.range arena).Before (e.range arena)) :
    Laid (arena.physmem + arena.maxPfn * pageSize) (sort (entries.map (Entry.range arena))) := by
  have hmem : ∀ r ∈ sort (entries.map (Entry.range arena)), ∃ e ∈ entries, e.range arena = r :=
    fun r hr => List.mem_map.mp ((perm_sort _).mem_iff.mp hr)
  constructor
  case order =>
    refine Extent.before_of_sorted (sorted_sort _) ?_ ?_
    · refine ((perm_sort _).pairwise_iff ?_).mpr (List.pairwise_map.mpr hdisjoint)
      exact fun hab => hab.symm
    · intro r hr
      obtain ⟨e, he, rfl⟩ := hmem r hr
      exact Nat.pos_of_ne_zero (h e he).nonempty
  case aligned =>
    intro r hr
    obtain ⟨e, he, rfl⟩ := hmem r hr
    exact (h e he).range_bounds.2.2
  case stop =>
    intro r hr
    obtain ⟨e, he, rfl⟩ := hmem r hr
    exact (h e he).range_bounds.2.1

theorem Discards.failed_last {lo hi : ℕ} {pages : List ℕ} {ok : Prop} {before after : List Call}
    {c : Call} (h : Discards lo hi pages ok calls) (hcalls : calls = before ++ c :: after)
    (hc : c.result ≠ 0) :
    after = [] ∧ (∀ c ∈ before, c.result = 0) ∧ before.flatMap Call.pages <+: pages := by
  have hmem : c ∈ calls := by
    rw [hcalls]
    exact List.mem_append_right _ List.mem_cons_self
  have hok : ¬ ok := fun hok => hc ((h.complete hok).1 c hmem)
  obtain ⟨front, last, hfront, hzero, -, hcut⟩ := h.cut hok
  rw [hcalls] at hfront
  obtain rfl | ⟨mid, x, rfl⟩ := List.eq_nil_or_concat after
  · obtain ⟨rfl, -⟩ := List.append_inj' hfront rfl
    exact ⟨rfl, hzero, hcut⟩
  · have hsplit : before ++ c :: mid = front := by
      have hassoc : before ++ c :: mid ++ [x] = front ++ [last] := by
        rw [← hfront, List.append_assoc, List.cons_append, List.concat_eq_append]
      exact (List.append_inj' hassoc rfl).1
    refine absurd (hzero c ?_) hc
    rw [← hsplit]
    exact List.mem_append_right _ List.mem_cons_self

theorem report_valid (answer : ℕ → ℤ) (s : Reclaim) {entries : List Entry}
    (hvalid : ∀ e ∈ entries, e.Valid arena) (hne : entries ≠ [])
    (hcount : entries.length ≤ pageReportingCapacity) :
    ∃ r rs, sort (entries.map (Entry.range arena)) = r :: rs ∧
      report answer arena entries s = discardFrom answer r.start r.length rs { s with
        stats := { s.stats with
          batches := s.stats.batches + 1
          reportedBytes := s.stats.reportedBytes + (entries.map Entry.length).sum } } := by
  have hlength := (perm_sort (entries.map (Entry.range arena))).length_eq
  rw [List.length_map] at hlength
  have hpos : entries.length ≠ 0 := fun hzero => hne (List.length_eq_zero_iff.mp hzero)
  cases hsort : sort (entries.map (Entry.range arena)) with
  | nil =>
    rw [hsort] at hlength
    exact absurd hlength.symm hpos
  | cons r rs =>
    refine ⟨r, rs, rfl, ?_⟩
    unfold report
    rw [if_neg (by omega), gather_ok hvalid, List.nil_append, Nat.zero_add]
    dsimp only
    rw [hsort]

theorem report_discards (answer : ℕ → ℤ) (s : Reclaim) {entries : List Entry}
    (hcount : entries.length ≤ pageReportingCapacity) :
    ((∃ e ∈ entries, ¬ e.Valid arena) → (report answer arena entries s).2.calls = s.calls) ∧
    ((∀ e ∈ entries, e.Valid arena) →
      (entries.Pairwise fun e f =>
        (e.range arena).Before (f.range arena) ∨ (f.range arena).Before (e.range arena)) →
      ∃ calls ordered, (report answer arena entries s).2.calls = s.calls ++ calls ∧
        (∀ c ∈ calls, pageSize ∣ c.start ∧ pageSize ∣ c.length ∧
          0 < c.length ∧ c.length ≤ reclaimMaxRangeBytes ∧
          arena.physmem + pageSize ≤ c.start ∧
          c.stop ≤ arena.physmem + arena.maxPfn * pageSize) ∧
        (calls.Pairwise fun a b => a.Before b.toExtent) ∧
        ordered.Perm (entries.flatMap (Entry.pages arena)) ∧ ordered.Pairwise (· < ·) ∧
        ((∀ c ∈ calls, c.result = 0) → calls.flatMap Call.pages = ordered) ∧
        (∀ before c after, calls = before ++ c :: after → c.result ≠ 0 →
          after = [] ∧ (∀ c ∈ before, c.result = 0) ∧
            before.flatMap Call.pages <+: ordered)) := by
  refine ⟨fun hinvalid => ?_, fun hvalid hdisjoint => ?_⟩
  · unfold report
    split
    case isTrue => exact fail_calls _ _ _
    case isFalse =>
      obtain ⟨⟨error, total⟩, herror⟩ := gather_error hinvalid [] 0
      rw [herror]
      exact fail_calls _ _ _
  · cases hentries : entries with
    | nil =>
      refine ⟨[], [], ?_, by simp, .nil, .refl _, .nil, fun _ => rfl, ?_⟩
      · exact (fail_calls _ _ _).trans (List.append_nil _).symm
      · intro before c after hcalls
        exact absurd hcalls (by simp)
    | cons e es =>
      rw [← hentries]
      have hne : entries ≠ [] := hentries ▸ List.cons_ne_nil e es
      obtain ⟨r, rs, hsort, hreport⟩ := report_valid answer s hvalid hne hcount
      have hlaid := laid_sort hvalid hdisjoint
      rw [hsort] at hlaid
      have hpages : ((r :: rs).flatMap (Extent.blocks pageSize)).Perm
          (entries.flatMap (Entry.pages arena)) := by
        rw [← hsort]
        refine ((perm_sort _).flatMap_right _).trans (List.Perm.of_eq ?_)
        exact List.flatMap_map _ _ _
      have hlow : arena.physmem + pageSize ≤ r.start := by
        have hr : r ∈ sort (entries.map (Entry.range arena)) := hsort ▸ List.mem_cons_self
        obtain ⟨f, hf, rfl⟩ := List.mem_map.mp ((perm_sort _).mem_iff.mp hr)
        exact (hvalid f hf).range_bounds.1
      have hpos : 0 < r.start := by
        simp only [pageSize] at hlow
        omega
      obtain ⟨calls, ok, hcalls, hdiscards⟩ :=
        discardFrom_discards answer hlaid hpos arena.fits { s with
          stats := { s.stats with
            batches := s.stats.batches + 1
            reportedBytes := s.stats.reportedBytes + (entries.map Entry.length).sum } }
      refine ⟨calls, _, by rw [hreport, hcalls], ?_, hdiscards.order, hpages,
        Extent.flatMap_blocks_increasing (by decide) hlaid.order, ?_, ?_⟩
      · intro c hc
        obtain ⟨h₁, h₂, h₃, h₄, h₅, h₆⟩ := hdiscards.bounds c hc
        exact ⟨h₃, h₄, h₅, h₆, hlow.trans h₁, h₂⟩
      · intro hzero
        refine (hdiscards.complete ?_).2
        by_contra hnot
        obtain ⟨before, last, rfl, -, hlast, -⟩ := hdiscards.cut hnot
        exact hlast (hzero last (List.mem_append_right _ List.mem_cons_self))
      · exact fun before c after heq hc => hdiscards.failed_last heq hc

def sampleArena : Arena := ⟨65536, 100, by decide, by decide⟩

def sampleBatch : List Entry := [⟨some 8, 0, 16384⟩, ⟨some 4, 0, 16384⟩, ⟨some 40, 0, 16384⟩]

theorem sampleBatch_valid : ∀ e ∈ sampleBatch, e.Valid sampleArena := by
  intro e he
  simp only [sampleBatch, List.mem_cons, List.not_mem_nil, or_false] at he
  obtain rfl | rfl | rfl := he <;> exact ⟨rfl, rfl, by decide, by decide, by decide, by decide⟩

theorem report_discards_sample : ∃ calls ordered,
    (report (fun _ => 0) sampleArena sampleBatch {}).2.calls = calls ∧
    ordered.Perm (sampleBatch.flatMap (Entry.pages sampleArena)) ∧ ordered.Pairwise (· < ·) ∧
    ((∀ c ∈ calls, c.result = 0) → calls.flatMap Call.pages = ordered) := by
  have hdisjoint : sampleBatch.Pairwise fun e f =>
      (e.range sampleArena).Before (f.range sampleArena) ∨
        (f.range sampleArena).Before (e.range sampleArena) := by
    simp [sampleBatch, sampleArena, Entry.range, Extent.Before, Extent.stop, pageSize]
  obtain ⟨calls, ordered, hcalls, -, -, hperm, hlt, hall, -⟩ :=
    (report_discards (fun _ => 0) {} (by decide)).2 sampleBatch_valid hdisjoint
  exact ⟨calls, ordered, hcalls, hperm, hlt, hall⟩

/-! ## Accounting -/

def Reclaim.accounted (s : Reclaim) : ℕ := s.stats.successfulDiscardBytes + s.stats.failedBytes

def callsFor (length : ℕ) : ℕ := (length + reclaimMaxRangeBytes - 1) / reclaimMaxRangeBytes

def due (ranges : List Extent) : ℕ := (ranges.map fun r => callsFor r.length).sum

/-- One of `n` calls fails, of which the first has the number `first`. -/
def fails (answer : ℕ → ℤ) (first : ℕ) : ℕ → Bool
  | 0 => false
  | n + 1 => decide (answer first ≠ 0) || fails answer (first + 1) n

/-- The calls that are made of `n` that are due: there is none behind one that fails. -/
def made (answer : ℕ → ℤ) (first : ℕ) : ℕ → ℕ
  | 0 => 0
  | n + 1 => if answer first ≠ 0 then 1 else made answer (first + 1) n + 1

def coalesced (start length : ℕ) : List Extent → List Extent
  | [] => [⟨start, length⟩]
  | next :: rest =>
    if joins start length next then coalesced start (length + next.length) rest
    else ⟨start, length⟩ :: coalesced next.start next.length rest

def joinedRanges (arena : Arena) (entries : List Entry) : List Extent :=
  if entries.length > pageReportingCapacity then []
  else
    match sort (entries.map (Entry.range arena)) with
    | [] => []
    | r :: rs => coalesced r.start r.length rs

/-- The host fails a call for a range that is not the last one of its batch. -/
def abandons (answer : ℕ → ℤ) (first : ℕ) (ranges : List Extent) : Bool :=
  fails answer first (due ranges.dropLast)

def abandonsAny (answer : ℕ → ℤ) (arena : Arena) (first : ℕ) : List (List Entry) → Bool
  | [] => false
  | entries :: batches =>
    let ranges := joinedRanges arena entries
    abandons answer first ranges ||
      abandonsAny answer arena (first + made answer first (due ranges)) batches

theorem callsFor_step (h : length ≠ 0) :
    callsFor length = callsFor (length - min length reclaimMaxRangeBytes) + 1 := by
  simp only [callsFor, reclaimMaxRangeBytes]
  omega

theorem due_cons (r : Extent) (ranges : List Extent) :
    due (r :: ranges) = callsFor r.length + due ranges :=
  List.sum_cons

theorem due_singleton (r : Extent) : due [r] = callsFor r.length :=
  (due_cons r []).trans (Nat.add_zero _)

theorem fails_add (answer : ℕ → ℤ) (first n m : ℕ) :
    fails answer first (n + m) = (fails answer first n || fails answer (first + n) m) := by
  induction n generalizing first with
  | zero => simp only [fails, Nat.zero_add, Nat.add_zero, Bool.false_or]
  | succ n ih =>
    rw [Nat.succ_add, fails, fails, ih, Bool.or_assoc, Nat.add_right_comm, Nat.add_assoc]

theorem made_add (answer : ℕ → ℤ) (first n m : ℕ) : made answer first (n + m) =
    if fails answer first n then made answer first n else n + made answer (first + n) m := by
  induction n generalizing first with
  | zero => simp [fails]
  | succ n ih =>
    rw [Nat.succ_add, made, made, fails, ih, Nat.add_right_comm first, Nat.add_assoc first]
    by_cases hret : answer first = 0
    · simp only [hret, ne_eq, not_true_eq_false, decide_false, Bool.false_or, ↓reduceIte]
      split <;> omega
    · simp only [hret, ne_eq, not_false_eq_true, decide_true, Bool.true_or, ↓reduceIte]

theorem made_eq_self {n first : ℕ} (h : fails answer first n = false) :
    made answer first n = n := by
  have hadd := made_add answer first n 0
  rwa [h, if_neg Bool.false_ne_true] at hadd

theorem oneRange_answers (answer : ℕ → ℤ) (start length : ℕ) (s : Reclaim) :
    fails answer s.calls.length (callsFor length) =
      decide ((oneRange answer start length s).1 ≠ 0) ∧
    (oneRange answer start length s).2.calls.length =
      s.calls.length + made answer s.calls.length (callsFor length) := by
  fun_induction oneRange answer start length s with
  | case1 => simp [callsFor, fails, made, reclaimMaxRangeBytes]
  | case2 start length s hpos chunk ret t hret =>
    rw [callsFor_step hpos, fails, made, if_pos hret, decide_eq_true hret, Bool.true_or, fail_calls]
    exact ⟨rfl, List.length_append⟩
  | case3 start length s hpos chunk ret t hret ih =>
    have hcalls : t.calls.length = s.calls.length + 1 := List.length_append
    rw [callsFor_step hpos, fails, made, if_neg hret, decide_eq_false hret, Bool.false_or]
    rw [hcalls] at ih
    exact ⟨ih.1, ih.2.trans (by rw [Nat.add_assoc, Nat.add_comm 1])⟩

theorem fail_accounts (error : ℤ) (bytes : ℕ) (s : Reclaim) :
    (s.fail error bytes).accounted = s.accounted + bytes ∧
      (s.fail error bytes).stats.reportedBytes = s.stats.reportedBytes := by
  unfold Reclaim.fail Reclaim.accounted
  dsimp only
  split
  · exact ⟨(Nat.add_assoc _ _ _).symm, rfl⟩
  · exact ⟨(Nat.add_assoc _ _ _).symm, rfl⟩

theorem oneRange_accounts (answer : ℕ → ℤ) (start length : ℕ) (s : Reclaim) :
    (oneRange answer start length s).2.accounted = s.accounted + length ∧
      (oneRange answer start length s).2.stats.reportedBytes = s.stats.reportedBytes := by
  fun_induction oneRange answer start length s with
  | case1 => exact ⟨rfl, rfl⟩
  | case2 start length s hpos chunk ret t hret => exact fail_accounts _ _ _
  | case3 start length s hpos chunk ret t hret ih =>
    have hle : chunk ≤ length := Nat.min_le_left _ _
    refine ⟨ih.1.trans ?_, ih.2⟩
    simp only [Reclaim.accounted, t]
    omega

theorem coalesced_ne_nil (start length : ℕ) (rest : List Extent) :
    coalesced start length rest ≠ [] := by
  induction rest generalizing start length with
  | nil => exact List.cons_ne_nil _ _
  | cons next rest ih =>
    rw [coalesced]
    split
    · exact ih _ _
    · exact List.cons_ne_nil _ _

theorem abandons_cons (answer : ℕ → ℤ) (first : ℕ) (r : Extent) {ranges : List Extent}
    (hne : ranges ≠ []) : abandons answer first (r :: ranges) =
      (fails answer first (callsFor r.length) ||
        abandons answer (first + callsFor r.length) ranges) := by
  rw [abandons, List.dropLast_cons_of_ne_nil hne, due_cons, fails_add]
  rfl

/-- A part of a report that discards `ranges`, of which `length` bytes are reported before it. -/
structure Accounted (answer : ℕ → ℤ) (ranges : List Extent) (length : ℕ) (s t : Reclaim) :
    Prop where
  calls : t.calls.length = s.calls.length + made answer s.calls.length (due ranges)
  all : abandons answer s.calls.length ranges = false →
    t.accounted + s.stats.reportedBytes = s.accounted + t.stats.reportedBytes + length
  less : abandons answer s.calls.length ranges = true →
    t.accounted + s.stats.reportedBytes < s.accounted + t.stats.reportedBytes + length

theorem discardFrom_accounts (answer : ℕ → ℤ) (start length : ℕ) {rest : List Extent}
    (hpos : ∀ r ∈ rest, 0 < r.length) (s : Reclaim) :
    Accounted answer (coalesced start length rest) (length + (rest.map Extent.length).sum) s
      (discardFrom answer start length rest s).2 := by
  induction rest generalizing start length s with
  | nil =>
    obtain ⟨haccounted, hreported⟩ := oneRange_accounts answer start length s
    rw [discardFrom_nil]
    refine ⟨?_, fun _ => ?_, fun h => Bool.noConfusion h⟩
    · rw [coalesced, due_singleton]
      exact (oneRange_answers answer start length s).2
    · rw [haccounted, hreported, Nat.add_right_comm]
      rfl
  | cons next rest ih =>
    obtain ⟨hnext, hrest⟩ := List.forall_mem_cons.mp hpos
    rw [List.map_cons, List.sum_cons, coalesced]
    cases hjoins : joins start length next with
    | true =>
      rw [discardFrom_joined hjoins, if_pos rfl, ← Nat.add_assoc length]
      exact ih _ _ hrest s
    | false =>
      obtain ⟨hfails, hcalls⟩ := oneRange_answers answer start length s
      obtain ⟨haccounted, hreported⟩ := oneRange_accounts answer start length s
      have hdue := due_cons ⟨start, length⟩ (coalesced next.start next.length rest)
      have hcons := abandons_cons answer s.calls.length ⟨start, length⟩
        (coalesced_ne_nil next.start next.length rest)
      rw [if_neg Bool.false_ne_true]
      by_cases hret : (oneRange answer start length s).1 = 0
      · obtain ⟨hcalls', hall, hless⟩ :=
          ih next.start next.length hrest (oneRange answer start length s).2
        rw [decide_eq_false (not_not.mpr hret)] at hfails
        rw [made_eq_self hfails] at hcalls
        rw [hcalls] at hcalls' hall hless
        rw [hfails, Bool.false_or] at hcons
        rw [discardFrom_next hjoins hret]
        refine ⟨?_, ?_, ?_⟩
        · rw [hcalls', hdue, made_add, hfails, if_neg Bool.false_ne_true, Nat.add_assoc]
        · rw [hcons]
          intro h
          have := hall h
          omega
        · rw [hcons]
          intro h
          have := hless h
          omega
      · rw [decide_eq_true hret] at hfails
        rw [hfails, Bool.true_or] at hcons
        rw [discardFrom_stopped hjoins hret]
        refine ⟨?_, fun h => Bool.noConfusion (hcons.symm.trans h), fun _ => ?_⟩
        · rw [hcalls, hdue, made_add, hfails, if_pos rfl]
        · omega

theorem report_accounts (answer : ℕ → ℤ) {entries : List Entry}
    (hvalid : ∀ e ∈ entries, e.Valid arena) (s : Reclaim) :
    Accounted answer (joinedRanges arena entries) 0 s (report answer arena entries s).2 := by
  by_cases hcount : entries.length = 0 ∨ entries.length > pageReportingCapacity
  · have hfail : (report answer arena entries s).2 = s.fail (-EINVAL) 0 := by
      unfold report
      rw [if_pos hcount]
    have hnone : joinedRanges arena entries = [] := by
      unfold joinedRanges
      obtain hzero | hmany := hcount
      · rw [List.length_eq_zero_iff.mp hzero]
        rfl
      · rw [if_pos hmany]
    obtain ⟨haccounted, hreported⟩ := fail_accounts (-EINVAL) 0 s
    rw [hfail, hnone]
    refine ⟨congrArg List.length (fail_calls _ _ _), fun _ => ?_, fun h => Bool.noConfusion h⟩
    omega
  · have hne : entries ≠ [] := fun hnil => hcount (.inl (hnil ▸ rfl))
    have hle : entries.length ≤ pageReportingCapacity :=
      Nat.le_of_not_lt fun hgt => hcount (.inr hgt)
    obtain ⟨r, rs, hsort, hreport⟩ := report_valid answer s hvalid hne hle
    have hranges : ((r :: rs).map Extent.length).sum = (entries.map Entry.length).sum := by
      rw [← hsort, ((perm_sort _).map Extent.length).sum_eq, List.map_map]
      rfl
    have hpos : ∀ e ∈ rs, 0 < e.length := by
      intro e he
      have hmem : e ∈ sort (entries.map (Entry.range arena)) := hsort ▸ List.mem_cons_of_mem r he
      obtain ⟨f, hf, rfl⟩ := List.mem_map.mp ((perm_sort _).mem_iff.mp hmem)
      exact Nat.pos_of_ne_zero (hvalid f hf).nonempty
    have hjoined : joinedRanges arena entries = coalesced r.start r.length rs := by
      unfold joinedRanges
      rw [if_neg (Nat.not_lt.mpr hle), hsort]
    obtain ⟨hcalls, hall, hless⟩ :=
      discardFrom_accounts answer r.start r.length hpos { s with
        stats := { s.stats with
          batches := s.stats.batches + 1
          reportedBytes := s.stats.reportedBytes + (entries.map Entry.length).sum } }
    rw [List.map_cons, List.sum_cons] at hranges
    rw [hreport, hjoined]
    simp only [Reclaim.accounted] at hall hless
    refine ⟨hcalls, fun h => ?_, fun h => ?_⟩
    · have := hall h
      simp only [Reclaim.accounted]
      omega
    · have := hless h
      simp only [Reclaim.accounted]
      omega

def reports (answer : ℕ → ℤ) (arena : Arena) (batches : List (List Entry)) (s : Reclaim) :
    Reclaim :=
  batches.foldl (fun s entries => (report answer arena entries s).2) s

theorem reports_accounts (answer : ℕ → ℤ) {batches : List (List Entry)}
    (hvalid : ∀ entries ∈ batches, ∀ e ∈ entries, e.Valid arena) (s : Reclaim) :
    (abandonsAny answer arena s.calls.length batches = false →
      (reports answer arena batches s).accounted + s.stats.reportedBytes =
        s.accounted + (reports answer arena batches s).stats.reportedBytes) ∧
    (abandonsAny answer arena s.calls.length batches = true →
      (reports answer arena batches s).accounted + s.stats.reportedBytes <
        s.accounted + (reports answer arena batches s).stats.reportedBytes) := by
  induction batches generalizing s with
  | nil => exact ⟨fun _ => rfl, fun h => Bool.noConfusion h⟩
  | cons entries batches ih =>
    obtain ⟨hentries, hbatches⟩ := List.forall_mem_cons.mp hvalid
    obtain ⟨hcalls, hall, hless⟩ := report_accounts answer hentries s
    obtain ⟨hall', hless'⟩ := ih hbatches (report answer arena entries s).2
    have hrun : reports answer arena (entries :: batches) s =
      reports answer arena batches (report answer arena entries s).2 := rfl
    rw [hcalls] at hall' hless'
    rw [hrun, abandonsAny]
    cases hfirst : abandons answer s.calls.length (joinedRanges arena entries) with
    | false =>
      have hfirst := hall hfirst
      rw [Bool.false_or]
      exact ⟨fun h => by have := hall' h; omega, fun h => by have := hless' h; omega⟩
    | true =>
      have hfirst := hless hfirst
      refine ⟨fun h => Bool.noConfusion h, fun _ => ?_⟩
      have hrest := (Bool.eq_false_or_eq_true _).imp hless' hall'
      omega

theorem reported_accounted_iff (answer : ℕ → ℤ) {batches : List (List Entry)}
    (hvalid : ∀ entries ∈ batches, ∀ e ∈ entries, e.Valid arena) :
    (reports answer arena batches {}).stats.reportedBytes =
        (reports answer arena batches {}).stats.successfulDiscardBytes +
          (reports answer arena batches {}).stats.failedBytes ↔
      abandonsAny answer arena 0 batches = false := by
  obtain ⟨hall, hsome⟩ := reports_accounts answer hvalid {}
  simp only [Reclaim.accounted] at hall hsome
  cases habandons : abandonsAny answer arena 0 batches with
  | false =>
    have heq := hall habandons
    exact ⟨fun _ => rfl, fun _ => by omega⟩
  | true =>
    have hlt := hsome habandons
    exact ⟨fun h => by omega, fun h => Bool.noConfusion h⟩

/-- The call for the first range succeeds, the one for the last range fails. -/
def lastFails (call : ℕ) : ℤ := if call = 0 then 0 else -ENOMEM

theorem reported_accounted_sample :
    (reports lastFails sampleArena [sampleBatch] {}).stats.reportedBytes =
      (reports lastFails sampleArena [sampleBatch] {}).stats.successfulDiscardBytes +
        (reports lastFails sampleArena [sampleBatch] {}).stats.failedBytes := by
  refine (reported_accounted_iff lastFails fun entries hentries => ?_).mpr (by decide +kernel)
  rw [List.mem_singleton.mp hentries]
  exact sampleBatch_valid

theorem abandoned_range_uncounted :
    (reports (fun _ => -ENOMEM) sampleArena [sampleBatch] {}).stats.reportedBytes = 49152 ∧
      (reports (fun _ => -ENOMEM) sampleArena [sampleBatch] {}).stats.successfulDiscardBytes = 0 ∧
      (reports (fun _ => -ENOMEM) sampleArena [sampleBatch] {}).stats.failedBytes = 32768 := by
  simp [reports, report, sampleBatch, sampleArena, gather, checkEntry, sort, sortInsert,
    discardFrom, joins, oneRange, Reclaim.fail, pageSize, pageReportingCapacity, ulongMax,
    reclaimMaxRangeBytes, ENOMEM]

end Tcpcc.Memory

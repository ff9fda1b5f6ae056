import Mathlib.Data.List.Sort
import Mathlib.Data.Nat.Digits.Defs
import Mathlib.Tactic.IntervalCases
import Tcpcc.Native.Ownership
import Tcpcc.Reference.Addresses

/-!
# Ownership of firewall rules in the reference supervisor

`tcpcc_host.py`: the marker of an owner, the expression that recognises it, the start time of a
process, and the classification of the rules of nftables. The reference looks at complete comments
of rules; the native scan looks for markers in the text of the listing. On comments that hold no
marker, exactly a marker, or what neither takes for one, the two agree.
-/

namespace Tcpcc.Reference
open CString Procfs

/-! ## Markers -/

structure NftOwnership where
  pid : ℕ
  startTime : ℕ
  tunName : List Char
  pid_pos : 1 ≤ pid
  start_pos : 1 ≤ startTime
  tun_ne : tunName ≠ []
  tun_length : tunName.length ≤ 15
  tun_chars : ∀ c ∈ tunName, Native.isTunChar c = true
  tun_dots : tunName ≠ ['.'] ∧ tunName ≠ ['.', '.']

def nftOwnerPrefix : List Char := "tcpcc.owner.".toList

def markerText (pid startTime : ℕ) (tunName : List Char) : List Char :=
  "tcpcc.owner.v1 pid=".toList ++ (Nat.toDigits 10 pid ++ (" start=".toList ++
    (Nat.toDigits 10 startTime ++ (" tun=".toList ++ tunName))))

def NftOwnership.marker (o : NftOwnership) : List Char := markerText o.pid o.startTime o.tunName

def behind (w text : List Char) : Option (List Char) :=
  if w.isPrefixOf text then some (text.drop w.length) else none

def positive (text : List Char) : Option (List Char × List Char) :=
  let digits := text.takeWhile Char.isDigit
  if digits.isEmpty ∨ digits.head? = some '0' then none
  else some (digits, text.dropWhile Char.isDigit)

/-- The groups of `NFT_OWNER_MARKER.fullmatch`. -/
def ownerGroups (comment : List Char) : Option (List Char × List Char × List Char) := do
  let rest ← behind "tcpcc.owner.v1 pid=".toList comment
  let (pid, rest) ← positive rest
  let rest ← behind " start=".toList rest
  let (start, rest) ← positive rest
  let tun ← behind " tun=".toList rest
  if tun ≠ [] ∧ tun.length ≤ 15 ∧ tun.all Native.isTunChar then some (pid, start, tun) else none

def ownerMarker (comment : List Char) : Option (ℕ × ℕ × List Char) :=
  (ownerGroups comment).map fun g =>
    (Nat.ofDigitChars 10 g.1 0, Nat.ofDigitChars 10 g.2.1 0, g.2.2)

theorem behind_append (w text : List Char) : behind w (w ++ text) = some text := by
  rw [behind, if_pos (List.isPrefixOf_iff_prefix.mpr (List.prefix_append w text)), List.drop_left]

theorem head_toDigits {n : ℕ} (h : 0 < n) : (Nat.toDigits 10 n).head? ≠ some '0' := by
  induction n using Nat.strongRecOn with
  | ind n ih =>
    rcases Nat.lt_or_ge n 10 with hlt | hge
    · rw [Nat.toDigits_of_lt_base hlt]
      interval_cases n <;> decide
    · have hne : Nat.toDigits 10 (n / 10) ≠ [] := Nat.toDigits_ne_nil
      rw [Nat.toDigits_of_base_le (by decide) hge, List.head?_append_of_ne_nil _ hne]
      exact ih (n / 10) (by omega) (by omega)

theorem positive_toDigits {n : ℕ} (h : 0 < n) {rest : List Char}
    (hrest : rest.takeWhile Char.isDigit = []) :
    positive (Nat.toDigits 10 n ++ rest) = some (Nat.toDigits 10 n, rest) := by
  have hdigits : ∀ c ∈ Nat.toDigits 10 n, c.isDigit = true := fun c hc =>
    Nat.isDigit_of_mem_toDigits (by decide) (by decide) hc
  have htake : (Nat.toDigits 10 n ++ rest).takeWhile Char.isDigit = Nat.toDigits 10 n := by
    rw [List.takeWhile_append_of_pos hdigits, hrest, List.append_nil]
  have hdrop : (Nat.toDigits 10 n ++ rest).dropWhile Char.isDigit = rest := by
    have hsplit := List.takeWhile_append_dropWhile (p := Char.isDigit) (l := rest)
    rw [hrest, List.nil_append] at hsplit
    rw [List.dropWhile_append_of_pos hdigits, hsplit]
  have hcond : ¬ ((Nat.toDigits 10 n).isEmpty = true ∨ (Nat.toDigits 10 n).head? = some '0') := by
    rintro (hempty | hzero)
    · exact Nat.toDigits_ne_nil (List.isEmpty_iff.mp hempty)
    · exact head_toDigits h hzero
  simp only [positive, htake, hdrop, if_neg hcond]

theorem ownerMarker_markerText {pid start : ℕ} {tun : List Char} (hpid : 0 < pid)
    (hstart : 0 < start) (hne : tun ≠ []) (hlength : tun.length ≤ 15)
    (hchars : ∀ c ∈ tun, Native.isTunChar c = true) :
    ownerMarker (markerText pid start tun) = some (pid, start, tun) := by
  have hblank : ∀ w t : List Char, w.takeWhile Char.isDigit = [] → w ≠ [] →
      (w ++ t).takeWhile Char.isDigit = [] := by
    intro w t hw hwne
    obtain ⟨c, w, rfl⟩ := List.exists_cons_of_ne_nil hwne
    rw [List.cons_append, List.takeWhile_cons]
    rw [List.takeWhile_cons] at hw
    split at hw
    · cases hw
    · rename_i hc
      rw [if_neg hc]
  have hcond : tun ≠ [] ∧ tun.length ≤ 15 ∧ tun.all Native.isTunChar = true :=
    ⟨hne, hlength, List.all_eq_true.mpr hchars⟩
  unfold ownerMarker ownerGroups markerText
  rw [behind_append, Option.bind_eq_bind, Option.bind_some,
    positive_toDigits hpid (hblank _ _ (by decide) (by decide))]
  simp only [Option.bind_eq_bind, Option.bind_some, behind_append]
  rw [positive_toDigits hstart (hblank _ _ (by decide) (by decide))]
  have hvalue (n : ℕ) : Nat.ofDigitChars 10 (Nat.toDigits 10 n) 0 = n :=
    Nat.ofDigitChars_toDigits (by decide) (by decide)
  simp only [Option.bind_some, behind_append, if_pos hcond, Option.map_some, hvalue]

theorem behind_eq_some {w text rest : List Char} (h : behind w text = some rest) :
    text = w ++ rest := by
  rw [behind] at h
  split at h
  · rename_i hprefix
    cases h
    exact (List.prefix_append_drop (List.isPrefixOf_iff_prefix.mp hprefix))
  · cases h

theorem exists_digitChar {c : Char} (h : c.isDigit = true) : ∃ n < 10, c = Nat.digitChar n := by
  simp only [Char.isDigit, Bool.and_eq_true, decide_eq_true_eq] at h
  have hlow : 48 ≤ c.toNat := h.1
  have hhigh : c.toNat ≤ 57 := h.2
  refine ⟨c.toNat - 48, by omega, Char.toNat_inj.mp ?_⟩
  rw [Nat.toNat_digitChar_of_lt_ten (by omega)]
  omega

theorem toDigits_ofDigitChars {digits : List Char} (hne : digits ≠ [])
    (hdigits : ∀ c ∈ digits, c.isDigit = true) (hzero : digits.head? ≠ some '0') :
    0 < Nat.ofDigitChars 10 digits 0 ∧
      Nat.toDigits 10 (Nat.ofDigitChars 10 digits 0) = digits := by
  induction digits using List.reverseRecOn with
  | nil => exact absurd rfl hne
  | append_singleton front c ih =>
    obtain ⟨n, hn, rfl⟩ := exists_digitChar (hdigits c (by simp))
    rw [Nat.ofDigitChars_append, Nat.ofDigitChars_cons_digitChar_of_lt_ten hn, Nat.ofDigitChars_nil]
    cases front with
    | nil =>
      have hpos : n ≠ 0 := by
        rintro rfl
        exact hzero rfl
      rw [Nat.ofDigitChars_nil, Nat.mul_zero, Nat.zero_add, Nat.toDigits_of_lt_base hn]
      exact ⟨Nat.pos_of_ne_zero hpos, rfl⟩
    | cons d front =>
      obtain ⟨hpos, heq⟩ := ih (by simp) (fun c hc => hdigits c (List.mem_append_left _ hc))
        (by simpa using hzero)
      generalize Nat.ofDigitChars 10 (d :: front) 0 = v at hpos heq ⊢
      have hdiv : (10 * v + n) / 10 = v := by omega
      have hmod : (10 * v + n) % 10 = n := by omega
      rw [Nat.toDigits_of_base_le (by decide) (by omega), hdiv, hmod, heq]
      exact ⟨by omega, rfl⟩

theorem positive_eq_some {text digits rest : List Char} (h : positive text = some (digits, rest)) :
    text = digits ++ rest ∧ 0 < Nat.ofDigitChars 10 digits 0 ∧
      Nat.toDigits 10 (Nat.ofDigitChars 10 digits 0) = digits := by
  simp only [positive] at h
  split at h
  · cases h
  · rename_i hcond
    cases h
    obtain ⟨hempty, hzero⟩ := not_or.mp hcond
    have hdigits : ∀ c ∈ text.takeWhile Char.isDigit, c.isDigit = true := fun c hc =>
      List.mem_takeWhile_imp hc
    exact ⟨List.takeWhile_append_dropWhile.symm,
      toDigits_ofDigitChars (by simpa using hempty) hdigits hzero⟩

theorem ownerMarker_eq_some {comment tun : List Char} {pid start : ℕ}
    (h : ownerMarker comment = some (pid, start, tun)) :
    ownerGroups comment = some (Nat.toDigits 10 pid, Nat.toDigits 10 start, tun) ∧
      comment = markerText pid start tun ∧ 0 < pid ∧ 0 < start ∧ tun ≠ [] ∧ tun.length ≤ 15 ∧
      ∀ c ∈ tun, Native.isTunChar c = true := by
  obtain ⟨⟨pidText, startText, name⟩, hgroups, heq⟩ := Option.map_eq_some_iff.mp h
  cases heq
  have hread := hgroups
  simp only [ownerGroups, Option.bind_eq_bind] at hread
  unfold markerText
  generalize "tcpcc.owner.v1 pid=".toList = first at hread ⊢
  generalize " start=".toList = second at hread ⊢
  generalize " tun=".toList = third at hread ⊢
  obtain ⟨rest, hhead, hread⟩ := Option.bind_eq_some_iff.mp hread
  obtain ⟨⟨n, rest'⟩, hpid, hread⟩ := Option.bind_eq_some_iff.mp hread
  obtain ⟨rest'', hmiddle, hread⟩ := Option.bind_eq_some_iff.mp hread
  obtain ⟨⟨m, last⟩, hstart, hread⟩ := Option.bind_eq_some_iff.mp hread
  obtain ⟨name', htun, hread⟩ := Option.bind_eq_some_iff.mp hread
  split at hread
  case isFalse => cases hread
  case isTrue hname =>
    cases hread
    obtain ⟨hpidText, hpos, hpidDigits⟩ := positive_eq_some hpid
    obtain ⟨hstartText, hpos', hstartDigits⟩ := positive_eq_some hstart
    rw [hpidDigits, hstartDigits]
    refine ⟨hgroups, ?_, hpos, hpos', hname.1, hname.2.1, List.all_eq_true.mp hname.2.2⟩
    simp only at hmiddle htun
    rw [behind_eq_some hhead, hpidText, behind_eq_some hmiddle, hstartText, behind_eq_some htun]

/-- `sys.set_int_max_str_digits` refuses limits below this one. -/
structure StandardInterpreter extends Interpreter where
  lowest : ∀ limit, intMaxStrDigits = some limit → 640 ≤ limit

theorem StandardInterpreter.readInt_toDigits (python : StandardInterpreter) {n : ℕ}
    (h : n < 2 ^ 64) : readInt python.toInterpreter (Nat.toDigits 10 n) = .ok n := by
  have hlength : (Nat.toDigits 10 n).length ≤ 20 :=
    Nat.toDigits_length 10 n 20 (by decide) (h.trans (by decide))
  refine readInt_eq_ok.mpr ⟨Nat.ofDigitChars_toDigits (by decide) (by decide), ?_⟩
  intro limit hlimit
  have := python.lowest limit hlimit
  omega

/-! ## Start times -/

/-- What `_process_start_time` raises. -/
inductive StartError
  | fileNotFound
  | unicode
  | value (message : String)
  deriving DecidableEq, Repr

def readText : Option (List Char) → Except StartError (List Char)
  | none => .error .fileNotFound
  | some text => if text.all fun c => decide (c.toNat < 128) then .ok text else .error .unicode

def pySpace (c : Char) : Bool := isSpace c || ('\x1c' ≤ c && c ≤ '\x1f')

def strip (text : List Char) : List Char := (text.dropWhile pySpace).rdropWhile pySpace

def splitWords (text : List Char) : List (List Char) :=
  (text.splitOnP pySpace).filter fun w => !w.isEmpty

/-- `int` of a word: a sign and digits, with single underscores between them. -/
def pyInt (python : Interpreter) (text : List Char) : Except String ℤ :=
  let parts := (skipSign text).splitOnP (· == '_')
  if parts.all fun w => !w.isEmpty && w.all Char.isDigit then
    match readInt python parts.flatten with
    | .error message => .error message
    | .ok n => .ok (if text.head? = some '-' then -(n : ℤ) else n)
  else .error "invalid literal for int() with base 10"

def processStartTime (python : Interpreter) (proc : ℤ → Option (List Char)) (pid : ℕ) :
    Except StartError ℕ := do
  let text ← readText (proc pid)
  match afterLast ')' (strip text) with
  | none => .error (.value "process stat has no command terminator")
  | some rest =>
    match (splitWords rest).drop 19 with
    | [] => .error (.value "process stat has no start-time field")
    | field :: _ =>
      match pyInt python field with
      | .error message => .error (.value message)
      | .ok start =>
        if start < 1 then .error (.value "process start time is not positive")
        else .ok start.toNat

inductive Status
  | active
  | stale
  | malformed
  deriving DecidableEq, Repr

def identify (python : Interpreter) (proc : ℤ → Option (List Char)) (pid expected : ℕ) :
    Status × String :=
  match processStartTime python proc pid with
  | .error .fileNotFound => (.stale, "owner process is absent")
  | .error _ => (.stale, "owner process identity is unreadable")
  | .ok actual =>
    if actual = expected then (.active, "owner pid and process start time match")
    else (.stale, "owner pid was reused by a different process")

theorem not_pySpace_of_graph {c : Char} (h : isGraph c = true) : pySpace c = false := by
  simp only [isGraph, Bool.and_eq_true, decide_eq_true_eq] at h
  rw [Bool.eq_false_iff]
  intro hspace
  simp only [pySpace, isSpace, Bool.or_eq_true, beq_iff_eq, Bool.and_eq_true,
    decide_eq_true_eq] at hspace
  rcases hspace with (rfl | hle) | hle
  · exact absurd h.1 (by decide)
  · exact absurd (Char.le_trans h.1 hle.2) (by decide)
  · exact absurd (Char.le_trans h.1 hle.2) (by decide)

theorem splitWords_fields {fs : List (List Char)}
    (h : ∀ f ∈ fs, f ≠ [] ∧ ∀ c ∈ f, isGraph c = true ∧ c ≠ ')') :
    splitWords (fs.flatMap (' ' :: ·)) = fs := by
  induction fs with
  | nil => rfl
  | cons f fs ih =>
    obtain ⟨⟨hne, hgraph⟩, hfs⟩ := List.forall_mem_cons.mp h
    have hplain : ∀ c ∈ f, pySpace c = false := fun c hc => not_pySpace_of_graph (hgraph c hc).1
    have hkeep : (!f.isEmpty) = true := by simpa using hne
    have hih := ih hfs
    unfold splitWords at hih ⊢
    have hblank : ∀ text : List Char,
        ([] ++ ' ' :: text).splitOnP pySpace = [] :: text.splitOnP pySpace :=
      List.splitOnP_append_cons_of_forall_mem (by simp) ' ' (by decide)
    cases fs with
    | nil =>
      have hshape : [f].flatMap (' ' :: ·) = [] ++ ' ' :: f := by simp
      rw [hshape, hblank, List.splitOnP_eq_singleton hplain]
      simp [hkeep]
    | cons g fs =>
      have hshape : (f :: g :: fs).flatMap (' ' :: ·) =
          [] ++ ' ' :: (f ++ ' ' :: (g ++ fs.flatMap (' ' :: ·))) := by simp
      have hrest : (g :: fs).flatMap (' ' :: ·) = [] ++ ' ' :: (g ++ fs.flatMap (' ' :: ·)) := by
        simp
      rw [hrest, hblank] at hih
      rw [hshape, hblank, List.splitOnP_append_cons_of_forall_mem hplain ' ' (by decide)]
      rw [List.filter_cons_of_neg (by simp)] at hih ⊢
      rw [List.filter_cons_of_pos (p := fun w : List Char => !w.isEmpty) hkeep, hih]

theorem pyInt_toDigits (python : StandardInterpreter) {n : ℕ} (h : n < 2 ^ 64) :
    pyInt python.toInterpreter (Nat.toDigits 10 n) = .ok (n : ℤ) := by
  have hdigits : ∀ c ∈ Nat.toDigits 10 n, c.isDigit = true := fun c hc =>
    Nat.isDigit_of_mem_toDigits (by decide) (by decide) hc
  have hvalue := python.readInt_toDigits h
  have hne : Nat.toDigits 10 n ≠ [] := Nat.toDigits_ne_nil
  generalize Nat.toDigits 10 n = digits at *
  have hnotchar : ∀ d : Char, d.isDigit = false → ∀ c ∈ digits, c ≠ d := by
    rintro d hd c hc rfl
    rw [hdigits c hc] at hd
    cases hd
  obtain ⟨c, digits, rfl⟩ := List.exists_cons_of_ne_nil hne
  have hsign : isSign c = false := by
    simp only [isSign, Bool.or_eq_false_iff, beq_eq_false_iff_ne]
    exact ⟨hnotchar '-' (by decide) c List.mem_cons_self,
      hnotchar '+' (by decide) c List.mem_cons_self⟩
  have hskip : skipSign (c :: digits) = c :: digits := by
    simp only [skipSign, hsign, Bool.false_eq_true, if_false]
  have hparts : (c :: digits).splitOnP (· == '_') = [c :: digits] :=
    List.splitOnP_eq_singleton fun d hd =>
      beq_eq_false_iff_ne.mpr (hnotchar '_' (by decide) d hd)
  have hall : ([c :: digits].all fun w => !w.isEmpty && w.all Char.isDigit) = true := by
    simpa using hdigits
  have hminus : ¬ (c :: digits).head? = some '-' := by
    simpa using hnotchar '-' (by decide) c List.mem_cons_self
  have hflat : [c :: digits].flatten = c :: digits := by simp
  simp only [pyInt, hskip, hparts, hall, if_true, if_neg hminus, hflat, hvalue]

theorem strip_line (p : ProcessStat) (pid : ℕ) :
    strip (p.line pid) = Nat.toDigits 10 pid ++ ' ' :: '(' :: (p.comm ++ ')' :: p.rest) := by
  obtain ⟨front, c, hrest, hc⟩ := p.rest_last
  have hne : Nat.toDigits 10 pid ≠ [] := Nat.toDigits_ne_nil
  have hgraph : ∀ d ∈ Nat.toDigits 10 pid, isGraph d = true := fun d hd => (graph_toDigits hd).1
  have hstart : (p.line pid).dropWhile pySpace = p.line pid := by
    unfold ProcessStat.line
    generalize Nat.toDigits 10 pid = digits at *
    obtain ⟨d, digits, rfl⟩ := List.exists_cons_of_ne_nil hne
    have hd := not_pySpace_of_graph (hgraph d List.mem_cons_self)
    simp only [List.cons_append]
    rw [List.dropWhile_cons_of_neg (by simp [hd])]
  have hsplit : Nat.toDigits 10 pid ++ ' ' :: '(' :: (p.comm ++ ')' :: (front ++ [c])) =
      (Nat.toDigits 10 pid ++ ' ' :: '(' :: (p.comm ++ ')' :: front)) ++ [c] := by simp
  rw [strip, hstart, ProcessStat.line, List.rdropWhile_concat_pos _ _ _ (by decide), hrest, hsplit,
    List.rdropWhile_concat_neg _ _ _ (by simp [not_pySpace_of_graph hc])]

def Ascii (p : ProcessStat) : Prop := ∀ c ∈ p.comm, c.toNat < 128

instance (p : ProcessStat) : Decidable (Ascii p) :=
  List.decidableBAll (fun c : Char => c.toNat < 128) p.comm

theorem toNat_of_graph {c : Char} (h : isGraph c = true) : c.toNat < 128 := by
  simp only [isGraph, Bool.and_eq_true, decide_eq_true_eq] at h
  have hle : c.toNat ≤ '~'.toNat := h.2
  exact Nat.lt_of_le_of_lt hle (by decide)

theorem ascii_line (p : ProcessStat) (pid : ℕ) :
    ((p.line pid).all fun c => decide (c.toNat < 128)) = true ↔ Ascii p := by
  have hpid : ∀ c ∈ Nat.toDigits 10 pid, c.toNat < 128 := fun c hc =>
    toNat_of_graph (graph_toDigits hc).1
  have hrest : ∀ c ∈ p.rest, c.toNat < 128 := by
    intro c hc
    rcases ProcessStat.mem_rest hc with rfl | hgraph
    · decide
    · exact toNat_of_graph hgraph.1
  simp only [List.all_eq_true, decide_eq_true_eq, ProcessStat.line, Ascii]
  constructor
  · exact fun h c hc => h c (by simp [hc])
  · intro h c hc
    simp only [List.mem_append, List.mem_cons, List.not_mem_nil, or_false] at hc
    rcases hc with (hc | rfl | rfl | hc | rfl | hc) | rfl
    · exact hpid c hc
    · decide
    · decide
    · exact h c hc
    · decide
    · exact hrest c hc
    · decide

theorem processStartTime_file (python : StandardInterpreter) (table : ProcessTable) {pid : ℕ}
    (h : 0 < pid) :
    processStartTime python.toInterpreter table.file pid =
      match table.entry pid with
      | none => .error .fileNotFound
      | some p =>
        if ¬ Ascii p then .error .unicode
        else if p.startTime < 1 then .error (.value "process start time is not positive")
        else .ok p.startTime := by
  unfold processStartTime
  rw [table.file_natCast h]
  cases table.entry pid with
  | none => rfl
  | some p =>
    simp only [Option.map_some, readText]
    by_cases hascii : Ascii p
    · have hsplit : Nat.toDigits 10 pid ++ ' ' :: '(' :: (p.comm ++ ')' :: p.rest) =
          (Nat.toDigits 10 pid ++ ' ' :: '(' :: p.comm) ++ ')' :: p.rest := by simp
      have hfields : (splitWords p.rest).drop 19 = Nat.toDigits 10 p.startTime :: p.after := by
        rw [ProcessStat.rest, splitWords_fields fun f hf => ProcessStat.field_graph hf,
          ProcessStat.fields, ← p.count, List.drop_left]
      have hcast : ((p.startTime : ℤ) < 1) ↔ p.startTime < 1 := by omega
      rw [if_pos ((ascii_line p pid).mpr hascii)]
      simp only [bind, Except.bind, strip_line, hsplit, afterLast_append _ p.rest_close, hfields,
        pyInt_toDigits python p.range, hcast, Int.toNat_natCast, hascii, not_true_eq_false,
        if_false]
    · have hnot : ¬ ((p.line pid).all fun c => decide (c.toNat < 128)) = true :=
        fun hall => hascii ((ascii_line p pid).mp hall)
      rw [if_neg hnot, if_pos hascii]
      rfl

theorem identify_active (python : StandardInterpreter) (table : ProcessTable) {pid expected : ℕ}
    (hpid : 0 < pid) (hexpected : 0 < expected) :
    (identify python.toInterpreter table.file pid expected).1 = .active ↔
      ∃ p, table.entry pid = some p ∧ p.startTime = expected ∧ Ascii p := by
  unfold identify
  rw [processStartTime_file python table hpid]
  cases table.entry pid with
  | none =>
    constructor
    · intro h
      cases h
    · rintro ⟨p, hp, -⟩
      cases hp
  | some p =>
    simp only [Option.some.injEq, exists_eq_left']
    by_cases hascii : Ascii p
    · rw [if_neg (not_not.mpr hascii)]
      by_cases hzero : p.startTime < 1
      · rw [if_pos hzero]
        constructor
        · intro h
          cases h
        · rintro ⟨hstart, -⟩
          omega
      · rw [if_neg hzero]
        by_cases heq : p.startTime = expected
        · exact iff_of_true (by simp only [if_pos heq]) ⟨heq, hascii⟩
        · refine iff_of_false ?_ fun h => heq h.1
          simp only [if_neg heq]
          intro h
          cases h
    · rw [if_pos hascii]
      constructor
      · intro h
        cases h
      · exact fun h => absurd h.2 hascii

/-! ## The rules of nftables -/

/-- `NftOwnershipObservation`. -/
structure Observation where
  name : List Char
  status : Status
  ownerPid : Option ℕ := none
  ownerStartTime : Option ℕ := none
  tunName : Option (List Char) := none
  detail : String
  remediation : String
  deriving DecidableEq, Repr

def blocking (observations : List Observation) : Bool :=
  observations.any fun o => o.status != .active

/-- A rule of the listing in JSON; a field that is not a string is left out. -/
structure NftRule where
  family : String
  table : Option (List Char)
  comment : Option (List Char)
  deriving DecidableEq, Repr

def nftTableName : List Char → Bool
  | [] => false
  | c :: rest => ('a' ≤ c && c ≤ 'z') && rest.length ≤ 31 &&
      rest.all fun d => ('a' ≤ d && d ≤ 'z') || ('0' ≤ d && d ≤ '9') || d == '_'

/-- The body of the loop of `inspect_nft_ownership`. -/
def observeNft (python : Interpreter) (proc : ℤ → Option (List Char)) (family : String)
    (rule : NftRule) : Except String (Option Observation) :=
  if rule.family ≠ family then .ok none
  else
    match rule.comment with
    | none => .ok none
    | some comment =>
      if !nftOwnerPrefix.isPrefixOf comment then .ok none
      else
        match rule.table.filter nftTableName, ownerGroups comment with
        | some table, some (pid, expected, tun) => do
          let pid ← readInt python pid
          let expected ← readInt python expected
          let (status, detail) := identify python proc pid expected
          .ok (some
            { name := table, status, ownerPid := some pid, ownerStartTime := some expected
              tunName := some tun, detail
              remediation := if status = .stale then
                  "verify the recorded owner is gone, then run: nft delete table " ++ family ++
                    " " ++ String.ofList table
                else "" })
        | safe, _ =>
          .ok (some
            { name := rule.table.getD "malformed".toList, status := .malformed
              detail := "unsupported or malformed tcpcc ownership marker"
              remediation := match safe with
                | none => "inspect the complete nftables ruleset manually"
                | some table =>
                  "inspect with: nft list table " ++ family ++ " " ++ String.ofList table ++
                    "; after verifying ownership, remove with: nft delete table " ++ family ++
                    " " ++ String.ofList table })

def observeAll (python : Interpreter) (proc : ℤ → Option (List Char)) (family : String) :
    List NftRule → Except String (List Observation)
  | [] => .ok []
  | rule :: rules => do
    let o ← observeNft python proc family rule
    let rest ← observeAll python proc family rules
    .ok (o.toList ++ rest)

/-- `inspect_nft_ownership` on the rules of the listing. -/
def inspectNftOwnership (python : Interpreter) (proc : ℤ → Option (List Char)) (family : String)
    (rules : List NftRule) : Except String (List Observation) :=
  (observeAll python proc family rules).map fun observations => observations.mergeSort fun a b =>
    decide (String.ofList a.name ≤ String.ofList b.name)

/-- An instance does not start: the inspection raises or its report is blocking. -/
def refuses : Except String (List Observation) → Bool
  | .error _ => true
  | .ok observations => blocking observations

def alarming (o : Except String (Option Observation)) : Bool := refuses (o.map Option.toList)

theorem refuses_observeAll (python : Interpreter) (proc : ℤ → Option (List Char))
    (family : String) (rules : List NftRule) :
    refuses (observeAll python proc family rules) = true ↔
      ∃ rule ∈ rules, alarming (observeNft python proc family rule) = true := by
  induction rules with
  | nil => simp [observeAll, refuses, blocking]
  | cons rule rules ih =>
    rw [List.exists_mem_cons_iff, ← ih, observeAll]
    cases observeNft python proc family rule with
    | error message => exact iff_of_true rfl (.inl rfl)
    | ok o =>
      cases observeAll python proc family rules with
      | error message => exact iff_of_true rfl (.inr rfl)
      | ok rest => simp [bind, Except.bind, alarming, refuses, blocking, Except.map]

theorem refuses_inspectNftOwnership (python : Interpreter) (proc : ℤ → Option (List Char))
    (family : String) (rules : List NftRule) :
    refuses (inspectNftOwnership python proc family rules) = true ↔
      ∃ rule ∈ rules, alarming (observeNft python proc family rule) = true := by
  rw [← refuses_observeAll, inspectNftOwnership]
  cases observeAll python proc family rules with
  | error message => exact Iff.rfl
  | ok observations => simp [Except.map, refuses, blocking]

/-! ## The listing that the native instance reads -/

structure PrintedRule where
  table : List Char
  comment : List Char
  after : List Char

def PrintedRule.rule (family : String) (r : PrintedRule) : NftRule :=
  ⟨family, some r.table, some r.comment⟩

def printed (first : List Char) (rules : List PrintedRule) : List Char :=
  first ++ rules.flatMap fun r => '"' :: (r.comment ++ '"' :: r.after)

structure Printable (first : List Char) (rules : List PrintedRule) : Prop where
  first_untagged : ¬ Native.ownerTag <:+: first
  after_untagged : ∀ r ∈ rules, ¬ Native.ownerTag <:+: r.after
  tables : ∀ r ∈ rules, nftTableName r.table = true

variable {table : ProcessTable} {comment : List Char} {family : String}

theorem native_printed {first : List Char} {rules : List PrintedRule} (h : Printable first rules) :
    Native.checkOwnershipText table.file (printed first rules) = .ok () ↔
      ∀ r ∈ rules, Native.checkOwnershipText table.file r.comment = .ok () := by
  obtain ⟨hfirst, hafter, -⟩ := h
  induction rules generalizing first with
  | nil =>
    rw [printed, List.flatMap_nil, List.append_nil]
    exact iff_of_true (Native.checkOwnershipText_untagged _ hfirst) (List.forall_mem_nil _)
  | cons r rules ih =>
    obtain ⟨hr, hrules⟩ := List.forall_mem_cons.mp hafter
    have hshape : printed first (r :: rules) =
        first ++ '"' :: (r.comment ++ '"' :: printed r.after rules) := by simp [printed]
    rw [hshape, Native.checkOwnershipText_quote, Native.checkOwnershipText_quote, ih hr hrules,
      List.forall_mem_cons]
    exact and_iff_right (Native.checkOwnershipText_untagged _ hfirst)

/-! ## Where the two agree -/

/-- A comment that has to keep an instance from starting: it claims to be a marker, and is not the
one of a process that is there. -/
def Suspect (table : ProcessTable) (comment : List Char) : Prop :=
  nftOwnerPrefix <+: comment ∧
    ∀ pid start tun, ownerMarker comment = some (pid, start, tun) → ¬ table.Alive pid start

structure Agrees (python : Interpreter) (table : ProcessTable) (family : String)
    (first : List Char) (rules : List PrintedRule) : Prop where
  native : Native.checkOwnershipText table.file (printed first rules) ≠ .ok () ↔
    ∃ r ∈ rules, Suspect table r.comment
  reference :
    refuses (inspectNftOwnership python table.file family (rules.map (·.rule family))) = true ↔
      ∃ r ∈ rules, Suspect table r.comment

def Readable (table : ProcessTable) : Prop :=
  ∀ pid p, table.entry pid = some p → 0 < p.startTime → Ascii p

def Unanswerable (ms : List (ℤ × ℕ)) : Prop :=
  ∃ m ∈ ms, m.1.bmod (2 ^ 32) < 1 ∨
    ∃ m' ∈ ms, m'.1.bmod (2 ^ 32) = m.1.bmod (2 ^ 32) ∧ m'.2 ≠ m.2

def Plain (comment : List Char) : Prop :=
  ¬ nftOwnerPrefix <+: comment ∧ ¬ Native.ownerTag <:+: comment

structure Hopeless (comment : List Char) : Prop where
  marked : nftOwnerPrefix <+: comment
  reference : ∀ pid start tun, ownerMarker comment = some (pid, start, tun) →
    2 ^ 31 ≤ pid ∨ 2 ^ 64 ≤ start
  native : ∀ ms, Native.markers comment = some ms → Unanswerable ms

def Agreed (comment : List Char) : Prop :=
  Plain comment ∨ (∃ o : Native.Owner, comment = o.comment) ∨ Hopeless comment

theorem ownerPrefix_comment (o : Native.Owner) : nftOwnerPrefix <+: o.comment :=
  (show nftOwnerPrefix <+: Native.ownerTag by decide).trans o.tag_comment

theorem ownerMarker_comment (o : Native.Owner) :
    ownerMarker o.comment = some (o.pid, o.start, o.tun.toList) := by
  obtain ⟨hne, hlength, hchars⟩ := o.tun_chars
  rw [Native.Owner.comment, Native.marker_toList]
  exact ownerMarker_markerText o.pid_pos o.start_pos hne hlength hchars

theorem suspect_comment (o : Native.Owner) :
    Suspect table o.comment ↔ ¬ table.Alive o.pid o.start := by
  have hmarker := ownerMarker_comment o
  constructor
  · exact fun h => h.2 _ _ _ hmarker
  · intro h
    refine ⟨ownerPrefix_comment o, fun pid start tun heq => ?_⟩
    rw [hmarker] at heq
    cases heq
    exact h

theorem markers_comment (o : Native.Owner) :
    Native.markers o.comment = some [((o.pid : ℤ), o.start)] := by
  have hquoted := o.markers_comment Native.nil_untagged []
  rw [List.nil_append, Native.markers_quote, Native.markers_untagged Native.nil_untagged] at hquoted
  simpa using hquoted

theorem Hopeless.suspect (h : Hopeless comment) : Suspect table comment := by
  refine ⟨h.marked, ?_⟩
  rintro pid start tun hmarker ⟨p, hp, rfl⟩
  have hpid := (table.pids pid p hp).2
  have hstart := p.range
  rcases h.reference pid _ tun hmarker with hle | hle <;> omega

theorem Hopeless.native_rejects (h : Hopeless comment) :
    Native.checkOwnershipText table.file comment ≠ .ok () := by
  rw [ne_eq, Native.checkOwnershipText_eq_ok]
  rintro ⟨ms, hms, hall⟩
  obtain ⟨m, hm, hnonpos | ⟨m', hm', hsame, hother⟩⟩ := h.native ms hms
  · have hpos := Native.pos_of_processStartTime (hall m hm)
    omega
  · have hfirst := hall m hm
    rw [← hsame, hall m' hm', Option.some.injEq] at hfirst
    exact hother hfirst

theorem Agreed.native_rejects (h : Agreed comment) :
    Native.checkOwnershipText table.file comment ≠ .ok () ↔ Suspect table comment := by
  rcases h with hplain | ⟨o, rfl⟩ | hhopeless
  · have hok := Native.checkOwnershipText_untagged table.file hplain.2
    exact iff_of_false (not_not.mpr hok) fun hsuspect => hplain.1 hsuspect.1
  · rw [suspect_comment, ne_eq, Native.checkOwnershipText_eq_ok, markers_comment]
    simp only [Option.some.injEq, exists_eq_left', List.mem_singleton, forall_eq,
      Native.Owner.answered]
  · exact iff_of_true hhopeless.native_rejects hhopeless.suspect

theorem reports_marker (python : StandardInterpreter) (family : String) {r : PrintedRule}
    {pid start : ℕ} {tun : List Char} (htable : nftTableName r.table = true)
    (hmarked : nftOwnerPrefix <+: r.comment)
    (hmarker : ownerMarker r.comment = some (pid, start, tun)) :
    alarming (observeNft python.toInterpreter table.file family (r.rule family)) = true ↔
      ¬ ∃ p, table.entry pid = some p ∧ p.startTime = start ∧ Ascii p := by
  obtain ⟨hgroups, -, hpid, hstart, -⟩ := ownerMarker_eq_some hmarker
  have hhead := List.isPrefixOf_iff_prefix.mpr hmarked
  have hactive := identify_active python table hpid hstart
  simp only [observeNft, PrintedRule.rule, ne_eq, not_true_eq_false, if_false, hhead, Bool.not_true,
    Bool.false_eq_true, Option.filter, htable, if_true, hgroups]
  by_cases hlive : ∃ p, table.entry pid = some p ∧ p.startTime = start ∧ Ascii p
  · have hsame := hactive.mpr hlive
    obtain ⟨p, hp, rfl, -⟩ := hlive
    have hsmall : pid < 2 ^ 64 := by
      have := (table.pids pid p hp).2
      omega
    rw [python.readInt_toDigits hsmall, python.readInt_toDigits p.range]
    simp [bind, Except.bind, alarming, refuses, blocking, Except.map, hsame, ← hactive]
  · refine iff_of_true ?_ hlive
    cases hpidRead : readInt python.toInterpreter (Nat.toDigits 10 pid) with
    | error message => rfl
    | ok n =>
      cases hstartRead : readInt python.toInterpreter (Nat.toDigits 10 start) with
      | error message => rfl
      | ok m =>
        have hn := (readInt_eq_ok.mp hpidRead).1
        have hm := (readInt_eq_ok.mp hstartRead).1
        rw [Nat.ofDigitChars_toDigits (by decide) (by decide)] at hn hm
        subst hn hm
        simp [bind, Except.bind, alarming, refuses, blocking, Except.map, mt hactive.mp hlive]

theorem reference_reports (python : StandardInterpreter) (hread : Readable table)
    {r : PrintedRule} (htable : nftTableName r.table = true) :
    alarming (observeNft python.toInterpreter table.file family (r.rule family)) = true ↔
      Suspect table r.comment := by
  by_cases hmarked : nftOwnerPrefix <+: r.comment
  · have hhead := List.isPrefixOf_iff_prefix.mpr hmarked
    cases hmarker : ownerMarker r.comment with
    | none =>
      have hgroups : ownerGroups r.comment = none := Option.map_eq_none_iff.mp hmarker
      have hsuspect : Suspect table r.comment :=
        ⟨hmarked, fun pid start tun h => by simp [hmarker] at h⟩
      simp [observeNft, PrintedRule.rule, hhead, Option.filter, htable, hgroups, hsuspect, alarming,
        refuses, blocking, Except.map]
    | some m =>
      obtain ⟨pid, start, tun⟩ := m
      obtain ⟨-, -, -, hstart, -⟩ := ownerMarker_eq_some hmarker
      rw [reports_marker python family htable hmarked hmarker]
      have hsuspect : Suspect table r.comment ↔ ¬ table.Alive pid start := by
        simp [Suspect, hmarked, hmarker]
      rw [hsuspect, not_iff_not]
      constructor
      · rintro ⟨p, hp, hstart', -⟩
        exact ⟨p, hp, hstart'⟩
      · rintro ⟨p, hp, rfl⟩
        exact ⟨p, hp, rfl, hread pid p hp hstart⟩
  · have hhead : nftOwnerPrefix.isPrefixOf r.comment = false := by
      rw [Bool.eq_false_iff]
      exact fun h => hmarked (List.isPrefixOf_iff_prefix.mp h)
    have hsafe : ¬ Suspect table r.comment := fun h => hmarked h.1
    simp [observeNft, PrintedRule.rule, hhead, hsafe, alarming, refuses, blocking, Except.map]

theorem agrees_of_agreed (python : StandardInterpreter) {first : List Char}
    {rules : List PrintedRule} (hread : Readable table) (hprint : Printable first rules)
    (hagreed : ∀ r ∈ rules, Agreed r.comment) :
    Agrees python.toInterpreter table family first rules where
  native := by
    rw [ne_eq, native_printed hprint]
    constructor
    · intro h
      obtain ⟨r, hr, hbad⟩ := not_forall₂.mp h
      exact ⟨r, hr, (hagreed r hr).native_rejects.mp hbad⟩
    · rintro ⟨r, hr, hsuspect⟩ hall
      exact (hagreed r hr).native_rejects.mpr hsuspect (hall r hr)
  reference := by
    rw [refuses_inspectNftOwnership]
    simp only [List.mem_map, exists_exists_and_eq_and]
    refine exists_congr fun r => and_congr_right fun hr => ?_
    exact reference_reports python hread (hprint.tables r hr)

/-! ## And only there -/

theorem readable_bare (starts : ℕ → Option ℕ) : Readable (ProcessTable.bare starts) := by
  intro pid p hp _ c hc
  rw [ProcessTable.bare_comm hp] at hc
  cases hc

theorem exists_answer {ms : List (ℤ × ℕ)} (hrange : ∀ m ∈ ms, 1 ≤ m.2 ∧ m.2 < 2 ^ 64)
    (h : ¬ Unanswerable ms) :
    ∃ table : ProcessTable, Readable table ∧
      ∀ m ∈ ms, Native.processStartTime table.file (m.1.bmod (2 ^ 32)) = some m.2 := by
  simp only [Unanswerable, not_exists, not_and, not_or, not_not] at h
  refine ⟨.bare fun pid => (ms.find? fun m => m.1.bmod (2 ^ 32) == (pid : ℤ)).map (·.2),
    readable_bare _, fun m hm => ?_⟩
  obtain ⟨hpos, hagree⟩ := h m hm
  have hlt : m.1.bmod (2 ^ 32) < 2 ^ 31 := Int.bmod_lt (by decide)
  obtain ⟨pid, hpid⟩ : ∃ pid : ℕ, m.1.bmod (2 ^ 32) = pid :=
    ⟨_, (Int.toNat_of_nonneg (by omega)).symm⟩
  rw [hpid] at hpos hlt hagree ⊢
  rw [Native.processStartTime_eq_some _ (by omega) (hrange m hm).1]
  refine ProcessTable.bare_alive ⟨by omega, by omega⟩ (hrange m hm).2 ?_
  -- the first marker with that pid has the same start time
  obtain ⟨first, hfirst⟩ : ∃ first,
      ms.find? (fun m => m.1.bmod (2 ^ 32) == (pid : ℤ)) = some first :=
    Option.isSome_iff_exists.mp (List.find?_isSome.mpr ⟨m, hm, by simpa using hpid⟩)
  have hsame : first.1.bmod (2 ^ 32) = pid := by simpa using List.find?_some hfirst
  rw [hfirst, Option.map_some, hagree first (List.mem_of_find?_eq_some hfirst) hsame]

/-- A marker of a process that there can be, and that the native check passes for some table, is
one that a native instance writes. -/
theorem exists_owner {pid start : ℕ} {tun : List Char}
    (hmarker : ownerMarker comment = some (pid, start, tun)) (hpid : pid < 2 ^ 31)
    (hstart : start < 2 ^ 64) {proc : ℤ → Option (List Char)}
    (h : Native.checkOwnershipText proc comment = .ok ()) :
    ∃ o : Native.Owner, comment = o.comment := by
  obtain ⟨-, htext, hpidPos, hstartPos, hne, hlength, hchars⟩ := ownerMarker_eq_some hmarker
  have hname : (String.ofList tun).toList = tun := String.toList_ofList
  have hwritten := Native.marker_toList pid start (String.ofList tun)
  rw [hname] at hwritten
  have hcomment := htext.trans hwritten.symm
  have hnamed : Native.validName (String.ofList tun) 15 false = true := by
    by_contra hbad
    obtain ⟨ms, hms, -⟩ := (Native.checkOwnershipText_eq_ok proc comment).mp h
    rw [← hname] at hne hlength hchars
    rw [hcomment, Native.markers_misnamed hpidPos (hpid.trans (by decide)) hstartPos hstart hne
      hlength hchars (Bool.eq_false_iff.mpr hbad)] at hms
    cases hms
  exact ⟨⟨pid, start, String.ofList tun, hpidPos, hpid, hstartPos, hstart, hnamed⟩, hcomment⟩

theorem agreed_of_native (h : ∀ table, Readable table →
    (Native.checkOwnershipText table.file comment ≠ .ok () ↔ Suspect table comment)) :
    Agreed comment := by
  by_cases hmarked : nftOwnerPrefix <+: comment
  · by_cases hreal : ∃ pid start tun, ownerMarker comment = some (pid, start, tun) ∧
        pid < 2 ^ 31 ∧ start < 2 ^ 64
    · obtain ⟨pid, start, tun, hmarker, hpid, hstart⟩ := hreal
      obtain ⟨-, -, hpidPos, hstartPos, -⟩ := ownerMarker_eq_some hmarker
      -- where just that process is, the comment is safe
      have halive : (ProcessTable.bare fun _ => some start).Alive pid start :=
        ProcessTable.bare_alive ⟨hpidPos, hpid⟩ hstart rfl
      have hsafe := (h _ (readable_bare fun _ => some start)).not.mpr fun hsuspect =>
        hsuspect.2 pid start tun hmarker halive
      exact .inr (.inl (exists_owner hmarker hpid hstart (not_not.mp hsafe)))
    · refine .inr (.inr ⟨hmarked, fun pid start tun hmarker => ?_, fun ms hms => ?_⟩)
      · by_contra hsmall
        rw [not_or, not_le, not_le] at hsmall
        exact hreal ⟨pid, start, tun, hmarker, hsmall⟩
      · by_contra hanswer
        obtain ⟨table, hread, hall⟩ := exists_answer (Native.markers_range hms) hanswer
        have hsuspect : Suspect table comment := by
          refine ⟨hmarked, ?_⟩
          rintro pid start tun hmarker ⟨p, hp, rfl⟩
          exact hreal ⟨pid, _, tun, hmarker, (table.pids pid p hp).2, p.range⟩
        exact (h table hread).mpr hsuspect
          ((Native.checkOwnershipText_eq_ok _ _).mpr ⟨ms, hms, hall⟩)
  · -- with no process at all the comment is safe, so that the scan must find nothing in it
    have hsafe := (h _ (readable_bare fun _ => none)).not.mpr fun hsuspect => hmarked hsuspect.1
    obtain ⟨ms, hms, hall⟩ := (Native.checkOwnershipText_eq_ok _ _).mp (not_not.mp hsafe)
    cases ms with
    | nil => exact .inl ⟨hmarked, Native.markers_eq_nil hms⟩
    | cons m ms =>
      have hstart := (List.forall_mem_cons.mp hall).1
      have hpos := Native.pos_of_processStartTime hstart
      obtain ⟨pid, hpid⟩ : ∃ pid : ℕ, m.1.bmod (2 ^ 32) = pid :=
        ⟨_, (Int.toNat_of_nonneg (by omega)).symm⟩
      rw [hpid] at hpos hstart
      rw [Native.processStartTime_file _ (by omega)] at hstart
      cases hstart

theorem exists_agreed {pid start : ℕ} {tun : String} (hpid : 0 < pid) (hpidLt : pid < 2 ^ 31)
    (hstart : 0 < start) (hstartLt : start < 2 ^ 64)
    (hnamed : Native.validName tun 15 false = true) :
    ∃ comment, Agreed comment ∧ nftOwnerPrefix <+: comment ∧
      ownerMarker comment = some (pid, start, tun.toList) :=
  let o : Native.Owner := ⟨pid, start, tun, hpid, hpidLt, hstart, hstartLt, hnamed⟩
  ⟨o.comment, .inr (.inl ⟨o, rfl⟩), ownerPrefix_comment o, ownerMarker_comment o⟩

theorem printable_single (comment : List Char) : Printable [] [⟨['t'], comment, []⟩] where
  first_untagged := Native.nil_untagged
  after_untagged := List.forall_mem_singleton.mpr Native.nil_untagged
  tables := List.forall_mem_singleton.mpr rfl

theorem ascii_of_agrees (python : StandardInterpreter) {pid : ℕ} {tun : List Char}
    {p : ProcessStat} (hp : table.entry pid = some p) (hmarked : nftOwnerPrefix <+: comment)
    (hmarker : ownerMarker comment = some (pid, p.startTime, tun))
    (h : Agrees python.toInterpreter table family [] [⟨['t'], comment, []⟩]) : Ascii p := by
  by_contra hascii
  have htable : nftTableName ['t'] = true := rfl
  have hreport := (reports_marker python family (r := ⟨['t'], comment, []⟩) htable hmarked
    hmarker).mpr <| by
      rintro ⟨p', hp', -, hascii'⟩
      rw [hp, Option.some.injEq] at hp'
      exact hascii (hp' ▸ hascii')
  obtain ⟨r, hr, hsuspect⟩ := h.reference.mp ((refuses_inspectNftOwnership _ _ _ _).mpr
    ⟨_, List.mem_singleton.mpr rfl, hreport⟩)
  rw [List.mem_singleton.mp hr] at hsuspect
  exact hsuspect.2 _ _ _ hmarker ⟨p, hp, rfl⟩

/-- The two supervisors refuse to start over the same rules, and over the suspect ones, on exactly
these comments if the process table can be read, and on exactly these tables if the comments are
such. -/
theorem ownership_checks_agree (python : StandardInterpreter) (family : String) :
    (∀ vocabulary : List Char → Prop,
      (∀ table first rules, Readable table → Printable first rules →
        (∀ r ∈ rules, vocabulary r.comment) →
          Agrees python.toInterpreter table family first rules) ↔
      ∀ comment, vocabulary comment → Agreed comment) ∧
    ∀ table,
      (∀ first rules, Printable first rules → (∀ r ∈ rules, Agreed r.comment) →
        Agrees python.toInterpreter table family first rules) ↔
      Readable table := by
  constructor
  · intro vocabulary
    constructor
    · intro h comment hcomment
      refine agreed_of_native fun table hread => ?_
      have hprint := printable_single comment
      have hagrees := (h table [] _ hread hprint (List.forall_mem_singleton.mpr hcomment)).native
      rw [ne_eq, native_printed hprint] at hagrees
      simpa using hagrees
    · intro h table first rules hread hprint hrules
      exact agrees_of_agreed python hread hprint fun r hr => h _ (hrules r hr)
  · intro table
    constructor
    · intro h pid p hp hstart
      obtain ⟨hpid, hpidLt⟩ := table.pids pid p hp
      have hnamed : Native.validName "t" 15 false = true := by decide +kernel
      obtain ⟨comment, hagreed, hmarked, hmarker⟩ := exists_agreed hpid hpidLt hstart p.range hnamed
      exact ascii_of_agrees python hp hmarked hmarker
        (h [] _ (printable_single comment) (List.forall_mem_singleton.mpr hagreed))
    · intro hread first rules hprint
      exact agrees_of_agreed python hread hprint

def versionTwo : PrintedRule :=
  ⟨"tcpcc_1".toList, "tcpcc.owner.v2 pid=1 start=1 tun=t0".toList, ['\n']⟩

theorem version_two_unnoticed :
    Native.checkOwnershipText (ProcessTable.bare fun _ => none).file (printed [] [versionTwo]) =
      .ok () ∧
    refuses (inspectNftOwnership python312 (ProcessTable.bare fun _ => none).file "ip"
      [versionTwo.rule "ip"]) = true := by
  constructor <;> decide +kernel

end Tcpcc.Reference

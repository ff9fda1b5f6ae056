import Mathlib.Algebra.Order.Ring.Int
import Mathlib.Data.List.Infix
import Mathlib.Data.List.TakeWhile

/-!
# Searching and scanning C strings

`strstr`, `strrchr`, the numbers of `strtol` and `strtoull`, and `sscanf` on lists of characters
without the terminator. A directive that cannot take a character reads what stands before it as if
the text ended there, so that a scan of a longer text is a scan of its parts.
-/

namespace CString

/-! ## Searching -/

def strstr (pattern : List Char) : List Char → Option (List Char)
  | [] => if pattern.isEmpty then some [] else none
  | c :: text => if pattern.isPrefixOf (c :: text) then some (c :: text) else strstr pattern text

variable {pattern text rest : List Char} {c : Char}

theorem strstr_eq_none (h : ¬ pattern <:+: text) : strstr pattern text = none := by
  induction text with
  | nil =>
    have hne : pattern ≠ [] := fun he => h (he ▸ List.infix_rfl)
    cases pattern with
    | nil => exact absurd rfl hne
    | cons c pattern => rfl
  | cons c text ih =>
    have hprefix : pattern.isPrefixOf (c :: text) = false := by
      rw [Bool.eq_false_iff]
      exact fun hp => h (List.isPrefixOf_iff_prefix.mp hp).isInfix
    rw [strstr, hprefix]
    exact ih fun hi => h (hi.trans (List.suffix_cons c text).isInfix)

theorem not_infix_of_strstr (h : strstr pattern text = none) : ¬ pattern <:+: text := by
  induction text with
  | nil =>
    intro hi
    rw [List.infix_nil.mp hi] at h
    cases h
  | cons c text ih =>
    rw [strstr] at h
    split at h
    · cases h
    · rename_i hprefix
      intro hi
      rcases List.infix_cons_iff.mp hi with hp | hi
      · exact hprefix (List.isPrefixOf_iff_prefix.mpr hp)
      · exact ih h hi

theorem suffix_of_strstr {found : List Char} (h : strstr pattern text = some found) :
    found <:+ text := by
  induction text with
  | nil =>
    rw [strstr] at h
    split at h
    · cases h
      exact List.suffix_rfl
    · cases h
  | cons c text ih =>
    rw [strstr] at h
    split at h
    · cases h
      exact List.suffix_rfl
    · exact (ih h).trans (List.suffix_cons c text)

theorem prefix_of_strstr {found : List Char} (h : strstr pattern text = some found) :
    pattern <+: found := by
  induction text with
  | nil =>
    rw [strstr] at h
    split at h
    · rename_i hempty
      rw [List.isEmpty_iff.mp hempty]
      exact List.nil_prefix
    · cases h
  | cons c text ih =>
    rw [strstr] at h
    split at h
    · rename_i hprefix
      cases h
      exact List.isPrefixOf_iff_prefix.mp hprefix
    · exact ih h

theorem strstr_append_of_eq_some {found : List Char} (h : strstr pattern text = some found)
    (rest : List Char) : strstr pattern (text ++ rest) = some (found ++ rest) := by
  induction text with
  | nil =>
    rw [strstr] at h
    split at h
    · rename_i hempty
      cases h
      rw [List.isEmpty_iff.mp hempty]
      cases rest with
      | nil => rfl
      | cons c rest => rfl
    · cases h
  | cons c text ih =>
    rw [strstr] at h
    rw [List.cons_append, strstr]
    split at h
    · rename_i hprefix
      cases h
      have hlonger : pattern <+: c :: (text ++ rest) :=
        (List.isPrefixOf_iff_prefix.mp hprefix).trans (List.prefix_append (c :: text) rest)
      rw [if_pos (List.isPrefixOf_iff_prefix.mpr hlonger), List.cons_append]
    · rename_i hprefix
      -- the pattern fits into `text`, so it does not reach beyond it
      have hlength : pattern.length ≤ text.length :=
        (prefix_of_strstr h).length_le.trans (suffix_of_strstr h).length_le
      have hshort : ¬ pattern <+: c :: (text ++ rest) := by
        intro hlong
        have hfits : pattern <+: c :: text :=
          List.prefix_of_prefix_length_le hlong (List.prefix_append (c :: text) rest)
            (Nat.le_succ_of_le hlength)
        exact hprefix (List.isPrefixOf_iff_prefix.mpr hfits)
      rw [if_neg fun hp => hshort (List.isPrefixOf_iff_prefix.mp hp)]
      exact ih h

theorem prefix_of_prefix_append_cons (text : List Char) (hc : c ∉ pattern)
    (h : pattern <+: text ++ c :: rest) : pattern <+: text := by
  rcases Nat.lt_or_ge text.length pattern.length with hlt | hge
  · have hinside : text ++ [c] <+: pattern := by
      have hlonger : text ++ [c] <+: text ++ c :: rest :=
        (List.prefix_append_right_inj text).mpr ⟨rest, rfl⟩
      refine List.prefix_of_prefix_length_le hlonger h ?_
      rw [List.length_append, List.length_singleton]
      exact hlt
    exact absurd (hinside.subset (by simp)) hc
  · exact List.prefix_of_prefix_length_le h (List.prefix_append _ _) hge

theorem strstr_append_cons (hc : c ∉ pattern) (h : ¬ pattern <:+: text) (rest : List Char) :
    strstr pattern (text ++ c :: rest) = strstr pattern rest := by
  induction text with
  | nil =>
    have hnot : ¬ pattern <+: c :: rest := fun hp =>
      h (prefix_of_prefix_append_cons [] hc hp).isInfix
    rw [List.nil_append, strstr, if_neg fun hp => hnot (List.isPrefixOf_iff_prefix.mp hp)]
  | cons d text ih =>
    have hnot : ¬ pattern <+: d :: (text ++ c :: rest) := fun hp =>
      h (prefix_of_prefix_append_cons (d :: text) hc hp).isInfix
    rw [List.cons_append, strstr, if_neg fun hp => hnot (List.isPrefixOf_iff_prefix.mp hp)]
    exact ih fun hi => h (hi.trans (List.suffix_cons d text).isInfix)

theorem strstr_append {before : List Char} (hc : c ∉ pattern) (h : ¬ (c :: pattern) <:+: before)
    (rest : List Char) :
    strstr (c :: pattern) (before ++ (c :: pattern ++ rest)) = some (c :: pattern ++ rest) := by
  induction before with
  | nil =>
    have hprefix : (c :: pattern).isPrefixOf (c :: (pattern ++ rest)) = true :=
      List.isPrefixOf_iff_prefix.mpr ⟨rest, rfl⟩
    simp only [List.nil_append, List.cons_append, strstr, hprefix, if_true]
  | cons d before ih =>
    have hprefix : (c :: pattern).isPrefixOf (d :: (before ++ (c :: pattern ++ rest))) = false := by
      rw [Bool.eq_false_iff]
      intro hp
      obtain ⟨rfl, hinto⟩ := List.cons_prefix_cons.mp (List.isPrefixOf_iff_prefix.mp hp)
      -- the occurrence does not reach the first character of the one behind `before`
      have hinside : pattern <+: before := prefix_of_prefix_append_cons before hc hinto
      exact h ((List.cons_prefix_cons.mpr ⟨rfl, hinside⟩).isInfix)
    rw [List.cons_append, strstr, hprefix]
    exact ih fun hi => h (hi.trans (List.suffix_cons d before).isInfix)

def afterLast (c : Char) : List Char → Option (List Char)
  | [] => none
  | d :: text =>
    match afterLast c text with
    | some rest => some rest
    | none => if d = c then some text else none

theorem afterLast_eq_none (h : c ∉ text) : afterLast c text = none := by
  induction text with
  | nil => rfl
  | cons d text ih =>
    obtain ⟨hd, htext⟩ := not_or.mp (List.mem_cons.not.mp h)
    simp only [afterLast, ih htext, if_neg (Ne.symm hd)]

theorem afterLast_append (before : List Char) {rest : List Char} (h : c ∉ rest) :
    afterLast c (before ++ c :: rest) = some rest := by
  induction before with
  | nil => simp only [List.nil_append, afterLast, afterLast_eq_none h, if_true]
  | cons d before ih => simp only [List.cons_append, afterLast, ih]

/-! ## Up to a character -/

section
variable {p : Char → Bool}

theorem dropWhile_append_cons (h : p c = false) (text rest : List Char) :
    (text ++ c :: rest).dropWhile p = text.dropWhile p ++ c :: rest := by
  rw [List.dropWhile_append]
  split
  · rename_i hempty
    rw [List.isEmpty_iff.mp hempty, List.dropWhile_cons_of_neg (by simp [h]), List.nil_append]
  · rfl

theorem takeWhile_append_cons (h : p c = false) (text rest : List Char) :
    (text ++ c :: rest).takeWhile p = text.takeWhile p := by
  induction text with
  | nil => simp [h]
  | cons d text ih =>
    rw [List.cons_append, List.takeWhile_cons, List.takeWhile_cons, ih]

end

/-! ## Numbers -/

def isSpace (c : Char) : Bool := c == ' ' || ('\t' ≤ c && c ≤ '\r')

def isSign (c : Char) : Bool := c == '-' || c == '+'

def skipSign : List Char → List Char
  | [] => []
  | c :: text => if isSign c then text else c :: text

/-- A number in base 10 behind blanks: whether it has a minus sign, its digits, and the text behind
them. -/
def number (text : List Char) : Option ((Bool × ℕ) × List Char) :=
  let text := text.dropWhile isSpace
  let digits := (skipSign text).takeWhile Char.isDigit
  if digits.isEmpty then none
  else some ((text.head? == some '-', Nat.ofDigitChars 10 digits 0),
    (skipSign text).dropWhile Char.isDigit)

theorem not_isSpace_of_isDigit (h : c.isDigit = true) : isSpace c = false := by
  simp only [Char.isDigit, Bool.and_eq_true, decide_eq_true_eq] at h
  rw [Bool.eq_false_iff]
  intro hspace
  simp only [isSpace, Bool.or_eq_true, beq_iff_eq, Bool.and_eq_true, decide_eq_true_eq] at hspace
  rcases hspace with rfl | ⟨-, hle⟩
  · exact absurd h.1 (by decide)
  · have hlow : '0' ≤ '\r' := Char.le_trans h.1 hle
    exact absurd hlow (by decide)

def endsNumber (c : Char) : Bool := !isSpace c && !isSign c && !c.isDigit

theorem number_append_cons (h : endsNumber c = true) (text rest : List Char) :
    number (text ++ c :: rest) = (number text).map fun r => (r.1, r.2 ++ c :: rest) := by
  simp only [endsNumber, Bool.and_eq_true, Bool.not_eq_true'] at h
  obtain ⟨⟨hspace, hsign⟩, hdigit⟩ := h
  unfold number
  rw [dropWhile_append_cons hspace]
  generalize text.dropWhile isSpace = trimmed
  cases trimmed with
  | nil => simp [skipSign, hsign, hdigit]
  | cons d trimmed =>
    have hskip : skipSign (d :: trimmed ++ c :: rest) = skipSign (d :: trimmed) ++ c :: rest := by
      simp only [List.cons_append, skipSign]
      split <;> rfl
    have hhead : (d :: trimmed ++ c :: rest).head? = (d :: trimmed).head? := rfl
    simp only [hskip, hhead, takeWhile_append_cons hdigit, dropWhile_append_cons hdigit]
    split <;> rfl

theorem number_toDigits (n : ℕ) {rest : List Char} (h : rest.takeWhile Char.isDigit = []) :
    number (Nat.toDigits 10 n ++ rest) = some ((false, n), rest) := by
  have hdigits : ∀ c ∈ Nat.toDigits 10 n, c.isDigit = true := fun c hc =>
    Nat.isDigit_of_mem_toDigits (by decide) (by decide) hc
  have hvalue : Nat.ofDigitChars 10 (Nat.toDigits 10 n) 0 = n :=
    Nat.ofDigitChars_toDigits (by decide) (by decide)
  have htake : (Nat.toDigits 10 n ++ rest).takeWhile Char.isDigit = Nat.toDigits 10 n := by
    rw [List.takeWhile_append_of_pos hdigits, h, List.append_nil]
  have hdrop : (Nat.toDigits 10 n ++ rest).dropWhile Char.isDigit = rest := by
    have hsplit := List.takeWhile_append_dropWhile (p := Char.isDigit) (l := rest)
    rw [h, List.nil_append] at hsplit
    rw [List.dropWhile_append_of_pos hdigits, hsplit]
  have hne : Nat.toDigits 10 n ≠ [] := Nat.toDigits_ne_nil
  generalize Nat.toDigits 10 n = digits at *
  cases digits with
  | nil => exact absurd rfl hne
  | cons c digits =>
    have hc := hdigits c List.mem_cons_self
    have hsign : isSign c = false := by
      simp only [isSign, Bool.or_eq_false_iff, beq_eq_false_iff_ne]
      constructor
      · rintro rfl
        exact absurd hc (by decide)
      · rintro rfl
        exact absurd hc (by decide)
    have hminus : ((some c : Option Char) == some '-') = false := by
      simp only [isSign, Bool.or_eq_false_iff, beq_eq_false_iff_ne] at hsign
      simpa using hsign.1
    have hskip : skipSign (c :: digits ++ rest) = c :: digits ++ rest := by
      simp only [List.cons_append, skipSign, hsign, Bool.false_eq_true, if_false]
    unfold number
    rw [List.cons_append, List.dropWhile_cons_of_neg (by simp [not_isSpace_of_isDigit hc]),
      ← List.cons_append]
    simp only [hskip, htake, hdrop, hvalue, List.isEmpty_cons, Bool.false_eq_true, if_false]
    simp only [List.cons_append, List.head?_cons, hminus]

/-- `strtoull` in base 10: the number, unless it is out of range, and the text behind it. A text
without a number is left as it is. -/
def strtoull (text : List Char) : Option ℕ × List Char :=
  match number text with
  | none => (some 0, text)
  | some ((negative, n), rest) =>
    (if n < 2 ^ 64 then some (if negative then (2 ^ 64 - n) % 2 ^ 64 else n) else none, rest)

/-! ## Scanning -/

inductive Directive
  | char (c : Char)
  | blank
  | long
  | ulonglong
  | set (p : Char → Bool) (width : ℕ)

inductive Value
  | long (n : ℤ)
  | ulonglong (n : ℕ)
  | text (l : List Char)
  deriving DecidableEq

variable {values : List Value} {format : List Directive}

def clampLong (negative : Bool) (n : ℕ) : ℤ :=
  if negative then max (-2 ^ 63) (-n) else min (2 ^ 63 - 1) n

def clampUlonglong (negative : Bool) (n : ℕ) : ℕ :=
  if n < 2 ^ 64 then (if negative then (2 ^ 64 - n) % 2 ^ 64 else n) else 2 ^ 64 - 1

def convert : Directive → List Char → Option (List Value × List Char)
  | .char _, [] => none
  | .char c, d :: text => if d = c then some ([], text) else none
  | .blank, text => some ([], text.dropWhile isSpace)
  | .long, text => (number text).map fun r => ([.long (clampLong r.1.1 r.1.2)], r.2)
  | .ulonglong, text =>
    (number text).map fun r => ([.ulonglong (clampUlonglong r.1.1 r.1.2)], r.2)
  | .set p width, text =>
    let taken := (text.takeWhile p).take width
    if taken.isEmpty then none else some ([.text taken], text.drop taken.length)

/-- The values of a scan that gets through its format, and the text it leaves. -/
def sscanf : List Directive → List Char → Option (List Value × List Char)
  | [], text => some ([], text)
  | d :: format, text =>
    (convert d text).bind fun r => (sscanf format r.2).map fun q => (r.1 ++ q.1, q.2)

def word (w : List Char) : List Directive := w.map .char

theorem sscanf_cons {d : Directive} (h : convert d text = some (values, rest))
    (format : List Directive) :
    sscanf (d :: format) text = (sscanf format rest).map fun q => (values ++ q.1, q.2) := by
  rw [sscanf, h, Option.bind_some]

theorem sscanf_word (w : List Char) (format : List Directive) (text : List Char) :
    sscanf (word w ++ format) (w ++ text) = sscanf format text := by
  induction w with
  | nil => rfl
  | cons c w ih =>
    have hc : convert (.char c) (c :: (w ++ text)) = some ([], w ++ text) := if_pos rfl
    rw [word, List.map_cons, List.cons_append, List.cons_append, sscanf_cons hc]
    rw [show w.map Directive.char ++ format = word w ++ format from rfl, ih]
    simp

def Refuses (c : Char) : Directive → Prop
  | .char d => d ≠ c
  | .blank => isSpace c = false
  | .long => endsNumber c = true
  | .ulonglong => endsNumber c = true
  | .set p _ => p c = false

instance (c : Char) : (d : Directive) → Decidable (Refuses c d)
  | .char _ => inferInstanceAs (Decidable (_ ≠ _))
  | .blank => inferInstanceAs (Decidable (_ = _))
  | .long => inferInstanceAs (Decidable (_ = _))
  | .ulonglong => inferInstanceAs (Decidable (_ = _))
  | .set _ _ => inferInstanceAs (Decidable (_ = _))

theorem convert_append_cons {d : Directive} (h : Refuses c d) (text rest : List Char) :
    convert d (text ++ c :: rest) = (convert d text).map fun r => (r.1, r.2 ++ c :: rest) := by
  cases d with
  | char e =>
    cases text with
    | nil => exact if_neg (Ne.symm h)
    | cons f text =>
      simp only [List.cons_append, convert]
      split <;> rfl
  | blank => rw [convert, dropWhile_append_cons h, convert, Option.map_some]
  | long => rw [convert, number_append_cons h, convert, Option.map_map, Option.map_map]; rfl
  | ulonglong => rw [convert, number_append_cons h, convert, Option.map_map, Option.map_map]; rfl
  | set p width =>
    have hle : ((text.takeWhile p).take width).length ≤ text.length :=
      (List.length_take_le' _ _).trans (List.takeWhile_prefix p).length_le
    simp only [convert, takeWhile_append_cons h, List.drop_append_of_le_length hle]
    split <;> rfl

theorem sscanf_append_cons (h : ∀ d ∈ format, Refuses c d) (text rest : List Char) :
    sscanf format (text ++ c :: rest) =
      (sscanf format text).map fun r => (r.1, r.2 ++ c :: rest) := by
  induction format generalizing text with
  | nil => rfl
  | cons d format ih =>
    obtain ⟨hd, hformat⟩ := List.forall_mem_cons.mp h
    rw [sscanf, sscanf, convert_append_cons hd]
    cases convert d text with
    | none => rfl
    | some r =>
      simp only [Option.map_some, Option.bind_some]
      rw [ih hformat, Option.map_map, Option.map_map]
      rfl

theorem number_length_le {n : Bool × ℕ} (h : number text = some (n, rest)) :
    rest.length ≤ text.length := by
  have hskip : ∀ t : List Char, (skipSign t).length ≤ t.length := by
    intro t
    cases t with
    | nil => exact Nat.le_refl _
    | cons c t =>
      rw [skipSign]
      split
      · exact Nat.le_succ _
      · exact Nat.le_refl _
  simp only [number] at h
  split at h
  · cases h
  · cases h
    calc ((skipSign (text.dropWhile isSpace)).dropWhile Char.isDigit).length
        ≤ (skipSign (text.dropWhile isSpace)).length := (List.dropWhile_suffix _).length_le
      _ ≤ (text.dropWhile isSpace).length := hskip _
      _ ≤ text.length := (List.dropWhile_suffix _).length_le

theorem convert_length_le {d : Directive} (h : convert d text = some (values, rest)) :
    rest.length ≤ text.length := by
  cases d with
  | char c =>
    cases text with
    | nil => cases h
    | cons e text =>
      rw [convert] at h
      split at h
      · cases h
        exact Nat.le_succ _
      · cases h
  | blank =>
    cases h
    exact (List.dropWhile_suffix _).length_le
  | long =>
    obtain ⟨r, hr, heq⟩ := Option.map_eq_some_iff.mp h
    cases heq
    exact number_length_le hr
  | ulonglong =>
    obtain ⟨r, hr, heq⟩ := Option.map_eq_some_iff.mp h
    cases heq
    exact number_length_le hr
  | set p width =>
    simp only [convert] at h
    split at h
    · cases h
    · cases h
      exact (List.drop_suffix _ _).length_le

theorem sscanf_length_le (h : sscanf format text = some (values, rest)) :
    rest.length ≤ text.length := by
  induction format generalizing text values with
  | nil =>
    cases h
    exact Nat.le_refl _
  | cons d format ih =>
    obtain ⟨⟨first, left⟩, hfirst, hleft⟩ := Option.bind_eq_some_iff.mp h
    obtain ⟨⟨more, last⟩, hmore, heq⟩ := Option.map_eq_some_iff.mp hleft
    cases heq
    exact (ih hmore).trans (convert_length_le hfirst)

theorem sscanf_length_lt (h : sscanf (.char c :: format) text = some (values, rest)) :
    rest.length < text.length := by
  obtain ⟨⟨first, left⟩, hfirst, hleft⟩ := Option.bind_eq_some_iff.mp h
  obtain ⟨⟨more, last⟩, hmore, heq⟩ := Option.map_eq_some_iff.mp hleft
  cases heq
  cases text with
  | nil => cases hfirst
  | cons d text =>
    rw [convert] at hfirst
    split at hfirst
    · cases hfirst
      exact Nat.lt_succ_of_le (sscanf_length_le hmore)
    · cases hfirst

theorem clampUlonglong_lt (negative : Bool) (n : ℕ) : clampUlonglong negative n < 2 ^ 64 := by
  unfold clampUlonglong
  split
  · split
    · exact Nat.mod_lt _ (by decide)
    · assumption
  · decide

theorem sscanf_ulonglong_lt (h : sscanf format text = some (values, rest)) {n : ℕ}
    (hn : Value.ulonglong n ∈ values) : n < 2 ^ 64 := by
  induction format generalizing text values with
  | nil =>
    cases h
    cases hn
  | cons d format ih =>
    obtain ⟨⟨first, left⟩, hfirst, hleft⟩ := Option.bind_eq_some_iff.mp h
    obtain ⟨⟨more, last⟩, hmore, heq⟩ := Option.map_eq_some_iff.mp hleft
    cases heq
    rcases List.mem_append.mp hn with hn | hn
    · cases d with
      | char c =>
        cases text with
        | nil => cases hfirst
        | cons e text =>
          rw [convert] at hfirst
          split at hfirst
          · cases hfirst
            cases hn
          · cases hfirst
      | blank =>
        cases hfirst
        cases hn
      | long =>
        obtain ⟨r, hr, heq⟩ := Option.map_eq_some_iff.mp hfirst
        cases heq
        simp at hn
      | ulonglong =>
        obtain ⟨r, hr, heq⟩ := Option.map_eq_some_iff.mp hfirst
        cases heq
        simp only [List.mem_singleton, Value.ulonglong.injEq] at hn
        rw [hn]
        exact clampUlonglong_lt _ _
      | set p width =>
        simp only [convert] at hfirst
        split at hfirst
        · cases hfirst
        · cases hfirst
          simp at hn
    · exact ih hmore hn

theorem convert_long {n : ℕ} (h : n < 2 ^ 63) {rest : List Char}
    (hrest : rest.takeWhile Char.isDigit = []) :
    convert .long (Nat.toDigits 10 n ++ rest) = some ([.long n], rest) := by
  have hclamp : clampLong false n = n := by
    simp only [clampLong, Bool.false_eq_true, if_false]
    omega
  rw [convert, number_toDigits n hrest, Option.map_some, hclamp]

theorem convert_ulonglong {n : ℕ} (h : n < 2 ^ 64) {rest : List Char}
    (hrest : rest.takeWhile Char.isDigit = []) :
    convert .ulonglong (Nat.toDigits 10 n ++ rest) = some ([.ulonglong n], rest) := by
  have hclamp : clampUlonglong false n = n := if_pos h
  rw [convert, number_toDigits n hrest, Option.map_some, hclamp]

theorem convert_set {p : Char → Bool} {width : ℕ} (hne : text ≠ []) (hp : ∀ c ∈ text, p c = true)
    (hwidth : text.length ≤ width) : convert (.set p width) text = some ([.text text], []) := by
  have htake : (text.takeWhile p).take width = text := by
    rw [List.takeWhile_eq_self_iff.mpr hp, List.take_of_length_le hwidth]
  have hempty : text.isEmpty = false := by simpa using hne
  simp only [convert, htake, hempty, Bool.false_eq_true, if_false, List.drop_length]

end CString

import Mathlib.Data.List.DropRight
import Tcpcc.Lib.CString
import Tcpcc.Native.Firewall
import Tcpcc.Native.Numbers
import Tcpcc.Procfs

/-!
# Ownership markers of other instances

Before it starts, a native instance looks through the rules of the firewall for the markers that
native instances leave there. Each has to name a process that is still there: its start time, read
from the stat line of its pid, is the one in the marker. The scan takes a marker for one wherever
it stands in the text.
-/

namespace Tcpcc.Native
open CString Procfs

/-! ## Start times -/

/-- `tcpcc_read_file` on the contents of a file, if it can be opened. -/
def readFile (contents : Option (List Char)) (size : ℕ) : Option (List Char) :=
  contents.map fun text =>
    ((text.take (size - 1)).rdropWhile fun c => c == '\n' || c == '\r').takeWhile (· != '\x00')

/-- The loop over the fields behind the command name, with `skip` of them before the start time. -/
def startField : ℕ → List Char → Option ℕ
  | skip, cursor =>
    let cursor := cursor.dropWhile (· == ' ')
    if cursor.isEmpty then none
    else
      match skip with
      | 0 =>
        match strtoull (cursor.takeWhile (· != ' ')) with
        | (some start, []) => if start = 0 then none else some start
        | _ => none
      | skip + 1 => startField skip (cursor.dropWhile (· != ' '))

def processStartTime (proc : ℤ → Option (List Char)) (pid : ℤ) : Option ℕ :=
  (readFile (proc pid) 4096).bind fun statLine => (afterLast ')' statLine).bind (startField 19)

theorem strtoull_toDigits {n : ℕ} (h : n < 2 ^ 64) :
    strtoull (Nat.toDigits 10 n) = (some n, []) := by
  have hnumber : number (Nat.toDigits 10 n ++ []) = some ((false, n), []) := number_toDigits n rfl
  rw [List.append_nil] at hnumber
  simp only [strtoull, hnumber, if_pos h, Bool.false_eq_true, if_false]

theorem not_space_of_graph {c : Char} (h : isGraph c = true) : (c == ' ') = false := by
  rw [beq_eq_false_iff_ne]
  rintro rfl
  exact absurd h (by decide)

theorem startField_cons {f : List Char} (hf : f ≠ [] ∧ ∀ c ∈ f, isGraph c = true ∧ c ≠ ')')
    (fs : List (List Char)) (skip : ℕ) :
    startField skip ((f :: fs).flatMap (' ' :: ·)) =
      match skip with
      | 0 =>
        match strtoull f with
        | (some start, []) => if start = 0 then none else some start
        | _ => none
      | skip + 1 => startField skip (fs.flatMap (' ' :: ·)) := by
  obtain ⟨hne, hgraph⟩ := hf
  have hplain : ∀ c ∈ f, (c == ' ') = false := fun c hc => not_space_of_graph (hgraph c hc).1
  obtain ⟨c, f, rfl⟩ := List.exists_cons_of_ne_nil hne
  have hblank : ((c :: f) :: fs).flatMap (' ' :: ·) = ' ' :: (c :: f) ++ fs.flatMap (' ' :: ·) := by
    simp
  have hskip : (((c :: f) :: fs).flatMap (' ' :: ·)).dropWhile (· == ' ') =
      (c :: f) ++ fs.flatMap (' ' :: ·) := by
    rw [hblank]
    have hc := hplain c List.mem_cons_self
    simp [hc]
  have hall : ∀ d ∈ c :: f, (d != ' ') = true := fun d hd => by
    rw [bne, hplain d hd, Bool.not_false]
  have hnext : (fs.flatMap (' ' :: ·)).takeWhile (· != ' ') = [] ∧
      (fs.flatMap (' ' :: ·)).dropWhile (· != ' ') = fs.flatMap (' ' :: ·) := by
    cases fs with
    | nil => exact ⟨rfl, rfl⟩
    | cons g fs => exact ⟨rfl, rfl⟩
  have hempty : ((c :: f) ++ fs.flatMap (' ' :: ·)).isEmpty = false := rfl
  rw [startField.eq_def]
  simp only [hskip, hempty, List.takeWhile_append_of_pos hall, List.dropWhile_append_of_pos hall,
    hnext.1, hnext.2, List.append_nil, Bool.false_eq_true, if_false]

theorem startField_rest (p : ProcessStat) :
    startField 19 p.rest = if p.startTime = 0 then none else some p.startTime := by
  have hgraph : ∀ f ∈ p.fields, f ≠ [] ∧ ∀ c ∈ f, isGraph c = true ∧ c ≠ ')' :=
    fun f hf => ProcessStat.field_graph hf
  have hcount := p.count
  unfold ProcessStat.rest
  unfold ProcessStat.fields at hgraph ⊢
  -- the loop passes one field at a time and comes to the start time after all of `before`
  have hloop : ∀ before : List (List Char),
      (∀ f ∈ before ++ Nat.toDigits 10 p.startTime :: p.after,
        f ≠ [] ∧ ∀ c ∈ f, isGraph c = true ∧ c ≠ ')') →
      startField before.length
        ((before ++ Nat.toDigits 10 p.startTime :: p.after).flatMap (' ' :: ·)) =
          if p.startTime = 0 then none else some p.startTime := by
    intro before
    induction before with
    | nil =>
      intro hfields
      rw [List.nil_append, List.length_nil, startField_cons (hfields _ List.mem_cons_self)]
      simp only [strtoull_toDigits p.range]
    | cons f before ih =>
      intro hfields
      obtain ⟨hf, hrest⟩ := List.forall_mem_cons.mp hfields
      rw [List.cons_append, List.length_cons, startField_cons hf]
      exact ih hrest
  rw [← hcount]
  exact hloop p.before hgraph

theorem readFile_line {p : ProcessStat} {pid : ℕ} (h : (p.line pid).length < 4096) :
    readFile (some (p.line pid)) 4096 =
      some (Nat.toDigits 10 pid ++ ' ' :: '(' :: (p.comm ++ ')' :: p.rest)) := by
  obtain ⟨front, c, hrest, hc⟩ := p.rest_last
  have htake : (p.line pid).take (4096 - 1) = p.line pid := List.take_of_length_le (by omega)
  have hend : (c == '\n' || c == '\r') = false := by
    simp only [Bool.or_eq_false_iff, beq_eq_false_iff_ne]
    constructor
    · rintro rfl
      exact absurd hc (by decide)
    · rintro rfl
      exact absurd hc (by decide)
  have hnul : ∀ d ∈ Nat.toDigits 10 pid ++ ' ' :: '(' :: (p.comm ++ ')' :: p.rest),
      (d != '\x00') = true := by
    intro d hd
    rw [bne_iff_ne]
    rintro rfl
    simp only [List.mem_append, List.mem_cons] at hd
    rcases hd with hd | hd | hd | hd | hd | hd
    · exact absurd (graph_toDigits hd).1 (by decide)
    · exact absurd hd (by decide)
    · exact absurd hd (by decide)
    · exact p.named hd
    · exact absurd hd (by decide)
    · rcases ProcessStat.mem_rest hd with heq | hgraph
      · exact absurd heq (by decide)
      · exact absurd hgraph.1 (by decide)
  rw [readFile, Option.map_some, htake, ProcessStat.line, List.rdropWhile_concat_pos _ _ _ (by rfl)]
  have hkeep : (Nat.toDigits 10 pid ++ ' ' :: '(' :: (p.comm ++ ')' :: p.rest)).rdropWhile
      (fun c => c == '\n' || c == '\r') =
        Nat.toDigits 10 pid ++ ' ' :: '(' :: (p.comm ++ ')' :: p.rest) := by
    rw [hrest]
    have hsplit : Nat.toDigits 10 pid ++ ' ' :: '(' :: (p.comm ++ ')' :: (front ++ [c])) =
        (Nat.toDigits 10 pid ++ ' ' :: '(' :: (p.comm ++ ')' :: front)) ++ [c] := by simp
    rw [hsplit, List.rdropWhile_concat_neg _ _ _ (by simp [hend])]
  rw [hkeep, List.takeWhile_eq_self_iff.mpr hnul]

theorem processStartTime_file (table : ProcessTable) {pid : ℕ} (h : 0 < pid) :
    processStartTime table.file pid =
      (table.entry pid).bind fun p => if p.startTime = 0 then none else some p.startTime := by
  rw [processStartTime, table.file_natCast h]
  cases hentry : table.entry pid with
  | none => rfl
  | some p =>
    have hsplit : Nat.toDigits 10 pid ++ ' ' :: '(' :: (p.comm ++ ')' :: p.rest) =
        (Nat.toDigits 10 pid ++ ' ' :: '(' :: p.comm) ++ ')' :: p.rest := by simp
    rw [Option.map_some, readFile_line (table.fits pid p hentry), Option.bind_some, hsplit,
      afterLast_append _ p.rest_close, Option.bind_some, Option.bind_some, startField_rest]

theorem processStartTime_eq_some (table : ProcessTable) {pid start : ℕ} (hpid : 0 < pid)
    (hstart : 0 < start) :
    processStartTime table.file pid = some start ↔ table.Alive pid start := by
  rw [processStartTime_file table hpid, Option.bind_eq_some_iff]
  refine exists_congr fun p => and_congr_right fun _ => ?_
  constructor
  · intro h
    split at h
    · cases h
    · exact Option.some.inj h
  · rintro rfl
    rw [if_neg (by omega)]

theorem pos_of_processStartTime {table : ProcessTable} {pid : ℤ} {start : ℕ}
    (h : processStartTime table.file pid = some start) : 0 < pid := by
  by_contra hpid
  rw [processStartTime, ProcessTable.file, if_neg hpid] at h
  cases h

/-! ## The scan -/

def ownerTag : List Char := "tcpcc.owner.v1".toList

/-- `%15[A-Za-z0-9_.-]`. -/
def isTunChar (c : Char) : Bool :=
  ('A' ≤ c && c ≤ 'Z') || ('a' ≤ c && c ≤ 'z') || ('0' ≤ c && c ≤ '9') || c == '_' || c == '.' ||
    c == '-'

/-- The format of `tcpcc_check_ownership_text`; the final `%n` is the text that is left. -/
def ownerFormat : List Directive :=
  word ownerTag ++ .blank :: (word "pid=".toList ++ .long :: .blank ::
    (word "start=".toList ++ .ulonglong :: .blank :: (word "tun=".toList ++ [.set isTunChar 15])))

def malformedMarker : String := "malformed tcpcc firewall ownership marker blocks startup"

def staleResource : String :=
  "stale tcpcc firewall resource blocks startup; inspect and remove it explicitly"

/-- The pid and the start time of the marker at the cursor, if it is well formed, and the text
behind it. -/
def scanMarker (cursor : List Char) : Option ((ℤ × ℕ) × List Char) :=
  match sscanf ownerFormat cursor with
  | some ([.long pid, .ulonglong expected, .text tunName], rest) =>
    if pid < 1 ∨ expected < 1 ∨ !validName (String.ofList tunName) 15 false then none
    else some ((pid, expected), rest)
  | _ => none

theorem ownerFormat_quote : ∀ d ∈ ownerFormat, Refuses '"' d := by
  decide +kernel

theorem scanMarker_quote (text rest : List Char) :
    scanMarker (text ++ '"' :: rest) =
      (scanMarker text).map fun r => (r.1, r.2 ++ '"' :: rest) := by
  unfold scanMarker
  rw [sscanf_append_cons ownerFormat_quote]
  cases sscanf ownerFormat text with
  | none => rfl
  | some r =>
    obtain ⟨values, left⟩ := r
    simp only [Option.map_some]
    split
    · rename_i heq
      simp only [Option.some.injEq, Prod.mk.injEq] at heq
      obtain ⟨rfl, rfl⟩ := heq
      simp only
      split <;> rfl
    · rename_i hne
      split
      · rename_i pid expected tunName rest' heq
        simp only [Option.some.injEq, Prod.mk.injEq] at heq
        obtain ⟨rfl, rfl⟩ := heq
        exact absurd rfl (hne pid expected tunName _)
      · rfl

def checkOwnershipFrom (proc : ℤ → Option (List Char)) : ℕ → List Char → Except String Unit
  | 0, _ => .ok ()
  | fuel + 1, cursor =>
    match strstr ownerTag cursor with
    | none => .ok ()
    | some cursor =>
      match scanMarker cursor with
      | none => .error malformedMarker
      | some ((pid, expected), rest) =>
        if processStartTime proc (pid.bmod (2 ^ 32)) ≠ some expected then .error staleResource
        else checkOwnershipFrom proc fuel rest

/-- `tcpcc_check_ownership_text`; a text has no more markers than characters. -/
def checkOwnershipText (proc : ℤ → Option (List Char)) (text : List Char) : Except String Unit :=
  checkOwnershipFrom proc text.length text

/-- What the scan reads off a text, unless one of its markers is malformed. -/
def markersFrom : ℕ → List Char → Option (List (ℤ × ℕ))
  | 0, _ => some []
  | fuel + 1, cursor =>
    match strstr ownerTag cursor with
    | none => some []
    | some cursor =>
      match scanMarker cursor with
      | none => none
      | some (m, rest) => (markersFrom fuel rest).map (m :: ·)

def markers (text : List Char) : Option (List (ℤ × ℕ)) := markersFrom text.length text

theorem checkOwnershipFrom_eq_ok (proc : ℤ → Option (List Char)) (fuel : ℕ) (text : List Char) :
    checkOwnershipFrom proc fuel text = .ok () ↔ ∃ ms, markersFrom fuel text = some ms ∧
      ∀ m ∈ ms, processStartTime proc (m.1.bmod (2 ^ 32)) = some m.2 := by
  induction fuel generalizing text with
  | zero => simp [checkOwnershipFrom, markersFrom]
  | succ fuel ih =>
    rw [checkOwnershipFrom, markersFrom]
    cases strstr ownerTag text with
    | none => simp
    | some cursor =>
      cases hscan : scanMarker cursor with
      | none => simp [hscan]
      | some r =>
        obtain ⟨⟨pid, expected⟩, rest⟩ := r
        simp only [hscan, Option.map_eq_some_iff]
        by_cases hstart : processStartTime proc (pid.bmod (2 ^ 32)) = some expected
        · rw [if_neg (not_not.mpr hstart), ih rest]
          constructor
          · rintro ⟨ms, hms, hall⟩
            exact ⟨_, ⟨ms, hms, rfl⟩, List.forall_mem_cons.mpr ⟨hstart, hall⟩⟩
          · rintro ⟨_, ⟨ms, hms, rfl⟩, hall⟩
            exact ⟨ms, hms, (List.forall_mem_cons.mp hall).2⟩
        · rw [if_pos hstart]
          constructor
          · intro h
            cases h
          · rintro ⟨_, ⟨ms, -, rfl⟩, hall⟩
            exact absurd (List.forall_mem_cons.mp hall).1 hstart

theorem checkOwnershipText_eq_ok (proc : ℤ → Option (List Char)) (text : List Char) :
    checkOwnershipText proc text = .ok () ↔ ∃ ms, markers text = some ms ∧
      ∀ m ∈ ms, processStartTime proc (m.1.bmod (2 ^ 32)) = some m.2 :=
  checkOwnershipFrom_eq_ok proc text.length text

theorem scanMarker_eq_some {cursor rest : List Char} {pid : ℤ} {expected : ℕ}
    (h : scanMarker cursor = some ((pid, expected), rest)) :
    ∃ tunName, sscanf ownerFormat cursor =
        some ([.long pid, .ulonglong expected, .text tunName], rest) ∧
      1 ≤ pid ∧ 1 ≤ expected ∧ validName (String.ofList tunName) 15 false = true := by
  unfold scanMarker at h
  split at h
  · rename_i pid' expected' tunName rest' hscan
    split at h
    · cases h
    · rename_i hok
      cases h
      simp only [not_or, Bool.not_eq_true', Bool.not_eq_false, Int.not_lt, Nat.not_lt] at hok
      exact ⟨tunName, hscan, hok.1, hok.2.1, hok.2.2⟩
  · cases h

theorem scanMarker_length_lt {cursor rest : List Char} {m : ℤ × ℕ}
    (h : scanMarker cursor = some (m, rest)) : rest.length < cursor.length := by
  obtain ⟨tunName, hscan, -⟩ := scanMarker_eq_some h
  exact sscanf_length_lt hscan

theorem markersFrom_congr {fuel fuel' : ℕ} {text : List Char} (h : text.length ≤ fuel)
    (h' : text.length ≤ fuel') : markersFrom fuel text = markersFrom fuel' text := by
  have hnil : ∀ n, markersFrom n [] = some [] := by
    intro n
    cases n with
    | zero => rfl
    | succ n => rfl
  induction fuel generalizing fuel' text with
  | zero =>
    rw [List.eq_nil_of_length_eq_zero (Nat.le_zero.mp h), hnil, hnil]
  | succ fuel ih =>
    cases fuel' with
    | zero => rw [List.eq_nil_of_length_eq_zero (Nat.le_zero.mp h'), hnil, hnil]
    | succ fuel' =>
      rw [markersFrom, markersFrom]
      cases hfind : strstr ownerTag text with
      | none => rfl
      | some cursor =>
        cases hscan : scanMarker cursor with
        | none => simp only [hscan]
        | some r =>
          obtain ⟨m, rest⟩ := r
          have hle := (suffix_of_strstr hfind).length_le
          have hlt := scanMarker_length_lt hscan
          have hrest : markersFrom fuel rest = markersFrom fuel' rest := ih (by omega) (by omega)
          simp only [hscan, hrest]

theorem markers_eq (text : List Char) : markers text =
    match strstr ownerTag text with
    | none => some []
    | some cursor =>
      match scanMarker cursor with
      | none => none
      | some (m, rest) => (markers rest).map (m :: ·) := by
  rw [markers, markersFrom_congr (Nat.le_refl _) (Nat.le_succ _), markersFrom]
  cases hfind : strstr ownerTag text with
  | none => rfl
  | some cursor =>
    cases hscan : scanMarker cursor with
    | none => simp only [hscan]
    | some r =>
      obtain ⟨m, rest⟩ := r
      have hle := (suffix_of_strstr hfind).length_le
      have hlt := scanMarker_length_lt hscan
      simp only [hscan]
      rw [markers, markersFrom_congr (by omega) (Nat.le_refl _)]

theorem markers_range {text : List Char} {ms : List (ℤ × ℕ)} (h : markers text = some ms) :
    ∀ m ∈ ms, 1 ≤ m.2 ∧ m.2 < 2 ^ 64 := by
  induction hn : text.length using Nat.strongRecOn generalizing text ms with
  | ind n ih =>
    rw [markers_eq] at h
    cases hfind : strstr ownerTag text with
    | none =>
      rw [hfind] at h
      cases h
      exact List.forall_mem_nil _
    | some cursor =>
      rw [hfind] at h
      cases hscan : scanMarker cursor with
      | none =>
        simp only [hscan] at h
        cases h
      | some r =>
        obtain ⟨⟨pid, expected⟩, rest⟩ := r
        simp only [hscan] at h
        obtain ⟨more, hmore, rfl⟩ := Option.map_eq_some_iff.mp h
        have hle := (suffix_of_strstr hfind).length_le
        have hlt := scanMarker_length_lt hscan
        obtain ⟨tunName, hvalues, -, hpos, -⟩ := scanMarker_eq_some hscan
        refine List.forall_mem_cons.mpr ⟨⟨hpos, sscanf_ulonglong_lt hvalues (by simp)⟩, ?_⟩
        exact ih rest.length (by omega) hmore rfl

theorem markers_untagged {text : List Char} (h : ¬ ownerTag <:+: text) :
    markers text = some [] := by
  rw [markers_eq, strstr_eq_none h]

theorem markers_eq_nil {text : List Char} (h : markers text = some []) : ¬ ownerTag <:+: text := by
  rw [markers_eq] at h
  cases hfind : strstr ownerTag text with
  | none => exact not_infix_of_strstr hfind
  | some cursor =>
    rw [hfind] at h
    simp only at h
    split at h
    · cases h
    · obtain ⟨ms, -, heq⟩ := Option.map_eq_some_iff.mp h
      cases heq

theorem markers_quote (text rest : List Char) :
    markers (text ++ '"' :: rest) =
      (markers text).bind fun ms => (markers rest).map (ms ++ ·) := by
  induction hn : text.length using Nat.strongRecOn generalizing text with
  | ind n ih =>
    rw [markers_eq text, markers_eq (text ++ '"' :: rest)]
    cases hfind : strstr ownerTag text with
    | none =>
      rw [strstr_append_cons (by decide) (not_infix_of_strstr hfind), ← markers_eq]
      simp
    | some cursor =>
      rw [strstr_append_of_eq_some hfind]
      simp only [scanMarker_quote]
      cases hscan : scanMarker cursor with
      | none => simp
      | some r =>
        obtain ⟨m, left⟩ := r
        have hle := (suffix_of_strstr hfind).length_le
        have hlt := scanMarker_length_lt hscan
        simp only [Option.map_some]
        rw [ih left.length (by omega) left rfl]
        cases markers left with
        | none => rfl
        | some ms =>
          cases markers rest with
          | none => rfl
          | some more => rfl

theorem checkOwnershipText_quote (proc : ℤ → Option (List Char)) (text rest : List Char) :
    checkOwnershipText proc (text ++ '"' :: rest) = .ok () ↔
      checkOwnershipText proc text = .ok () ∧ checkOwnershipText proc rest = .ok () := by
  rw [checkOwnershipText_eq_ok, checkOwnershipText_eq_ok, checkOwnershipText_eq_ok, markers_quote]
  constructor
  · rintro ⟨_, hms, hall⟩
    obtain ⟨ms, hfirst, hmore⟩ := Option.bind_eq_some_iff.mp hms
    obtain ⟨more, hrest, rfl⟩ := Option.map_eq_some_iff.mp hmore
    obtain ⟨hleft, hright⟩ := List.forall_mem_append.mp hall
    exact ⟨⟨ms, hfirst, hleft⟩, ⟨more, hrest, hright⟩⟩
  · rintro ⟨⟨ms, hfirst, hleft⟩, ⟨more, hrest, hright⟩⟩
    refine ⟨ms ++ more, ?_, List.forall_mem_append.mpr ⟨hleft, hright⟩⟩
    rw [hfirst, Option.bind_some, hrest, Option.map_some]

theorem checkOwnershipText_untagged (proc : ℤ → Option (List Char)) {text : List Char}
    (h : ¬ ownerTag <:+: text) : checkOwnershipText proc text = .ok () :=
  (checkOwnershipText_eq_ok proc text).mpr ⟨[], markers_untagged h, List.forall_mem_nil _⟩

theorem nil_untagged : ¬ ownerTag <:+: [] := not_infix_of_strstr (by decide)

/-- What a native instance writes into a marker: its pid, its start time and its TUN name. -/
structure Owner where
  pid : ℕ
  start : ℕ
  tun : String
  pid_pos : 0 < pid
  pid_lt : pid < 2 ^ 31
  start_pos : 0 < start
  start_lt : start < 2 ^ 64
  named : validName tun 15 false = true

theorem marker_toList (pid start : ℕ) (tun : String) : (marker pid start tun).toList =
    "tcpcc.owner.v1 pid=".toList ++ (Nat.toDigits 10 pid ++ (" start=".toList ++
      (Nat.toDigits 10 start ++ (" tun=".toList ++ tun.toList)))) := by
  unfold marker
  -- the texts are never looked into here
  generalize "tcpcc.owner.v1 pid=" = first
  generalize " start=" = second
  generalize " tun=" = third
  rw [String.toList_append, String.toList_append, toList_append_toString, String.toList_append,
    toList_append_toString, List.append_assoc, List.append_assoc, List.append_assoc,
    List.append_assoc]

theorem marker_words (pid start : ℕ) (tun : String) : (marker pid start tun).toList =
    ownerTag ++ ' ' :: ("pid=".toList ++ (Nat.toDigits 10 pid ++
      ' ' :: ("start=".toList ++
        (Nat.toDigits 10 start ++ ' ' :: ("tun=".toList ++ tun.toList))))) := by
  have hpid : "tcpcc.owner.v1 pid=".toList = ownerTag ++ ' ' :: "pid=".toList := by decide +kernel
  have hstart : " start=".toList = ' ' :: "start=".toList := by decide +kernel
  have htun : " tun=".toList = ' ' :: "tun=".toList := by decide +kernel
  rw [marker_toList, hpid, hstart, htun, List.append_assoc, List.cons_append, List.cons_append,
    List.cons_append]

theorem sscanf_marker {pid start : ℕ} {tun : String} (hpid : pid < 2 ^ 63) (hstart : start < 2 ^ 64)
    (hne : tun.toList ≠ []) (hlength : tun.toList.length ≤ 15)
    (hchars : ∀ c ∈ tun.toList, isTunChar c = true) (rest : List Char) :
    sscanf ownerFormat ((marker pid start tun).toList ++ '"' :: rest) =
      some ([.long pid, .ulonglong start, .text tun.toList], '"' :: rest) := by
  have hblanked : ∀ t : List Char, (' ' :: t).takeWhile Char.isDigit = [] := fun _ => rfl
  have htun := convert_append_cons (c := '"') (d := .set isTunChar 15) (by decide) tun.toList rest
  rw [convert_set hne hchars hlength, Option.map_some, List.nil_append] at htun
  have hblank : ∀ w t : List Char, (w.head?.any isSpace) = false → w ≠ [] →
      convert .blank (' ' :: (w ++ t)) = some ([], w ++ t) := by
    intro w t hw hwne
    obtain ⟨c, w, rfl⟩ := List.exists_cons_of_ne_nil hwne
    have hc : isSpace c = false := by simpa using hw
    simp [convert, hc, show isSpace ' ' = true from rfl]
  rw [marker_words, ownerFormat]
  simp only [List.append_assoc, List.cons_append]
  rw [sscanf_word, sscanf_cons (hblank _ _ (by decide) (by decide)), sscanf_word,
    sscanf_cons (convert_long hpid (hblanked _)),
    sscanf_cons (hblank _ _ (by decide) (by decide)), sscanf_word,
    sscanf_cons (convert_ulonglong hstart (hblanked _)),
    sscanf_cons (hblank _ _ (by decide) (by decide)), sscanf_word, sscanf_cons htun]
  rfl

theorem scanMarker_marker {pid start : ℕ} {tun : String} (hpid : 0 < pid) (hpidLt : pid < 2 ^ 63)
    (hstart : 0 < start) (hstartLt : start < 2 ^ 64) (hne : tun.toList ≠ [])
    (hlength : tun.toList.length ≤ 15) (hchars : ∀ c ∈ tun.toList, isTunChar c = true)
    (rest : List Char) :
    scanMarker ((marker pid start tun).toList ++ '"' :: rest) =
      if validName tun 15 false then some (((pid : ℤ), start), '"' :: rest) else none := by
  rw [scanMarker, sscanf_marker hpidLt hstartLt hne hlength hchars rest]
  simp only [String.ofList_toList]
  cases validName tun 15 false with
  | true =>
    have hok : ¬ ((pid : ℤ) < 1 ∨ start < 1 ∨ (!true) = true) := by
      simp only [Bool.not_true, Bool.false_eq_true, or_false]
      omega
    rw [if_neg hok, if_pos rfl]
  | false => simp

namespace Owner
variable (o : Owner)

def comment : List Char := (marker o.pid o.start o.tun).toList

theorem tun_chars : o.tun.toList ≠ [] ∧ o.tun.toList.length ≤ 15 ∧
    ∀ c ∈ o.tun.toList, isTunChar c = true := by
  have hnamed := o.named
  simp only [validName, Bool.and_eq_true, bne_iff_ne, ne_eq, decide_eq_true_eq, List.all_eq_true,
    Bool.not_false, Bool.true_and] at hnamed
  obtain ⟨⟨⟨⟨hne, hle⟩, hall⟩, -⟩, -⟩ := hnamed
  refine ⟨fun hnil => hne ?_, ?_, fun c hc => ?_⟩
  · rw [← String.length_toList, hnil, List.length_nil]
  · rw [String.length_toList]
    exact hle
  · have hc := hall c hc
    simp only [isTunChar, Bool.or_eq_true] at hc ⊢
    tauto

theorem scanMarker_comment (rest : List Char) :
    scanMarker (o.comment ++ '"' :: rest) = some (((o.pid : ℤ), o.start), '"' :: rest) := by
  obtain ⟨hne, hlength, hchars⟩ := o.tun_chars
  rw [comment, scanMarker_marker o.pid_pos (o.pid_lt.trans (by decide)) o.start_pos o.start_lt hne
    hlength hchars, if_pos o.named]

theorem tag_comment : ownerTag <+: o.comment := by
  rw [comment, marker_words]
  exact List.prefix_append _ _

end Owner

theorem markers_misnamed {pid start : ℕ} {tun : String} (hpid : 0 < pid) (hpidLt : pid < 2 ^ 63)
    (hstart : 0 < start) (hstartLt : start < 2 ^ 64) (hne : tun.toList ≠ [])
    (hlength : tun.toList.length ≤ 15) (hchars : ∀ c ∈ tun.toList, isTunChar c = true)
    (h : validName tun 15 false = false) : markers (marker pid start tun).toList = none := by
  have hscan := scanMarker_marker hpid hpidLt hstart hstartLt hne hlength hchars []
  rw [scanMarker_quote, h, if_neg (by decide), Option.map_eq_none_iff] at hscan
  rw [marker_words] at hscan ⊢
  have hfind := strstr_append (c := 't') (show 't' ∉ "cpcc.owner.v1".toList by decide)
    (show ¬ 't' :: "cpcc.owner.v1".toList <:+: [] from nil_untagged)
    (' ' :: ("pid=".toList ++ (Nat.toDigits 10 pid ++
      ' ' :: ("start=".toList ++ (Nat.toDigits 10 start ++ ' ' :: ("tun=".toList ++ tun.toList))))))
  rw [List.nil_append, show 't' :: "cpcc.owner.v1".toList = ownerTag from rfl] at hfind
  rw [markers_eq, hfind]
  simp only [hscan]

/-- A text with the markers of these owners, each in quotes, and other text around them. -/
def listing (first : List Char) (entries : List (Owner × List Char)) : List Char :=
  first ++ entries.flatMap fun e => e.1.comment ++ '"' :: e.2

theorem Owner.markers_comment (o : Owner) {first : List Char} (hfirst : ¬ ownerTag <:+: first)
    (rest : List Char) : markers (first ++ (o.comment ++ '"' :: rest)) =
      (markers rest).map (((o.pid : ℤ), o.start) :: ·) := by
  have hscan := o.scanMarker_comment rest
  obtain ⟨tail, htail⟩ := o.tag_comment
  have hquote : markers ('"' :: rest) = markers rest := by
    have hsplit := markers_quote [] rest
    rw [List.nil_append, markers_untagged nil_untagged] at hsplit
    rw [hsplit]
    simp
  rw [← htail, List.append_assoc] at hscan ⊢
  have hfind : strstr ownerTag (first ++ (ownerTag ++ (tail ++ '"' :: rest))) =
      some (ownerTag ++ (tail ++ '"' :: rest)) :=
    strstr_append (c := 't') (show 't' ∉ "cpcc.owner.v1".toList by decide) hfirst _
  rw [markers_eq, hfind]
  simp only [hscan, hquote]

theorem Owner.answered (o : Owner) (table : ProcessTable) :
    processStartTime table.file ((o.pid : ℤ).bmod (2 ^ 32)) = some o.start ↔
      table.Alive o.pid o.start := by
  have hlt := o.pid_lt
  have hbmod : (o.pid : ℤ).bmod (2 ^ 32) = o.pid := Int.bmod_eq_of_le (by omega) (by omega)
  rw [hbmod, processStartTime_eq_some table o.pid_pos o.start_pos]

theorem markers_listing {entries : List (Owner × List Char)}
    (hentries : ∀ e ∈ entries, ¬ ownerTag <:+: e.2) {first : List Char}
    (hfirst : ¬ ownerTag <:+: first) :
    markers (listing first entries) = some (entries.map fun e => ((e.1.pid : ℤ), e.1.start)) := by
  induction entries generalizing first with
  | nil =>
    rw [listing, List.flatMap_nil, List.append_nil, markers_untagged hfirst]
    rfl
  | cons e entries ih =>
    obtain ⟨he, hrest⟩ := List.forall_mem_cons.mp hentries
    have hshape : listing first (e :: entries) =
        first ++ (e.1.comment ++ '"' :: listing e.2 entries) := by
      simp [listing]
    rw [hshape, e.1.markers_comment hfirst, ih hrest he, Option.map_some, List.map_cons]

/-- The rules are accepted exactly if every marker in them belongs to a process that is there. -/
theorem checkOwnershipText_listing (table : ProcessTable) {first : List Char}
    {entries : List (Owner × List Char)} (hfirst : ¬ ownerTag <:+: first)
    (hentries : ∀ e ∈ entries, ¬ ownerTag <:+: e.2) :
    checkOwnershipText table.file (listing first entries) = .ok () ↔
      ∀ e ∈ entries, table.Alive e.1.pid e.1.start := by
  rw [checkOwnershipText_eq_ok, markers_listing hentries hfirst]
  simp only [Option.some.injEq, exists_eq_left', List.forall_mem_map, Owner.answered]

def sampleStat : ProcessStat :=
  { ProcessStat.bare 700 (by decide) with
    comm := "a) 1 (b".toList
    named := by decide +kernel }

def sampleTable : ProcessTable where
  entry pid := if pid = 42 then some sampleStat else none
  pids := by
    intro pid p h
    rw [Option.ite_none_right_eq_some] at h
    obtain ⟨rfl, -⟩ := h
    decide
  fits := by
    intro pid p h
    rw [Option.ite_none_right_eq_some, Option.some.injEq] at h
    obtain ⟨rfl, rfl⟩ := h
    decide +kernel

def sampleOwner : Owner where
  pid := 42
  start := 700
  tun := "tcpcc0"
  pid_pos := by decide
  pid_lt := by decide
  start_pos := by decide
  start_lt := by decide
  named := by decide +kernel

theorem listing_two_routes :
    checkOwnershipText sampleTable.file (listing "table ip a comment \"".toList
      [(sampleOwner, "\ntable ip b comment \"".toList), (sampleOwner, ['\n'])]) = .ok () := by
  refine (checkOwnershipText_listing sampleTable (not_infix_of_strstr ?_) ?_).mpr ?_
  · decide +kernel
  · intro e he
    rw [List.mem_cons, List.mem_singleton] at he
    rcases he with rfl | rfl
    · exact not_infix_of_strstr (by decide +kernel)
    · exact not_infix_of_strstr (by decide +kernel)
  · intro e he
    rw [List.mem_cons, List.mem_singleton] at he
    rcases he with rfl | rfl <;> exact ⟨sampleStat, rfl, rfl⟩

end Tcpcc.Native

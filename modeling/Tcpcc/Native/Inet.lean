import Tcpcc.Native.Config

/-!
# Addresses as texts

What `inet_pton` and `inet_ntop` promise: the size of an address, that an address can be read back
from its text, and the characters of the text.
-/

namespace Tcpcc.Native

def addressLength (version : ℕ) : ℕ := if version = 4 then 4 else 16

structure Inet.Lawful (inet : Inet) : Prop where
  size : ∀ {version text packed}, inet.pton version text = some packed →
    packed.length = addressLength version
  ntop_pton : ∀ {version packed}, version = 4 ∨ version = 6 →
    packed.length = addressLength version →
    inet.pton version (inet.ntop version packed) = some packed
  plain : ∀ {version packed}, ∀ c ∈ (inet.ntop version packed).toList,
    c.isAlphanum = true ∨ c = '.' ∨ version = 6 ∧ c = ':'

/-! Dotted decimal numbers for both versions. -/

def dottedByte (digits : List Char) : Option UInt8 :=
  let n := Nat.ofDigitChars 10 digits 0
  if n < 256 ∧ digits = Nat.toDigits 10 n then some (UInt8.ofNat n) else none

def dottedInet : Inet where
  pton version text :=
    ((text.toList.splitOn '.').mapM dottedByte).bind fun packed =>
      if packed.length = addressLength version then some packed else none
  ntop _ packed :=
    String.ofList (['.'].intercalate (packed.map fun b => Nat.toDigits 10 b.toNat))

theorem dottedByte_toDigits (b : UInt8) : dottedByte (Nat.toDigits 10 b.toNat) = some b := by
  have hvalue := Nat.ofDigitChars_toDigits (b := 10) (n := b.toNat) (by decide) (by decide)
  have hlt : b.toNat < 256 := b.toNat_lt
  simp [dottedByte, hvalue, hlt]

theorem dottedBytes (packed : List UInt8) :
    (packed.map fun b => Nat.toDigits 10 b.toNat).mapM dottedByte = some packed := by
  induction packed with
  | nil => rfl
  | cons b packed ih => simp [dottedByte_toDigits, ih]

theorem dot_not_mem_toDigits (n : ℕ) : '.' ∉ Nat.toDigits 10 n := by
  intro h
  have := Nat.isDigit_of_mem_toDigits (by decide) (by decide) h
  exact absurd this (by decide)

theorem mem_dotted {parts : List (List Char)} {c : Char} (h : c ∈ ['.'].intercalate parts) :
    c = '.' ∨ ∃ l ∈ parts, c ∈ l := by
  obtain ⟨l, hl, hc⟩ := List.mem_flatten.mp h
  induction parts with
  | nil => cases hl
  | cons part parts ih =>
    cases parts with
    | nil =>
      obtain rfl := List.mem_singleton.mp hl
      exact .inr ⟨l, List.mem_cons_self, hc⟩
    | cons next parts =>
      rw [List.intersperse_cons_cons, List.mem_cons, List.mem_cons] at hl
      rcases hl with rfl | rfl | hl
      · exact .inr ⟨l, List.mem_cons_self, hc⟩
      · exact .inl (List.mem_singleton.mp hc)
      · rcases ih (List.mem_flatten_of_mem hl hc) hl with hdot | ⟨l', hl', hc'⟩
        · exact .inl hdot
        · exact .inr ⟨l', List.mem_cons_of_mem _ hl', hc'⟩

theorem dottedInet_lawful : dottedInet.Lawful where
  size := by
    intro version text packed h
    obtain ⟨bytes, -, hsize⟩ := Option.bind_eq_some_iff.mp h
    obtain ⟨hlength, ⟨⟩⟩ := Option.ite_none_right_eq_some.mp hsize
    exact hlength
  ntop_pton := by
    intro version packed hversion hlength
    have hnonempty : (packed.map fun b => Nat.toDigits 10 b.toNat) ≠ [] := by
      intro h
      rw [List.map_eq_nil_iff] at h
      subst h
      rcases hversion with rfl | rfl <;> cases hlength
    have hplain : ∀ l ∈ packed.map (fun b => Nat.toDigits 10 b.toNat), '.' ∉ l := by
      intro l hl
      obtain ⟨b, -, rfl⟩ := List.mem_map.mp hl
      exact dot_not_mem_toDigits _
    simp only [dottedInet, String.toList_ofList]
    rw [List.splitOn_intercalate _ hplain hnonempty, dottedBytes, Option.bind_some, if_pos hlength]
  plain := by
    intro version packed c hc
    simp only [dottedInet, String.toList_ofList] at hc
    rcases mem_dotted hc with hdot | ⟨l, hl, hc⟩
    · exact .inr (.inl hdot)
    · obtain ⟨b, -, rfl⟩ := List.mem_map.mp hl
      have hdigit := Nat.isDigit_of_mem_toDigits (by decide) (by decide) hc
      exact .inl (by simp [Char.isAlphanum, hdigit])

end Tcpcc.Native

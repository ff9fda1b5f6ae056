import Mathlib.Data.List.TakeWhile
import Tcpcc.Native.Config

/-!
# Numbers and endpoints that were printed

The decimal digits of a number are read back by the parsers of the configuration, alone and
behind an address.
-/

namespace Tcpcc.Native

theorem toList_append_toString (text : String) (n : ℕ) :
    (text ++ toString n).toList = text.toList ++ Nat.toDigits 10 n := by
  rw [String.toList_append, Nat.toString_eq_repr, Nat.toList_repr]

theorem isDigit_eq (c : Char) : isDigit c = c.isDigit := by
  simp [isDigit, Char.isDigit, Char.le_def]

theorem isDigit_of_mem {n : ℕ} {c : Char} (h : c ∈ Nat.toDigits 10 n) : isDigit c = true := by
  rw [isDigit_eq]
  exact Nat.isDigit_of_mem_toDigits (by decide) (by decide) h

theorem not_mem_toDigits {n : ℕ} {c : Char} (h : isDigit c = false) : c ∉ Nat.toDigits 10 n := by
  intro hc
  exact absurd (isDigit_of_mem hc) (by simp [h])

theorem decimal_toDigits (n : ℕ) : decimal (Nat.toDigits 10 n) = n :=
  Nat.ofDigitChars_toDigits (by decide) (by decide)

theorem takeWhile_toDigits (n : ℕ) : (Nat.toDigits 10 n).takeWhile isDigit = Nat.toDigits 10 n :=
  List.takeWhile_eq_self_iff.mpr fun _ => isDigit_of_mem

theorem dropWhile_toDigits (n : ℕ) : (Nat.toDigits 10 n).dropWhile isDigit = [] :=
  List.dropWhile_eq_nil_iff.mpr fun _ => isDigit_of_mem

theorem parseUnsigned_toDigits {n maximum : ℕ} (hn : n ≤ maximum) (hmax : maximum ≤ ulongMax) :
    parseUnsigned (String.ofList (Nat.toDigits 10 n)) maximum = some n := by
  have htoul : strtoul (Nat.toDigits 10 n) = (some n, []) := by
    simp only [strtoul, takeWhile_toDigits, dropWhile_toDigits, decimal_toDigits,
      if_pos (hn.trans hmax)]
  unfold parseUnsigned
  rw [String.toList_ofList]
  rcases hdigits : Nat.toDigits 10 n with _ | ⟨c, cs⟩
  · exact absurd hdigits Nat.toDigits_ne_nil
  · have hc : isDigit c = true := isDigit_of_mem (hdigits ▸ List.mem_cons_self)
    rw [hdigits] at htoul
    simp only [hc, if_true, htoul, if_pos hn]

/-! ## Endpoints -/

variable {address port : List Char}

theorem splitEndpoint_v4 (hbracket : address.head? ≠ some '[') (haddress : ':' ∉ address)
    (hport : ':' ∉ port) :
    splitEndpoint (address ++ ':' :: port) = some (4, address, port) := by
  have hall : ∀ c ∈ address, (c != ':') = true := by
    intro c hc
    exact bne_iff_ne.mpr fun heq => haddress (heq ▸ hc)
  have hdrop : (address ++ ':' :: port).dropWhile (· != ':') = ':' :: port := by
    rw [List.dropWhile_append_of_pos hall]
    rfl
  have htake : (address ++ ':' :: port).takeWhile (· != ':') = address := by
    rw [List.takeWhile_append_of_pos hall]
    simp
  have hhead : (address ++ ':' :: port).head? ≠ some '[' := by
    cases address with
    | nil => simp
    | cons c cs => simpa using hbracket
  unfold splitEndpoint
  split
  case h_1 body heq =>
    rw [heq] at hhead
    exact absurd rfl hhead
  · rw [hdrop, htake]
    simp [hport]

theorem splitEndpoint_v6 {c : Char} (haddress : ']' ∉ address) :
    splitEndpoint ('[' :: (address ++ ']' :: ':' :: c :: port)) = some (6, address, c :: port) := by
  have hall : ∀ c ∈ address, (c != ']') = true := by
    intro c hc
    exact bne_iff_ne.mpr fun heq => haddress (heq ▸ hc)
  have hdrop : (address ++ ']' :: ':' :: c :: port).dropWhile (· != ']') =
      ']' :: ':' :: c :: port := by
    rw [List.dropWhile_append_of_pos hall]
    rfl
  have htake : (address ++ ']' :: ':' :: c :: port).takeWhile (· != ']') = address := by
    rw [List.takeWhile_append_of_pos hall]
    simp
  simp only [splitEndpoint, hdrop, htake]

end Tcpcc.Native

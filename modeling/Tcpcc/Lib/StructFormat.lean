import Mathlib.Algebra.Order.Ring.Int
import Tcpcc.Lib.Records

/-!
# Records in two notations

A record of fixed size is written down twice: as the members of a C structure, which the compiler
aligns, and as a format of Python's `struct` module in its standard little-endian mode, which does
not align. Both are lists of members with an offset and a kind. What is packed by a format is read
back member by member at these offsets.
-/

namespace StructFormat
open Records

inductive Kind
  | unsigned (width : ℕ)
  | signed (width : ℕ)
  | bytes (length : ℕ)
  deriving DecidableEq, Repr

inductive Value
  | number (n : ℤ)
  | bytes (b : List UInt8)
  deriving DecidableEq, Repr

structure Member where
  offset : ℕ
  kind : Kind
  deriving DecidableEq, Repr

namespace Kind

def size : Kind → ℕ
  | unsigned width => width
  | signed width => width
  | bytes length => length

def align : Kind → ℕ
  | unsigned width => width
  | signed width => width
  | bytes _ => 1

end Kind

def toSigned (width n : ℕ) : ℤ := if 2 * n < 256 ^ width then n else (n : ℤ) - (256 ^ width : ℕ)

def ofSigned (width : ℕ) (n : ℤ) : ℕ := (n % (256 ^ width : ℕ)).toNat

def Kind.load : Kind → List UInt8 → Value
  | .unsigned _, b => .number (decodeLittle b)
  | .signed width, b => .number (toSigned width (decodeLittle b))
  | .bytes _, b => .bytes b

def Member.read (record : List UInt8) (m : Member) : Value :=
  m.kind.load ((record.drop m.offset).take m.kind.size)

/-! ## C structures -/

def alignUp (offset align : ℕ) : ℕ := (offset + align - 1) / align * align

def layoutFrom : ℕ → List Kind → List Member
  | _, [] => []
  | offset, k :: ks =>
    ⟨alignUp offset k.align, k⟩ :: layoutFrom (alignUp offset k.align + k.size) ks

def layout (kinds : List Kind) : List Member := layoutFrom 0 kinds

def endFrom : ℕ → List Kind → ℕ
  | offset, [] => offset
  | offset, k :: ks => endFrom (alignUp offset k.align + k.size) ks

def structSize (kinds : List Kind) : ℕ :=
  alignUp (endFrom 0 kinds) ((kinds.map Kind.align).foldl max 1)

def view (kinds : List Kind) (record : List UInt8) : List Value :=
  (layout kinds).map (Member.read record)

structure Image (kinds : List Kind) (values : List Value) (record : List UInt8) : Prop where
  length : record.length = structSize kinds
  members : view kinds record = values

/-- The bytes of a structure without gaps, its numbers cut to their members. -/
def store (members : List (Kind × ℕ)) : List UInt8 :=
  members.flatMap fun m => encodeLittle m.1.size m.2

/-! ## Formats -/

inductive Code
  | item (kind : Kind)
  | pad (length : ℕ)
  deriving DecidableEq, Repr

def Code.kind : Code → Kind
  | item kind => kind
  | pad length => .bytes length

def repeated (count : ℕ) : Char → Option (List Code)
  | 'x' => some [.pad count]
  | 's' => some [.item (.bytes count)]
  | 'b' => some (List.replicate count (.item (.signed 1)))
  | 'B' => some (List.replicate count (.item (.unsigned 1)))
  | 'h' => some (List.replicate count (.item (.signed 2)))
  | 'H' => some (List.replicate count (.item (.unsigned 2)))
  | 'i' => some (List.replicate count (.item (.signed 4)))
  | 'I' => some (List.replicate count (.item (.unsigned 4)))
  | 'q' => some (List.replicate count (.item (.signed 8)))
  | 'Q' => some (List.replicate count (.item (.unsigned 8)))
  | _ => none

def codesFrom (count : Option ℕ) : List Char → Option (List Code)
  | [] => if count.isSome then none else some []
  | c :: cs =>
    if c.isDigit then codesFrom (some (count.getD 0 * 10 + (c.toNat - '0'.toNat))) cs
    else
      match repeated (count.getD 1) c, codesFrom none cs with
      | some first, some rest => some (first ++ rest)
      | _, _ => none

def codes : List Char → Option (List Code)
  | '<' :: cs => codesFrom none cs
  | _ => none

def calcsize (format : List Code) : ℕ := (format.map fun c => c.kind.size).sum

def Kind.store : Kind → Value → Option (List UInt8)
  | .unsigned width, .number n =>
    if 0 ≤ n ∧ n < (256 ^ width : ℕ) then some (encodeLittle width n.toNat) else none
  | .signed width, .number n =>
    if -(256 ^ width : ℕ) ≤ 2 * n ∧ 2 * n < (256 ^ width : ℕ) then
      some (encodeLittle width (ofSigned width n))
    else none
  | .bytes length, .bytes b => some ((b ++ List.replicate length 0).take length)
  | _, _ => none

def pack : List Code → List Value → Option (List UInt8)
  | [], [] => some []
  | .pad length :: format, values =>
    (pack format values).map fun rest => List.replicate length 0 ++ rest
  | .item kind :: format, v :: values =>
    match kind.store v, pack format values with
    | some b, some rest => some (b ++ rest)
    | _, _ => none
  | _, _ => none

def Kind.Holds : Kind → Value → Prop
  | .unsigned width, .number n => 0 ≤ n ∧ n < (256 ^ width : ℕ)
  | .signed width, .number n => -(256 ^ width : ℕ) ≤ 2 * n ∧ 2 * n < (256 ^ width : ℕ)
  | .bytes _, .bytes _ => True
  | _, _ => False

def Fits : List Code → List Value → Prop
  | [], [] => True
  | .pad _ :: format, values => Fits format values
  | .item kind :: format, v :: values => kind.Holds v ∧ Fits format values
  | _, _ => False

def unpackFrom : List Code → List UInt8 → List Value
  | [], _ => []
  | .pad length :: format, b => unpackFrom format (b.drop length)
  | .item kind :: format, b => kind.load (b.take kind.size) :: unpackFrom format (b.drop kind.size)

def unpack (format : List Code) (record : List UInt8) : Option (List Value) :=
  if record.length = calcsize format then some (unpackFrom format record) else none

def slotsFrom : ℕ → List Code → List Member
  | _, [] => []
  | offset, c :: format => ⟨offset, c.kind⟩ :: slotsFrom (offset + c.kind.size) format

def slots (format : List Code) : List Member := slotsFrom 0 format

def Kind.stored : Kind → Value → Value
  | .bytes length, .bytes b => .bytes ((b ++ List.replicate length 0).take length)
  | _, v => v

def filled : List Code → List Value → List Value
  | .pad length :: format, values =>
    .bytes (List.replicate length 0) :: filled format values
  | .item kind :: format, v :: values => kind.stored v :: filled format values
  | _, _ => []

/-! ## Reading back -/

theorem toSigned_ofSigned {width : ℕ} {n : ℤ} (hlow : -(256 ^ width : ℕ) ≤ 2 * n)
    (hhigh : 2 * n < (256 ^ width : ℕ)) : toSigned width (ofSigned width n) = n := by
  have hpos : (0 : ℤ) < (256 ^ width : ℕ) := Int.natCast_pos.mpr (Nat.pow_pos (by decide))
  unfold toSigned ofSigned
  generalize (256 ^ width : ℕ) = m at *
  rcases lt_or_ge n 0 with hn | hn
  · have hmod : n % (m : ℤ) = n + m := by
      rw [← Int.add_emod_right, Int.emod_eq_of_lt (by omega) (by omega)]
    rw [hmod]
    split <;> omega
  · rw [Int.emod_eq_of_lt hn (by omega)]
    split <;> omega

theorem ofSigned_lt (width : ℕ) (n : ℤ) : ofSigned width n < 256 ^ width := by
  have hpos : (0 : ℤ) < (256 ^ width : ℕ) := Int.natCast_pos.mpr (Nat.pow_pos (by decide))
  have hlt := Int.emod_lt_of_pos n hpos
  unfold ofSigned
  omega

theorem Kind.exists_store {kind : Kind} {v : Value} (h : kind.Holds v) :
    ∃ b, kind.store v = some b := by
  cases kind with
  | unsigned width =>
    cases v with
    | number n => exact ⟨_, if_pos h⟩
    | bytes b => exact h.elim
  | signed width =>
    cases v with
    | number n => exact ⟨_, if_pos h⟩
    | bytes b => exact h.elim
  | bytes length =>
    cases v with
    | number n => exact h.elim
    | bytes b => exact ⟨_, rfl⟩

variable {format : List Code} {values : List Value} {b : List UInt8}

theorem exists_pack (h : Fits format values) : ∃ b, pack format values = some b := by
  induction format generalizing values with
  | nil =>
    cases values with
    | nil => exact ⟨[], rfl⟩
    | cons v values => exact h.elim
  | cons c format ih =>
    cases c with
    | pad length =>
      obtain ⟨rest, hrest⟩ := @ih values h
      exact ⟨_, Option.map_eq_some_iff.mpr ⟨rest, hrest, rfl⟩⟩
    | item kind =>
      cases values with
      | nil => exact h.elim
      | cons v values =>
        obtain ⟨b, hb⟩ := Kind.exists_store h.1
        obtain ⟨rest, hrest⟩ := ih h.2
        exact ⟨b ++ rest, by simp only [pack, hb, hrest]⟩

theorem Kind.store_spec {kind : Kind} {v : Value} (h : kind.store v = some b) :
    b.length = kind.size ∧ kind.load b = kind.stored v := by
  cases kind with
  | unsigned width =>
    cases v with
    | number n =>
      obtain ⟨⟨hlow, hhigh⟩, ⟨⟩⟩ := Option.ite_none_right_eq_some.mp h
      have hmod : n.toNat % 256 ^ width = n.toNat := Nat.mod_eq_of_lt (by omega)
      refine ⟨length_encodeLittle width _, ?_⟩
      rw [Kind.load, decode_encode, hmod, Int.toNat_of_nonneg hlow]
      rfl
    | bytes b => cases h
  | signed width =>
    cases v with
    | number n =>
      obtain ⟨⟨hlow, hhigh⟩, ⟨⟩⟩ := Option.ite_none_right_eq_some.mp h
      refine ⟨length_encodeLittle width _, ?_⟩
      rw [Kind.load, decode_encode, Nat.mod_eq_of_lt (ofSigned_lt width n),
        toSigned_ofSigned hlow hhigh]
      rfl
    | bytes b => cases h
  | bytes length =>
    cases v with
    | number n => cases h
    | bytes b =>
      cases h
      exact ⟨by simp [Kind.size], rfl⟩

theorem read_append {kind : Kind} (before b after : List UInt8) (h : b.length = kind.size) :
    Member.read (before ++ (b ++ after)) ⟨before.length, kind⟩ = kind.load b := by
  rw [Member.read, List.drop_left, ← h, List.take_left]

theorem pack_spec (h : pack format values = some b) :
    b.length = calcsize format ∧ ∀ before : List UInt8,
      (slotsFrom before.length format).map (Member.read (before ++ b)) = filled format values := by
  induction format generalizing values b with
  | nil =>
    cases values with
    | nil =>
      cases h
      exact ⟨rfl, fun _ => rfl⟩
    | cons v values => cases h
  | cons c format ih =>
    cases c with
    | pad length =>
      obtain ⟨rest, hrest, rfl⟩ := Option.map_eq_some_iff.mp h
      have hlength : (List.replicate length (0 : UInt8)).length = (Kind.bytes length).size := by
        simp [Kind.size]
      obtain ⟨hsize, ih⟩ := ih hrest
      refine ⟨by rw [List.length_append, hsize, hlength]; rfl, fun before => ?_⟩
      have ih := ih (before ++ List.replicate length 0)
      rw [List.length_append, hlength, List.append_assoc] at ih
      rw [slotsFrom, List.map_cons]
      exact congrArg₂ _ (read_append before _ rest hlength) ih
    | item kind =>
      cases values with
      | nil => cases h
      | cons v values =>
        rw [pack] at h
        split at h
        case h_2 => cases h
        case h_1 first rest hfirst hrest =>
          cases h
          obtain ⟨hlength, hload⟩ := Kind.store_spec hfirst
          obtain ⟨hsize, ih⟩ := ih hrest
          refine ⟨by rw [List.length_append, hsize, hlength]; rfl, fun before => ?_⟩
          have ih := ih (before ++ first)
          rw [List.length_append, hlength, List.append_assoc] at ih
          rw [slotsFrom, List.map_cons, filled, ← hload]
          exact congrArg₂ _ (read_append before first rest hlength) ih

theorem Image.view_append {kinds : List Kind} (h : Image kinds values b)
    (hmembers : ∀ m ∈ layout kinds, m.offset + m.kind.size ≤ structSize kinds) (rest : List UInt8) :
    view kinds (b ++ rest) = values := by
  rw [← h.members]
  rw [← h.length] at hmembers
  refine List.map_congr_left fun m hm => ?_
  have hle := hmembers m hm
  rw [Member.read, Member.read, List.drop_append_of_le_length (by omega),
    List.take_append_of_le_length (by rw [List.length_drop]; omega)]

theorem image_pack {kinds : List Kind} (hmembers : layout kinds = slots format)
    (hsize : calcsize format = structSize kinds) (h : pack format values = some b) :
    Image kinds (filled format values) b := by
  refine ⟨(pack_spec h).1.trans hsize, ?_⟩
  rw [view, hmembers]
  exact (pack_spec h).2 []

theorem unpackFrom_items (kinds : List Kind) (record : List UInt8) (offset : ℕ) :
    unpackFrom (kinds.map .item) (record.drop offset) =
      (slotsFrom offset (kinds.map .item)).map (Member.read record) := by
  induction kinds generalizing offset with
  | nil => rfl
  | cons kind kinds ih =>
    rw [List.map_cons, unpackFrom, slotsFrom, List.map_cons, List.drop_drop, ih]
    rfl

theorem unpack_eq_view {kinds : List Kind} {record : List UInt8}
    (hmembers : layout kinds = slots (kinds.map .item))
    (hlength : record.length = calcsize (kinds.map .item)) :
    unpack (kinds.map .item) record = some (view kinds record) := by
  have h := unpackFrom_items kinds record 0
  rw [List.drop_zero] at h
  rw [unpack, if_pos hlength, h, view, hmembers]
  rfl

theorem unpack_store (members : List (Kind × ℕ)) :
    unpack (members.map fun m => .item m.1) (store members) =
      some (members.map fun m => m.1.load (encodeLittle m.1.size m.2)) := by
  have hboth : (store members).length = calcsize (members.map fun m => .item m.1) ∧
      unpackFrom (members.map fun m => .item m.1) (store members) =
        members.map fun m => m.1.load (encodeLittle m.1.size m.2) := by
    induction members with
    | nil => exact ⟨rfl, rfl⟩
    | cons m members ih =>
      have hlength := length_encodeLittle m.1.size m.2
      have hcons : store (m :: members) = encodeLittle m.1.size m.2 ++ store members := rfl
      refine ⟨?_, ?_⟩
      · rw [hcons, List.length_append, hlength, ih.1]
        rfl
      · rw [hcons, List.map_cons, List.map_cons, unpackFrom, List.take_left' hlength,
          List.drop_left' hlength, ih.2]
  rw [unpack, if_pos hboth.1, hboth.2]

theorem Kind.store_unsigned {width n : ℕ} (h : n < 256 ^ width) :
    (Kind.unsigned width).store (.number n) = some (encodeLittle width n) :=
  if_pos ⟨Int.natCast_nonneg n, Int.ofNat_lt.mpr h⟩

theorem pack_item {kind : Kind} {v : Value} {rest : List UInt8} (hb : kind.store v = some b)
    (hrest : pack format values = some rest) :
    pack (.item kind :: format) (v :: values) = some (b ++ rest) := by
  simp only [pack, hb, hrest]

end StructFormat

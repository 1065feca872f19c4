import Mathlib.Data.Nat.Digits.Defs
import SceneSchema.Wire.Format

/-!
# The format as a relation between bytes and data

`SceneSchema.Wire.Format` writes values and reads them back. This module says, without a writer or a
reader, *which* bytes write *which* data: `ValueType.Sentence t bytes d` holds if `bytes` is a
sentence of the format of type `t` that denotes `d`, and `Value.SpelledBy` is the same for a value
with its type.

* `IsWord` — a number of fixed width is its digits to base 256, the lowest first.
* `IsVarUInt` — a number of variable width is one to ten groups of seven bits, the lowest first, all
  but the last flagged, of a value below `2 ^ 64`. **Groups of zeros at the end are allowed**, so a
  number has several spellings: this is the only freedom of the format.
* `IsText`, `IsRef`, `IsList`, `IsComponents` — texts, references, lists and groups of components.
* `Record` — values of given types, one after the other.

The values of digits are taken from `Nat.ofDigits`, and the bytes of a text character by character
from `String.utf8EncodeChar`, so neither side of a comparison with the reader is built from the
other. What connects the two is at the end of each section: `isWord_iff`, `utf8Bytes_eq_flatMap` and
the least lengths (`Scalar.Sentence.leastSize_le`, `IsRef.leastSize_le`), below which no sentence of
a kind can be.
-/

namespace SceneSchema

open Wire

namespace Wire

/-! ### Numbers -/

/-- A number of fixed width: `width` bytes, its digits to base 256, the lowest first. -/
def IsWord (width : Nat) (bytes : Bytes) (n : Nat) : Prop :=
  bytes.length = width ∧ Nat.ofDigits 256 (bytes.map UInt8.toNat) = n

/-- Groups of seven bits: the high bit of every byte but the last is set. -/
inductive IsGrouped : Bytes → Prop where
  /-- The last group carries no flag. -/
  | last {b : UInt8} (plain : b.toNat < 128) : IsGrouped [b]
  /-- A flagged group is followed by another. -/
  | more {b : UInt8} {rest : Bytes} (flagged : 128 ≤ b.toNat) (groups : IsGrouped rest) :
      IsGrouped (b :: rest)

/-- The number that groups of seven bits write, the lowest group first. -/
def groupValue (bytes : Bytes) : Nat := Nat.ofDigits 128 (bytes.map fun b => b.toNat % 128)

/-- A number of variable width: at most ten groups, of a value that 64 bits can hold. -/
structure IsVarUInt (bytes : Bytes) (n : Nat) : Prop where
  /-- The bytes are groups, -/
  grouped : IsGrouped bytes
  /-- ten at most, -/
  length_le : bytes.length ≤ 10
  /-- with the number as their value, -/
  value : groupValue bytes = n
  /-- which a word can hold. -/
  lt : n < 2 ^ 64

/-- The two ways to take the value of a word agree. -/
theorem ofLittleEndian_eq_ofDigits (bytes : Bytes) :
    ofLittleEndian bytes = Nat.ofDigits 256 (bytes.map UInt8.toNat) := by
  induction bytes with
  | nil => rfl
  | cons b rest ih => rw [ofLittleEndian, ih, List.map_cons, Nat.ofDigits_cons]

/-- A word is what a reader of fixed-width numbers makes of it. -/
theorem isWord_iff {width n : Nat} {bytes : Bytes} :
    IsWord width bytes n ↔ bytes.length = width ∧ ofLittleEndian bytes = n := by
  rw [IsWord, ofLittleEndian_eq_ofDigits]

/-- One group has the value of its low seven bits. -/
@[simp] theorem groupValue_singleton (b : UInt8) : groupValue [b] = b.toNat % 128 := by
  simp [groupValue]

/-- The first group counts as it is, and the others count 128 times. -/
@[simp] theorem groupValue_cons (b : UInt8) (rest : Bytes) :
    groupValue (b :: rest) = b.toNat % 128 + 128 * groupValue rest := by
  simp [groupValue, Nat.ofDigits_cons]

/-- There is at least one group. -/
theorem IsGrouped.length_pos {bytes : Bytes} (h : IsGrouped bytes) : 0 < bytes.length := by
  cases h with
  | last => exact Nat.one_pos
  | more => exact Nat.succ_pos _

/-- What is left of groups after a flagged one. -/
theorem isGrouped_cons_of_flagged {b : UInt8} {rest : Bytes} (flagged : 128 ≤ b.toNat) :
    IsGrouped (b :: rest) ↔ IsGrouped rest := by
  constructor
  · intro h
    cases h with
    | last plain => omega
    | more _ groups => exact groups
  · intro groups
    exact IsGrouped.more flagged groups

/-- Groups that start with a plain one end with it. -/
theorem isGrouped_cons_of_plain {b : UInt8} {rest : Bytes} (plain : b.toNat < 128) :
    IsGrouped (b :: rest) ↔ rest = [] := by
  constructor
  · intro h
    cases h with
    | last => rfl
    | more flagged => omega
  · intro none
    subst none
    exact IsGrouped.last plain

/-! ### Truth values, texts and lists -/

/-- A truth value: the byte 0 or the byte 1. -/
inductive IsBool : Bytes → Bool → Prop where
  | no : IsBool [0] false
  | yes : IsBool [1] true

/-- A text: the number of its bytes, then its characters in UTF-8. -/
def IsText (bytes : Bytes) (s : String) : Prop :=
  ∃ count body, bytes = count ++ body ∧ IsVarUInt count body.length ∧
    body = s.toList.flatMap String.utf8EncodeChar

/-- Items, one after the other. -/
inductive IsItems {α : Type} (item : Bytes → α → Prop) : Bytes → List α → Prop where
  | nil : IsItems item [] []
  | cons {first rest : Bytes} {a : α} {as : List α} (head : item first a)
      (tail : IsItems item rest as) : IsItems item (first ++ rest) (a :: as)

/-- A list: the number of its elements, then the elements. -/
def IsList {α : Type} (item : Bytes → α → Prop) (bytes : Bytes) (items : List α) : Prop :=
  ∃ count body, bytes = count ++ body ∧ IsVarUInt count items.length ∧ IsItems item body items

/-- A group of components: a word of four bytes for each, in order. -/
def IsComponents {n : Nat} (bytes : Bytes) (x : Floats n) : Prop :=
  IsItems (fun piece c => IsWord 4 piece (Single.bits c).toNat) bytes x.toList

/-- A reference: class name, then object name. -/
def IsRef (bytes : Bytes) (r : ObjectRef) : Prop :=
  ∃ first second, bytes = first ++ second ∧ IsText first r.className ∧ IsText second r.name

/-- The bytes of a text are its characters in UTF-8. -/
theorem utf8Bytes_eq_flatMap (s : String) :
    utf8Bytes s = s.toList.flatMap String.utf8EncodeChar := by
  rw [utf8Bytes, ← String.utf8Encode_toList, List.utf8Encode]
  simp

/-- Bytes spell a text exactly if decoding them gives the text. -/
theorem textOfUtf8?_eq_some_iff {bytes : Bytes} {s : String} :
    textOfUtf8? bytes = some s ↔ bytes = s.toList.flatMap String.utf8EncodeChar := by
  rw [← utf8Bytes_eq_flatMap]
  constructor
  · intro decodes
    exact (utf8Bytes_of_textOfUtf8? decodes).symm
  · intro spells
    rw [spells, textOfUtf8?_utf8Bytes]

/-- A text has at least the group of its length. -/
theorem IsText.length_pos {bytes : Bytes} {s : String} (h : IsText bytes s) :
    0 < bytes.length := by
  obtain ⟨count, body, rfl, number, -⟩ := h
  have := number.grouped.length_pos
  rw [List.length_append]
  omega

/-- Items that take at least so many bytes each take at least that many times their number. -/
theorem IsItems.mul_le_length {α : Type} {item : Bytes → α → Prop} {least : Nat}
    (room : ∀ {bytes a}, item bytes a → least ≤ bytes.length) {bytes : Bytes} {items : List α}
    (h : IsItems item bytes items) : items.length * least ≤ bytes.length := by
  induction h with
  | nil => simp
  | cons head tail ih =>
    have := room head
    rw [List.length_cons, List.length_append, Nat.succ_mul]
    omega

/-- Items that take equally many bytes each take that many times their number. -/
theorem IsItems.length_eq_mul {α : Type} {item : Bytes → α → Prop} {size : Nat}
    (even : ∀ {bytes a}, item bytes a → bytes.length = size) {bytes : Bytes} {items : List α}
    (h : IsItems item bytes items) : bytes.length = items.length * size := by
  induction h with
  | nil => simp
  | cons head tail ih =>
    have := even head
    rw [List.length_cons, List.length_append, Nat.succ_mul]
    omega

end Wire

/-! ### Data of a type -/

/-- The bytes are a sentence for data of one kind. -/
def Scalar.Sentence : (k : Scalar) → Bytes → k.Data → Prop
  | .bool, bytes, b => IsBool bytes b
  | .int, bytes, n => IsWord 4 bytes (Int32.toUInt32 n).toNat
  | .long, bytes, n => IsWord 8 bytes (Int64.toUInt64 n).toNat
  | .float, bytes, x => IsWord 4 bytes (Single.bits x).toNat
  | .double, bytes, x => IsWord 8 bytes (Double.bits x).toNat
  | .string, bytes, s => IsText bytes s
  | .rgb, bytes, x => IsComponents (n := 3) bytes x
  | .rgba, bytes, x => IsComponents (n := 4) bytes x
  | .vec2f, bytes, x => IsComponents (n := 2) bytes x
  | .vec3f, bytes, x => IsComponents (n := 3) bytes x
  | .vec4f, bytes, x => IsComponents (n := 4) bytes x

/-- The bytes are a sentence for data of one type. A reference that may be missing is announced by a
truth value; in a list of references nothing announces them. -/
def ValueType.Sentence : (t : ValueType) → Bytes → t.Data → Prop
  | .scalar k, bytes, d => k.Sentence bytes d
  | .object, bytes, d =>
      match (d : Option ObjectRef) with
      | none => IsBool bytes false
      | some r => ∃ presence body, bytes = presence ++ body ∧ IsBool presence true ∧ IsRef body r
  | .vector k, bytes, d => IsList k.Sentence bytes d
  | .objects, bytes, d => IsList IsRef bytes d

/-- The bytes spell the value, in the format of its type. -/
def Value.SpelledBy (v : Value) (bytes : Bytes) : Prop := v.type.Sentence bytes v.data

/-- The bytes spell values of the given types, one after the other. -/
inductive Record : List ValueType → Bytes → List Value → Prop where
  | nil : Record [] [] []
  | cons {types : List ValueType} {first rest : Bytes} {v : Value} {vs : List Value}
      (head : v.SpelledBy first) (tail : Record types rest vs) :
      Record (v.type :: types) (first ++ rest) (v :: vs)

/-- Components take four bytes each. -/
theorem Wire.IsComponents.length_eq {n : Nat} {bytes : Bytes} {x : Floats n}
    (h : IsComponents bytes x) : bytes.length = 4 * n := by
  have even := IsItems.length_eq_mul (fun word => word.1) h
  rw [even, Vector.length_toList, Nat.mul_comm]

/-- No sentence of a kind is shorter than its least size. -/
theorem Scalar.Sentence.leastSize_le {k : Scalar} {bytes : Bytes} {d : k.Data}
    (h : k.Sentence bytes d) : k.leastSize ≤ bytes.length := by
  cases k with
  | bool => cases h <;> exact Nat.le_refl 1
  | int | long | float | double => exact Nat.le_of_eq h.1.symm
  | string => exact IsText.length_pos h
  | rgb | rgba | vec2f | vec3f | vec4f => exact Nat.le_of_eq (IsComponents.length_eq h).symm

/-- No reference is shorter than its least size: each of its names has a byte count. -/
theorem Wire.IsRef.leastSize_le {bytes : Bytes} {r : ObjectRef} (h : IsRef bytes r) :
    ObjectRef.leastSize ≤ bytes.length := by
  obtain ⟨first, second, rfl, className, name⟩ := h
  have := className.length_pos
  have := name.length_pos
  rw [List.length_append, ObjectRef.leastSize]
  omega

/-- A record of types gives values of these types. -/
theorem Record.types_eq {types : List ValueType} {bytes : Bytes} {vs : List Value}
    (h : Record types bytes vs) : vs.map Value.type = types := by
  induction h with
  | nil => rfl
  | cons _ _ ih => rw [List.map_cons, ih]

end SceneSchema

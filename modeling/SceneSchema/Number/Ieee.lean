/-!
# Floating point numbers as bit patterns

Scene values are stored and copied bit for bit, NaN payloads and the sign of zero included, and
compared by the IEEE rule, under which a NaN differs from itself and the two zeros are equal. Both
facts are about bits, so a number here *is* its bits: `Single` has 32 of them, `Double` 64, and
Lean's equality on them is equality of bit patterns. `Single.same` and `Double.same` are the IEEE
comparison.

For printing, `Binary.read` takes the pattern apart into sign, significand and exponent
(`Binary.Reading`), in one way for both widths. Main statements: `Single.same_iff` and
`Double.same_iff` say exactly which patterns compare equal, and `same_comm` holds of both.
-/

namespace SceneSchema

/-- A 32-bit floating point number, given by its bits. -/
structure Single where
  /-- Sign, eight exponent bits and twenty-three fraction bits, most significant first. -/
  bits : UInt32
  deriving DecidableEq, Inhabited, Repr

/-- A 64-bit floating point number, given by its bits. -/
structure Double where
  /-- Sign, eleven exponent bits and fifty-two fraction bits, most significant first. -/
  bits : UInt64
  deriving DecidableEq, Inhabited, Repr

/-! ## Comparison -/

namespace Single

/-- Positive zero. -/
def zero : Single := ⟨0⟩

/-- One. -/
def one : Single := ⟨0x3f800000⟩

/-- The pattern without its sign bit. -/
def magnitude (x : Single) : Nat := x.bits.toNat % 0x80000000

/-- All exponent bits set and a fraction that is not zero. -/
def isNaN (x : Single) : Bool := 0x7f800000 < x.magnitude

/-- The IEEE comparison: no NaN equals anything, and the zeros are equal. -/
def same (x y : Single) : Bool :=
  !x.isNaN && !y.isNaN && (x == y || (x.magnitude == 0 && y.magnitude == 0))

/-- Two patterns compare equal when neither is a NaN and they are one pattern or two zeros. -/
theorem same_iff {x y : Single} :
    x.same y = true ↔
      x.isNaN = false ∧ y.isNaN = false ∧ (x = y ∨ (x.magnitude = 0 ∧ y.magnitude = 0)) := by
  simp [same, and_assoc]

/-- Singles compare the same both ways. -/
theorem same_comm (x y : Single) : x.same y = y.same x := by
  rw [Bool.eq_iff_iff, same_iff, same_iff]
  constructor <;> rintro ⟨hx, hy, h | ⟨h₁, h₂⟩⟩
  · exact ⟨hy, hx, .inl h.symm⟩
  · exact ⟨hy, hx, .inr ⟨h₂, h₁⟩⟩
  · exact ⟨hy, hx, .inl h.symm⟩
  · exact ⟨hy, hx, .inr ⟨h₂, h₁⟩⟩

end Single

namespace Double

/-- Positive zero. -/
def zero : Double := ⟨0⟩

/-- The pattern without its sign bit. -/
def magnitude (x : Double) : Nat := x.bits.toNat % 0x8000000000000000

/-- All exponent bits set and a fraction that is not zero. -/
def isNaN (x : Double) : Bool := 0x7ff0000000000000 < x.magnitude

/-- The IEEE comparison: no NaN equals anything, and the zeros are equal. -/
def same (x y : Double) : Bool :=
  !x.isNaN && !y.isNaN && (x == y || (x.magnitude == 0 && y.magnitude == 0))

/-- Two patterns compare equal when neither is a NaN and they are one pattern or two zeros. -/
theorem same_iff {x y : Double} :
    x.same y = true ↔
      x.isNaN = false ∧ y.isNaN = false ∧ (x = y ∨ (x.magnitude = 0 ∧ y.magnitude = 0)) := by
  simp [same, and_assoc]

/-- Doubles compare the same both ways. -/
theorem same_comm (x y : Double) : x.same y = y.same x := by
  rw [Bool.eq_iff_iff, same_iff, same_iff]
  constructor <;> rintro ⟨hx, hy, h | ⟨h₁, h₂⟩⟩
  · exact ⟨hy, hx, .inl h.symm⟩
  · exact ⟨hy, hx, .inr ⟨h₂, h₁⟩⟩
  · exact ⟨hy, hx, .inl h.symm⟩
  · exact ⟨hy, hx, .inr ⟨h₂, h₁⟩⟩

end Double

/-! ## Parts of a pattern -/

/-- The widths of a binary interchange format. -/
structure Binary where
  /-- How many bits the biased exponent takes. -/
  exponentBits : Nat
  /-- How many bits the fraction takes; the leading one of a normal number is not stored. -/
  fractionBits : Nat

namespace Binary

/-- The format of `Single`. -/
def single : Binary := ⟨8, 23⟩

/-- The format of `Double`. -/
def double : Binary := ⟨11, 52⟩

/-- What a bit pattern denotes. -/
inductive Reading where
  /-- Not a number. -/
  | nan
  /-- An infinity, `negative` or not. -/
  | infinite (negative : Bool)
  /-- The number `significand * 2 ^ exponent`, negated if `negative`. The flag `narrow` marks the
  least significand of a binade, whose neighbour below is only half a step away. -/
  | finite (negative : Bool) (significand : Nat) (exponent : Int) (narrow : Bool)
  deriving DecidableEq, Repr

/-- Take a bit pattern of the format apart. -/
def read (f : Binary) (bits : Nat) : Reading :=
  let fraction := bits % Nat.pow 2 f.fractionBits
  let biased := bits / Nat.pow 2 f.fractionBits % Nat.pow 2 f.exponentBits
  let negative := bits / Nat.pow 2 (f.fractionBits + f.exponentBits) % 2 = 1
  let least : Int := 2 - Nat.pow 2 (f.exponentBits - 1) - f.fractionBits
  if biased = Nat.pow 2 f.exponentBits - 1 then
    if fraction = 0 then .infinite negative else .nan
  else if biased = 0 then
    .finite negative fraction least false
  else
    .finite negative (Nat.pow 2 f.fractionBits + fraction) (least + biased - 1)
      (fraction = 0 && 1 < biased)

end Binary

/-- What the number denotes. -/
def Single.read (x : Single) : Binary.Reading := Binary.single.read x.bits.toNat

/-- What the number denotes. -/
def Double.read (x : Double) : Binary.Reading := Binary.double.read x.bits.toNat

end SceneSchema

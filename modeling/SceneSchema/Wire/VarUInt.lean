/-!
# Byte-level numbers

Two ways to write a natural number as bytes, both least significant first. `littleEndian` takes a
fixed number of bytes and keeps the number modulo that many powers of 256. `varUInt` takes as many
seven-bit groups as the number has, at least one, and flags every group but the last by its high
bit.

Main statements: `ofLittleEndian_littleEndian` and `littleEndian_ofLittleEndian`, the two directions
of the fixed form; `length_littleEndian`.
-/

namespace SceneSchema.Wire

/-- Encoded data. -/
abbrev Bytes := List UInt8

/-! ## Fixed width -/

/-- The lowest `width` bytes of a number, least significant first. -/
def littleEndian : (width : Nat) → Nat → Bytes
  | 0, _ => []
  | width + 1, n => UInt8.ofNat n :: littleEndian width (n / 256)

/-- The number that the bytes write, least significant first. -/
def ofLittleEndian : Bytes → Nat
  | [] => 0
  | b :: rest => b.toNat + 256 * ofLittleEndian rest

/-- A word has the width that it is written in. -/
@[simp] theorem length_littleEndian (width n : Nat) : (littleEndian width n).length = width := by
  induction width generalizing n with
  | zero => rfl
  | succ width ih => simp [littleEndian, ih]

/-- Reading back gives the number modulo what the width can hold. -/
theorem ofLittleEndian_littleEndian (width n : Nat) :
    ofLittleEndian (littleEndian width n) = n % Nat.pow 256 width := by
  induction width generalizing n with
  | zero => simp [littleEndian, ofLittleEndian, Nat.mod_one]
  | succ width ih =>
    have step : Nat.pow 256 (width + 1) = 256 * Nat.pow 256 width := Nat.pow_succ'
    simp only [littleEndian, ofLittleEndian, ih, UInt8.toNat_ofNat', Nat.reducePow]
    rw [step, Nat.mod_mul]

/-- Bytes stand for a number that their width can hold. -/
theorem ofLittleEndian_lt (bytes : Bytes) : ofLittleEndian bytes < Nat.pow 256 bytes.length := by
  induction bytes with
  | nil => simp [ofLittleEndian]
  | cons b rest ih =>
    have hb := b.toNat_lt
    have step : Nat.pow 256 (rest.length + 1) = 256 * Nat.pow 256 rest.length := Nat.pow_succ'
    simp only [ofLittleEndian, List.length_cons]
    omega

/-- Writing back gives the bytes. -/
theorem littleEndian_ofLittleEndian (bytes : Bytes) :
    littleEndian bytes.length (ofLittleEndian bytes) = bytes := by
  induction bytes with
  | nil => rfl
  | cons b rest ih =>
    have hb := b.toNat_lt
    have low : UInt8.ofNat (b.toNat + 256 * ofLittleEndian rest) = b := by
      rw [← UInt8.toNat_inj, UInt8.toNat_ofNat']
      omega
    have high : (b.toNat + 256 * ofLittleEndian rest) / 256 = ofLittleEndian rest := by omega
    simp only [List.length_cons, littleEndian, ofLittleEndian, low, high, ih]

/-! ## Variable width -/

/-- Seven-bit groups, least significant first, all but the last flagged. -/
def varUInt (n : Nat) : Bytes :=
  if n < 128 then [UInt8.ofNat n] else UInt8.ofNat (n % 128 + 128) :: varUInt (n / 128)

/-- A number below 128 is one plain group. -/
theorem varUInt_of_lt {n : Nat} (h : n < 128) : varUInt n = [UInt8.ofNat n] := by
  rw [varUInt, if_pos h]

/-- A larger one is a flagged group with its low seven bits, and then the groups of the others. -/
theorem varUInt_of_ge {n : Nat} (h : 128 ≤ n) :
    varUInt n = UInt8.ofNat (n % 128 + 128) :: varUInt (n / 128) := by
  rw [varUInt, if_neg (by omega)]

end SceneSchema.Wire

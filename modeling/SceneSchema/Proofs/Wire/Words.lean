import Mathlib.Data.Nat.Bitwise
import SceneSchema.Proofs.Wire.RoundTrip

/-!
# Numbers of variable width on a machine with 64-bit words

The format is defined by remainders and sums of natural numbers. A machine masks, shifts and sets
bits of a word of 64 bits, where what is shifted too far is lost. This module writes the two loops
down as such a machine runs them and shows that nothing is ever lost.

* `writeWord` — mask the lowest seven bits, shift the word, and set the flag if something is left.
  That the loop ends is the measure of its definition: each pass divides the word by 128.
  `writeWord_eq` — it writes what `varUInt` writes.
* `readWord` — mask, shift into place, and join with the groups before. `readVarUInt_eq` — it reads
  what `readVarUInt` reads. The invariant of the loop (`InPlace`) is that the groups read so far lie
  below the place of the next one, so joining them adds them; the tenth group has its place at the
  highest bit, and the test for a group above 1 is what keeps it there.
-/

namespace SceneSchema.Wire

/-! ### Bits of a byte -/

/-- The lowest seven bits of a word. -/
theorem toNat_mask (v : UInt64) : (v &&& 0x7f).toUInt8.toNat = v.toNat % 128 := by
  have mask : (v &&& 0x7f).toNat = v.toNat % 2 ^ 7 := by
    rw [UInt64.toNat_and]
    exact Nat.and_two_pow_sub_one_eq_mod v.toNat 7
  rw [UInt64.toNat_toUInt8, mask]
  omega

/-- A shift by seven bits divides by 128. -/
theorem toNat_shiftRight_seven (v : UInt64) : (v >>> 7).toNat = v.toNat / 128 := by
  rw [UInt64.toNat_shiftRight]
  exact Nat.shiftRight_eq_div_pow v.toNat 7

/-- Setting the flag of a group adds 128. -/
theorem toNat_setFlag {b : UInt8} (plain : b.toNat < 128) : (b ||| 0x80).toNat = b.toNat + 128 := by
  have apart := Nat.two_pow_add_eq_or_of_lt (i := 7) plain 1
  rw [UInt8.toNat_or, Nat.or_comm]
  show 2 ^ 7 * 1 ||| b.toNat = _
  rw [← apart]
  omega

/-! ### Writing -/

/-- The loop of a writer. -/
def writeWord (v : UInt64) : Bytes :=
  if v >>> 7 = 0 then [(v &&& 0x7f).toUInt8]
  else ((v &&& 0x7f).toUInt8 ||| 0x80) :: writeWord (v >>> 7)
termination_by v.toNat
decreasing_by
  rename_i more
  have some : (v >>> 7).toNat ≠ 0 := fun none => more (UInt64.toNat_inj.1 none)
  rw [toNat_shiftRight_seven] at some ⊢
  omega

/-- **Masking, shifting and setting bits writes the number.** -/
theorem writeWord_eq (v : UInt64) : writeWord v = varUInt v.toNat := by
  fun_induction writeWord v with
  | case1 v done =>
    have none := congrArg UInt64.toNat done
    rw [toNat_shiftRight_seven, UInt64.toNat_zero] at none
    have small : v.toNat < 128 := by omega
    have byte : (v &&& 0x7f).toUInt8 = UInt8.ofNat v.toNat := by
      rw [← UInt8.toNat_inj, toNat_mask, toNat_plain small, Nat.mod_eq_of_lt small]
    rw [varUInt_of_lt small, byte]
  | case2 v more ih =>
    have large : 128 ≤ v.toNat := by
      by_contra small
      apply more
      rw [← UInt64.toNat_inj, toNat_shiftRight_seven, UInt64.toNat_zero]
      omega
    have plain : (v &&& 0x7f).toUInt8.toNat < 128 := by
      rw [toNat_mask]
      omega
    have byte : (v &&& 0x7f).toUInt8 ||| 0x80 = UInt8.ofNat (v.toNat % 128 + 128) := by
      rw [← UInt8.toNat_inj, toNat_setFlag plain, toNat_mask, toNat_flagged]
    rw [varUInt_of_ge large, byte, ih, toNat_shiftRight_seven]

/-! ### Reading -/

/-- The loop of a reader: up to `left` more bytes may follow, the groups of those before are joined
to `value`, and the next group has its place at the bit `shift`. -/
def readWordFrom (start : Nat) : (left : Nat) → (shift value : UInt64) → Read UInt64
  | 0, _, _ => Read.fail (.invalidData (.numberTooLong start))
  | left + 1, shift, value => do
      let b ← readByte
      let group := (b &&& 0x7f).toUInt64
      if shift = 63 ∧ 1 < group then Read.fail (.invalidData (.numberTooLong start))
      else if b &&& 0x80 = 0 then pure (value ||| group <<< shift)
      else readWordFrom start left (shift + 7) (value ||| group <<< shift)

/-- A number, as a word. -/
def readWord : Read UInt64 := do
  let r ← Read.look
  readWordFrom r.position maxGroups 0 0

/-- The seven low bits of a byte, as a word. -/
theorem toNat_group (b : UInt8) : (b &&& 0x7f).toUInt64.toNat = b.toNat % 128 := by
  rw [UInt8.toNat_toUInt64, UInt8.toNat_and]
  exact Nat.and_two_pow_sub_one_eq_mod b.toNat 7

/-- The flag of a byte is its highest bit. -/
theorem flag_eq_zero_iff (b : UInt8) : b &&& 0x80 = 0 ↔ b.toNat < 128 := by
  have byte := b.toNat_lt
  have bit : (b &&& 0x80).toNat = (b.toNat.testBit 7).toNat * 2 ^ 7 := by
    rw [UInt8.toNat_and]
    exact Nat.and_two_pow b.toNat 7
  rw [← UInt8.toNat_inj, bit, UInt8.toNat_zero, Nat.testBit_eq_decide_div_mod_eq]
  by_cases high : b.toNat / 2 ^ 7 % 2 = 1
  · rw [decide_eq_true high, Bool.toNat_true]
    omega
  · rw [decide_eq_false high, Bool.toNat_false]
    omega

/-- What is read so far, when `i` groups were joined: they lie below the place of the next. -/
structure InPlace (i : Nat) (shift value : UInt64) : Prop where
  /-- The shift is that of the group. -/
  shift_eq : shift.toNat = 7 * i
  /-- The groups read so far take no more bits than that. -/
  below : value.toNat < 2 ^ (7 * i)

variable {i : Nat} {shift value group : UInt64}

/-- The next group counts 128 times as much. -/
theorem place_succ (i : Nat) : 2 ^ (7 * (i + 1)) = 2 ^ (7 * i) * 128 := by
  rw [Nat.mul_succ, pow_add]
  rfl

/-- There is room for ten groups, of which the last may be 0 or 1. -/
theorem group_mul_lt {g : Nat} (inside : i ≤ 9) (plain : g < 128) (last : i = 9 → g ≤ 1) :
    g * 2 ^ (7 * i) < 2 ^ 64 := by
  rcases Nat.lt_or_eq_of_le inside with before | rfl
  · have place : 2 ^ (7 * i) ≤ 2 ^ (7 * 8) := Nat.pow_le_pow_right (by decide) (by omega)
    calc g * 2 ^ (7 * i) ≤ 127 * 2 ^ (7 * 8) := Nat.mul_le_mul (by omega) place
      _ < 2 ^ 64 := by norm_num
  · have few := last rfl
    omega

/-- Joining a group adds it at its place. -/
theorem InPlace.toNat_join (h : InPlace i shift value) (inside : i ≤ 9) (plain : group.toNat < 128)
    (last : i = 9 → group.toNat ≤ 1) :
    (value ||| group <<< shift).toNat = value.toNat + group.toNat * 2 ^ (7 * i) := by
  have room := group_mul_lt inside plain last
  have apart := Nat.two_pow_add_eq_or_of_lt h.below group.toNat
  have bits : shift.toNat % 64 = 7 * i := by
    rw [h.shift_eq]
    omega
  rw [UInt64.toNat_or, UInt64.toNat_shiftLeft, bits, Nat.shiftLeft_eq, Nat.mod_eq_of_lt room,
    Nat.or_comm, Nat.mul_comm, ← apart, Nat.add_comm]

/-- The groups read so far stay below the place of the next one. -/
theorem InPlace.join (h : InPlace i shift value) (inside : i < 9) (plain : group.toNat < 128) :
    InPlace (i + 1) (shift + 7) (value ||| group <<< shift) := by
  constructor
  · rw [UInt64.toNat_add, h.shift_eq]
    show (7 * i + 7) % 2 ^ 64 = 7 * (i + 1)
    omega
  · have before := h.below
    have groups : group.toNat * 2 ^ (7 * i) ≤ 127 * 2 ^ (7 * i) :=
      Nat.mul_le_mul_right _ (by omega)
    rw [h.toNat_join (by omega) plain (by omega), place_succ]
    omega

/-- **The loops agree from any pass on**, if the groups read so far are in place. -/
theorem readGroups_eq (start left : Nat) (all : i + left = maxGroups) (h : InPlace i shift value) :
    readGroups start left (2 ^ (7 * i)) value.toNat =
      readWordFrom start left shift value >>= fun v => pure v.toNat := by
  induction left generalizing i shift value with
  | zero => rfl
  | succ left ih =>
    have inside : i ≤ 9 := by
      rw [maxGroups] at all
      omega
    have last : shift = 63 ↔ left = 0 := by
      rw [← UInt64.toNat_inj, h.shift_eq]
      rw [maxGroups] at all
      show 7 * i = 63 ↔ left = 0
      omega
    rw [readGroups, readWordFrom, bind_assoc]
    apply bind_congr
    intro b
    have size := toNat_group b
    have above : 1 < (b &&& 0x7f).toUInt64 ↔ 1 < b.toNat % 128 := by
      rw [UInt64.lt_iff_toNat_lt, size]
      rfl
    dsimp only
    have test : shift = 63 ∧ 1 < (b &&& 0x7f).toUInt64 ↔ left = 0 ∧ 1 < b.toNat % 128 :=
      and_congr last above
    by_cases big : left = 0 ∧ 1 < b.toNat % 128
    · rw [if_pos big, if_pos (test.2 big)]
      rfl
    rw [if_neg big, if_neg (mt test.1 big)]
    have small : (b &&& 0x7f).toUInt64.toNat < 128 := by omega
    have room : i = 9 → (b &&& 0x7f).toUInt64.toNat ≤ 1 := by
      rw [maxGroups] at all
      omega
    have joined := h.toNat_join inside small room
    rw [size] at joined
    by_cases plain : b.toNat < 128
    · rw [if_pos plain, if_pos ((flag_eq_zero_iff b).2 plain), pure_bind, joined]
    · rw [if_neg plain, if_neg (mt (flag_eq_zero_iff b).1 plain)]
      rcases left with _ | left
      · rfl
      · have next := h.join (by rw [maxGroups] at all; omega) small
        rw [← joined, ← place_succ i]
        exact ih (by omega) next

/-- **Masking, shifting and joining reads the number.** -/
theorem readVarUInt_eq : readVarUInt = readWord >>= fun v => pure v.toNat := by
  unfold readVarUInt readWord
  rw [bind_assoc]
  apply bind_congr
  intro r
  have start : InPlace 0 0 0 := ⟨rfl, by decide⟩
  have loop := readGroups_eq r.position maxGroups (Nat.zero_add _) start
  rw [Nat.mul_zero, pow_zero, UInt64.toNat_zero] at loop
  exact loop

end SceneSchema.Wire

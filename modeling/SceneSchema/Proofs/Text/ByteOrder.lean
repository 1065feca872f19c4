import Mathlib.Data.String.Basic
import SceneSchema.Proofs.Wire.Sentence

/-!
# The order of texts is the order of their bytes

Texts compare character by character, by code point. Their encodings in UTF-8 compare byte by byte,
and **the two orders are one** (`utf8Bytes_lt_iff`): the lead byte of a longer encoding is larger
than that of a shorter one, and in encodings of one length the higher digits of the code point come
first. So characters can be told apart before the shorter encoding ends
(`utf8EncodeChar_append_lt`), and what follows them does not matter.
-/

namespace SceneSchema

variable {x y : List UInt8}

/-- Bytes compare by the numbers that they were made from. -/
theorem ofNat_cons_lt_iff {m n : Nat} (hm : m < 256) (hn : n < 256) :
    UInt8.ofNat m :: x < UInt8.ofNat n :: y ↔ m < n ∨ m = n ∧ x < y := by
  rw [List.cons_lt_cons_iff, UInt8.lt_iff_toNat_lt, ← UInt8.toNat_inj, UInt8.toNat_ofNat',
    UInt8.toNat_ofNat', Nat.mod_eq_of_lt hm, Nat.mod_eq_of_lt hn]

/-- The smaller character has the smaller encoding, whatever follows. -/
theorem utf8EncodeChar_append_lt {a b : Char} (h : a < b) :
    String.utf8EncodeChar a ++ x < String.utf8EncodeChar b ++ y := by
  have less : a.val.toNat < b.val.toNat := h
  have last : b.val.toNat < 0x110000 := by
    rcases b.valid with low | high
    · exact Nat.lt_trans low (by decide)
    · exact high.2
  -- each byte holds one digit to base 64
  have digits (n : Nat) : n / 4096 = n / 64 / 64 ∧ n / 262144 = n / 64 / 64 / 64 := by omega
  unfold String.utf8EncodeChar
  generalize a.val.toNat = m at *
  generalize b.val.toNat = n at *
  simp only [digits]
  -- the lengths of the two encodings are those of `m` and `n`
  split_ifs <;>
    simp (disch := omega) only [List.cons_append, List.nil_append, ofNat_cons_lt_iff] <;> omega

/-- Texts in the order of their characters are in the order of their bytes. -/
theorem flatMap_utf8EncodeChar_lt {l m : List Char} (h : l < m) :
    l.flatMap String.utf8EncodeChar < m.flatMap String.utf8EncodeChar := by
  induction h with
  | nil =>
    rename_i b m
    obtain ⟨byte, rest, some⟩ : ∃ byte rest, String.utf8EncodeChar b = byte :: rest :=
      List.exists_cons_of_ne_nil String.utf8EncodeChar_ne_nil
    rw [List.flatMap_cons, some]
    exact List.nil_lt_cons _ _
  | rel less =>
    rw [List.flatMap_cons, List.flatMap_cons]
    exact utf8EncodeChar_append_lt less
  | cons _ ih =>
    rw [List.flatMap_cons, List.flatMap_cons]
    exact List.append_left_lt ih

/-- The smaller text has the smaller encoding. -/
theorem utf8Bytes_lt {s t : String} (h : s < t) : utf8Bytes s < utf8Bytes t := by
  rw [Wire.utf8Bytes_eq_flatMap, Wire.utf8Bytes_eq_flatMap]
  exact flatMap_utf8EncodeChar_lt (show s.toList < t.toList from h)

/-- **Texts are in the order of their encodings.** -/
theorem utf8Bytes_lt_iff {s t : String} : utf8Bytes s < utf8Bytes t ↔ s < t := by
  constructor
  · intro bytes
    rcases lt_trichotomy s t with less | rfl | more
    · exact less
    · exact absurd bytes (List.lt_irrefl _)
    · exact absurd bytes (List.lt_asymm (utf8Bytes_lt more))
  · exact utf8Bytes_lt

end SceneSchema

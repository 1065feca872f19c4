import Mathlib.Tactic.NormNum
import SceneSchema.Wire.Format

/-!
# Buffers and their headers

A buffer is eight bytes of header and what follows them. `HeaderAccepted` is the condition under
which a buffer can be opened with a check of its header (`openChecked_eq_ok_iff`), and
`Writer.ClosesTo` says which two buffers a writer can be closed to. What the two have to do with
each other is `Writer.ClosesTo.headerAccepted`: **a closed buffer can be opened**, as long as 64
bits can hold its length. -/

namespace SceneSchema.Wire

/-- A header is there, and it records nothing or the buffer's length. -/
def HeaderAccepted (data : Bytes) : Prop :=
  headerSize ≤ data.length ∧ (ofLittleEndian (data.take headerSize) = 0 ∨
    ofLittleEndian (data.take headerSize) = data.length)

/-- The buffers that a writer can be closed to: with its length in the header, or without. -/
def Writer.ClosesTo (w : Writer) (data : Bytes) : Prop := data = w.finish ∨ data = w.finishUnsized

variable {w : Writer} {data : Bytes}

/-! ### Opening -/

/-- A buffer is opened exactly if its header is accepted, and the reader stands behind the header.
-/
theorem openChecked_eq_ok_iff {r : Reader} :
    Reader.openChecked data = .ok r ↔
      HeaderAccepted data ∧ r = Reader.behindHeader data true := by
  unfold Reader.openChecked HeaderAccepted
  split
  · rename_i small
    constructor
    · intro opened
      cases opened
    · intro h
      omega
  · rename_i large
    show (if ofLittleEndian (data.take headerSize) ≠ 0 ∧
      ofLittleEndian (data.take headerSize) ≠ data.length then _ else _) = _ ↔ _
    split
    · rename_i other
      constructor
      · intro opened
        cases opened
      · intro accepted
        obtain ⟨⟨-, none | same⟩, -⟩ := accepted
        · exact absurd none other.1
        · exact absurd same other.2
    · rename_i accepted
      rw [Except.ok.injEq, eq_comm]
      constructor
      · intro place
        refine ⟨⟨Nat.le_of_not_lt large, ?_⟩, place⟩
        by_cases none : ofLittleEndian (data.take headerSize) = 0
        · exact .inl none
        · exact .inr (not_not.1 fun other => accepted ⟨none, other⟩)
      · intro h
        exact h.2

/-- Without the check it is enough that there is room for a header. -/
theorem openUnchecked_eq_ok_iff {r : Reader} :
    Reader.openUnchecked data = .ok r ↔
      headerSize ≤ data.length ∧ r = Reader.behindHeader data false := by
  unfold Reader.openUnchecked
  split
  · rename_i small
    refine ⟨fun h => (by cases h), fun h => ?_⟩
    omega
  · rename_i large
    rw [Except.ok.injEq, eq_comm]
    exact ⟨fun h => ⟨Nat.le_of_not_lt large, h⟩, fun h => h.2⟩

/-! ### Closing -/

/-- The header of a buffer that is closed with its length, if 64 bits can hold it. -/
theorem Writer.header_finish (fits : w.size < 2 ^ 64) :
    ofLittleEndian (w.finish.take headerSize) = w.finish.length := by
  have power : Nat.pow 256 8 = 2 ^ 64 := by norm_num
  rw [length_finish, finish, headerSize, List.take_left' (length_littleEndian 8 _),
    ofLittleEndian_littleEndian, power, Nat.mod_eq_of_lt fits]

namespace Writer.ClosesTo

/-- A closed buffer is as long as the writer counted. -/
theorem length_eq (closed : w.ClosesTo data) : data.length = w.size := by
  rcases closed with rfl | rfl
  · exact length_finish w
  · exact length_finishUnsized w

/-- Behind the header stands what was appended. -/
theorem drop_header (closed : w.ClosesTo data) : data.drop headerSize = w.body := by
  rcases closed with rfl | rfl
  · exact List.drop_left' (length_littleEndian 8 _)
  · exact List.drop_left' (length_littleEndian 8 _)

/-- Its header is accepted if its length fits in the field for it. -/
theorem headerAccepted (closed : w.ClosesTo data) (fits : w.size < 2 ^ 64) :
    HeaderAccepted data := by
  refine ⟨by rw [closed.length_eq]; exact Nat.le_add_right 8 _, ?_⟩
  rcases closed with rfl | rfl
  · exact .inr (header_finish fits)
  · left
    rw [finishUnsized, headerSize, List.take_left' (length_littleEndian 8 _),
      ofLittleEndian_littleEndian, Nat.zero_mod]

/-- A closed buffer is opened, its header checked or not. -/
theorem opened (closed : w.ClosesTo data) (fits : w.size < 2 ^ 64)
    {opener : Bytes → Except Error Reader}
    (known : opener = Reader.openChecked ∨ opener = Reader.openUnchecked) :
    ∃ checked, opener data = .ok (Reader.behindHeader data checked) := by
  have accepted := closed.headerAccepted fits
  rcases known with rfl | rfl
  · exact ⟨true, openChecked_eq_ok_iff.2 ⟨accepted, rfl⟩⟩
  · exact ⟨false, openUnchecked_eq_ok_iff.2 ⟨accepted.1, rfl⟩⟩

end Writer.ClosesTo

end SceneSchema.Wire

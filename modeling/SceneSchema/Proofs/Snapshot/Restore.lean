import SceneSchema.Proofs.Object.WellTyped
import SceneSchema.Proofs.Wire.RoundTrip

/-!
# What a buffer must hold to be restored

`restore_eq_ok_iff` takes the restoring of a buffer apart into its header, the reading of the values
and the question whether anything is left. `record_of_restore` and `restore_of_record` say the same
about bytes: **behind an accepted header stands exactly one record of the class's types**. The first
of them needs no bound on the length of the buffer.

The snapshots of an object are buffers of this kind (`IsSnapshot.record`).
-/

namespace SceneSchema

open Wire

namespace SceneObject

variable {o o' : SceneObject} {data : Bytes}

/-- What is behind the header is no longer than the buffer. -/
theorem length_behindHeader_lt (fits : data.length < 2 ^ 64) :
    (data.drop headerSize).length < 2 ^ 64 := by
  rw [List.length_drop]
  exact Nat.lt_of_le_of_lt (Nat.sub_le _ _) fits

/-- Restoring from a reader succeeds exactly if values of the class's types can be read there. -/
theorem restoreFrom_eq_ok_iff {r r' : Reader} :
    o.restoreFrom r = (.ok o', r') ↔
      ∃ vs, readValues o.sceneClass.types r = (.ok vs, r') ∧ o' = o.replaceValues vs := by
  rw [restoreFrom, Read.bind_eq_ok_iff]
  constructor
  · intro run
    obtain ⟨vs, _, reads, rest⟩ := run
    cases rest
    exact ⟨vs, reads, rfl⟩
  · intro h
    obtain ⟨vs, reads, rfl⟩ := h
    exact ⟨vs, r', reads, rfl⟩

/-- Restoring a buffer succeeds exactly if its header is accepted, values of the class's types can
be read behind it, and nothing is left. -/
theorem restore_eq_ok_iff :
    o.restore data = .ok o' ↔ HeaderAccepted data ∧
      ∃ vs r', readValues o.sceneClass.types (Reader.behindHeader data true) = (.ok vs, r') ∧
        r'.isDone = true ∧ o' = o.replaceValues vs := by
  rw [restore, bind_eq_ok_iff]
  constructor
  · intro h
    obtain ⟨r, opens, run⟩ := h
    obtain ⟨accepted, rfl⟩ := openChecked_eq_ok_iff.1 opens
    rcases restores : o.restoreFrom (Reader.behindHeader data true) with ⟨e | o₁, r'⟩
    · rw [restores] at run
      cases run
    · obtain ⟨vs, reads, rfl⟩ := restoreFrom_eq_ok_iff.1 restores
      simp only [restores] at run
      by_cases done : r'.isDone = true
      · rw [if_pos done, Except.ok.injEq] at run
        exact ⟨accepted, vs, r', reads, done, run.symm⟩
      · rw [if_neg done] at run
        cases run
  · intro h
    obtain ⟨accepted, vs, r', reads, done, rfl⟩ := h
    have restores := restoreFrom_eq_ok_iff.2 ⟨vs, reads, rfl⟩
    refine ⟨Reader.behindHeader data true, openChecked_eq_ok_iff.2 ⟨accepted, rfl⟩, ?_⟩
    simp only [restores, if_pos done]

/-- What is restored is a record that takes the whole buffer behind the header. -/
theorem record_of_restore (run : o.restore data = .ok o') :
    HeaderAccepted data ∧
      ∃ vs, Record o.sceneClass.types (data.drop headerSize) vs ∧ o' = o.replaceValues vs := by
  obtain ⟨accepted, vs, r', reads, done, values⟩ := restore_eq_ok_iff.1 run
  obtain ⟨bytes, ahead, sentence, rfl⟩ := (recognizes_readValues _).sound reads
  rw [Reader.isDone_iff, Reader.remaining_advance] at done
  have whole : bytes = data.drop headerSize :=
    ahead.eq_of_length_le (Nat.le_of_sub_eq_zero done)
  exact ⟨accepted, vs, whole ▸ sentence, values⟩

/-- A restored object is of the class it was of. -/
theorem sceneClass_of_restore (run : o.restore data = .ok o') : o'.sceneClass = o.sceneClass := by
  obtain ⟨-, vs, -, rfl⟩ := record_of_restore run
  rfl

/-- A record that takes the whole buffer behind an accepted header is restored. -/
theorem restore_of_record {vs : List Value} (accepted : HeaderAccepted data)
    (fits : data.length < 2 ^ 64)
    (record : Record o.sceneClass.types (data.drop headerSize) vs) :
    o.restore data = .ok (o.replaceValues vs) := by
  have reads := (recognizes_readValues o.sceneClass.types).complete
    (r := Reader.behindHeader data true) List.prefix_rfl (length_behindHeader_lt fits) record
  refine restore_eq_ok_iff.2 ⟨accepted, vs, _, reads, ?_, rfl⟩
  rw [Reader.isDone_iff, Reader.remaining_advance]
  exact Nat.sub_self _

/-- Values that were read are of the types they were read for, so a restored object is well typed.
-/
theorem WellTyped.restore (h : o.WellTyped) (run : o.restore data = .ok o') : o'.WellTyped := by
  obtain ⟨-, vs, record, rfl⟩ := record_of_restore run
  exact h.replaceValues record.types_eq

/-! ### Snapshots -/

/-- A snapshot of the object, with its length in the header or without. -/
def IsSnapshot (o : SceneObject) (data : Bytes) : Prop :=
  data = o.snapshot ∨ data = o.unsizedSnapshot

/-- A snapshot of an object is what its writer closes to. -/
theorem IsSnapshot.closesTo (h : o.IsSnapshot data) : (o.encodeInto .empty).ClosesTo data := h

/-- All snapshots of an object have the same length. -/
theorem IsSnapshot.length_eq (h : o.IsSnapshot data) : data.length = o.snapshot.length := by
  rw [h.closesTo.length_eq, snapshot, Writer.length_finish]

/-- Behind the header of a snapshot stands the record of the object. -/
theorem IsSnapshot.drop_header (h : o.IsSnapshot data) : data.drop headerSize = o.record := by
  rw [h.closesTo.drop_header, encodeInto_eq]
  exact List.nil_append _

/-- The header of a snapshot is accepted if the length of the buffer fits in its field. -/
theorem IsSnapshot.headerAccepted (h : o.IsSnapshot data) (fits : o.snapshot.length < 2 ^ 64) :
    HeaderAccepted data := by
  refine h.closesTo.headerAccepted ?_
  rwa [snapshot, Writer.length_finish] at fits

/-- The record of an object is a record of the types of its class that gives the object's values. -/
theorem IsSnapshot.record (h : o.IsSnapshot data) (typed : o.WellTyped)
    (fits : o.snapshot.length < 2 ^ 64) :
    Record o.sceneClass.types (data.drop headerSize) o.values := by
  have short : o.record.length < 2 ^ 64 := by
    rw [← h.drop_header, List.length_drop, h.length_eq]
    omega
  rw [h.drop_header, ← typed.types_eq]
  exact record_encode short

end SceneObject

end SceneSchema

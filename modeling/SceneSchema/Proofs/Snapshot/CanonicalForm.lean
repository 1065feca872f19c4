import SceneSchema.Proofs.Snapshot.Restore
import SceneSchema.Proofs.Wire.Shortest

/-!
# A snapshot is the canonical form of every buffer that restores the same

Main statement: `snapshot_of_restored`. Any buffer that an object can be restored from, whoever
wrote it, is condensed by taking a snapshot of the restored object: the snapshot restores the same
values, it is no longer than the buffer, and it is as long only if it is the buffer, the header
apart.

So `restore` after `snapshot` gives the values back, but `snapshot` after `restore` in general does
not give the bytes back; how far it does is what this module says.
-/

namespace SceneSchema

open Wire

namespace SceneObject

variable {o o' : SceneObject} {data : Bytes}

/-- What is written with its length recorded is a snapshot. -/
theorem isSnapshot_snapshot (o : SceneObject) : o.IsSnapshot o.snapshot := .inl rfl

/-- A snapshot is a header and a record. -/
theorem length_snapshot (o : SceneObject) : o.snapshot.length = headerSize + o.record.length := by
  rw [snapshot, Writer.length_finish, encodeInto_eq, Writer.size_append]
  rfl

/-- What the restored object would write is a condensed form of what it was restored from. -/
theorem condenses_restored (typed : o.WellTyped) (run : o.restore data = .ok o') :
    Condenses o'.record (data.drop headerSize) := by
  obtain ⟨-, vs, record, rfl⟩ := record_of_restore run
  rw [SceneObject.record, typed.values_replaceValues record.types_eq]
  exact condenses_record record

/-- **A snapshot of a restored object is the canonical form of the buffer.** It restores the same
values into every object of the class, is no longer than the buffer, and the two agree behind their
headers exactly if they are equally long. -/
theorem snapshot_of_restored (typed : o.WellTyped) (fits : data.length < 2 ^ 64)
    (run : o.restore data = .ok o') :
    (∀ target : SceneObject, target.WellTyped → target.sceneClass = o.sceneClass →
      ∃ t, target.restore o'.snapshot = .ok t ∧ t.values = o'.values) ∧
    o'.snapshot.length ≤ data.length ∧
    (o'.snapshot.drop headerSize = data.drop headerSize ↔ o'.snapshot.length = data.length) := by
  have typed' : o'.WellTyped := typed.restore run
  have large : headerSize ≤ data.length := (record_of_restore run).1.1
  have condensed := condenses_restored typed run
  have shorter : o'.record.length ≤ (data.drop headerSize).length := condensed.1
  rw [List.length_drop] at shorter
  have size := o'.length_snapshot
  have fits' : o'.snapshot.length < 2 ^ 64 := by omega
  have snapshot := o'.isSnapshot_snapshot
  refine ⟨?_, by omega, ?_⟩
  · intro target typedTarget same
    have sameClass : target.sceneClass = o'.sceneClass := by rw [same, sceneClass_of_restore run]
    have record := snapshot.record typed' fits'
    rw [← sameClass] at record
    exact ⟨_, restore_of_record (snapshot.headerAccepted fits') fits' record,
      typedTarget.values_replaceValues record.types_eq⟩
  · rw [snapshot.drop_header]
    constructor
    · intro same
      have lengths := congrArg List.length same
      rw [List.length_drop] at lengths
      omega
    · intro equal
      apply condensed.2
      rw [List.length_drop]
      omega

/-- A buffer for a lamp in which the number of tags and the length of the one tag are padded. -/
def paddedLamp : Bytes := [0, 0, 0, 0, 0, 0, 0, 0, 1, 0x81, 0x80, 0, 0x82, 0, 0xc3, 0xa9, 0]

/-- The statement at a padded buffer: three bytes of it are padding. -/
theorem snapshot_of_paddedLamp :
    paddedLamp.length < 2 ^ 64 ∧ ∃ o', lamp.restore paddedLamp = .ok o' ∧
      (∃ t, taggedLamp.restore o'.snapshot = .ok t ∧ t.values = o'.values) ∧
      o'.snapshot.length + 3 = paddedLamp.length ∧
      o'.snapshot.drop headerSize ≠ paddedLamp.drop headerSize := by
  have fits : paddedLamp.length < 2 ^ 64 := by decide
  have run : lamp.restore paddedLamp = .ok (lamp.replaceValues [⟨.scalar .bool, true⟩,
      ⟨.vector .string, ["é"]⟩, ⟨.object, (none : Option ObjectRef)⟩]) := by rfl
  have typed : taggedLamp.WellTyped := (wellTyped_new rowsTyped_lampClass "fill").write rfl
  obtain ⟨restores, -, alike⟩ :=
    snapshot_of_restored (wellTyped_new rowsTyped_lampClass "key") fits run
  have shorter : (lamp.replaceValues [⟨.scalar .bool, true⟩, ⟨.vector .string, ["é"]⟩,
      ⟨.object, (none : Option ObjectRef)⟩]).snapshot.length + 3 = paddedLamp.length := by
    decide +kernel
  refine ⟨fits, _, run, restores taggedLamp typed rfl, shorter, fun same => ?_⟩
  have equal := alike.1 same
  omega

end SceneObject

end SceneSchema

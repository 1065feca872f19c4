import Mathlib.Data.List.Infix
import SceneSchema.Proofs.Object.CallsInPlace

/-!
# A snapshot is restored whole or not at all

Main statement: `restore_snapshot_exact`. An object is restored from a snapshot of any object of its
class; from what is left of the snapshot when bytes are missing at the end, or from the snapshot
with bytes behind it, it is not restored, and in place nothing of it is written.

For a snapshot that records its length the header alone decides this. For one that does not, nothing
in the buffer says where the record ends: **the record itself does**, since no record of given types
is a proper front of another, however its counts are padded (`Recognizes.unique`). Both kinds go
through this argument here.
-/

namespace SceneSchema

open Wire

namespace SceneObject

variable {o target : SceneObject} {data : Bytes}

/-- A buffer from which nothing is restored leaves the object alone: restoring it in place fails,
with the same error, before anything is written. -/
theorem restore_fails (never : ∀ o', target.restore data ≠ .ok o') :
    ∃ e, target.restore data = .error e ∧
      (Call.restore data).inPlace.FailsAt target.columns e := by
  rcases outcome : target.restore data with e | o'
  · exact ⟨e, rfl, restore_failsAt outcome⟩
  · exact absurd outcome (never o')

/-- Of two buffers of one header, if one continues the other, at most one holds a record alone. -/
theorem eq_of_prefix_of_record {types : List ValueType} {front : Bytes} {us vs : List Value}
    (ahead : front <+: data) (fits : data.length < 2 ^ 64) (large : headerSize ≤ front.length)
    (first : Record types (front.drop headerSize) us)
    (second : Record types (data.drop headerSize) vs) : front = data := by
  obtain ⟨same, -⟩ := (recognizes_readValues types).unique (ahead.drop headerSize)
    List.prefix_rfl (length_behindHeader_lt fits) first second
  have lengths := congrArg List.length same
  rw [List.length_drop, List.length_drop] at lengths
  have longer := ahead.length_le
  apply ahead.eq_of_length
  omega

/-- Behind a record, what is left of a buffer is left over. -/
theorem eq_nil_of_restore_append {vs : List Value} {extra : Bytes} {o' : SceneObject}
    (large : headerSize ≤ data.length) (fits : data.length < 2 ^ 64)
    (record : Record target.sceneClass.types (data.drop headerSize) vs)
    (run : target.restore (data ++ extra) = .ok o') : extra = [] := by
  obtain ⟨-, us, r', reads, done, -⟩ := restore_eq_ok_iff.1 run
  have rest : (Reader.behindHeader (data ++ extra) true).rest =
      data.drop headerSize ++ extra := List.drop_append_of_le_length large
  have ahead : data.drop headerSize <+: (Reader.behindHeader (data ++ extra) true).rest := by
    rw [rest]
    exact List.prefix_append _ _
  -- the reader takes the record that is there and stops behind it
  rw [(recognizes_readValues _).complete ahead (length_behindHeader_lt fits) record] at reads
  cases reads
  rw [Reader.isDone_iff, Reader.remaining, Reader.rest_advance, rest, List.drop_left] at done
  exact List.eq_nil_of_length_eq_zero done

/-- **A snapshot is restored, and nothing shorter or longer is.** From a snapshot of an object, with
its length recorded or not, any object of the same class gets the values of the object; from any
proper front of the snapshot and from the snapshot followed by further bytes restoring fails, and in
place it leaves the values and the marks of the object as they were. -/
theorem restore_snapshot_exact (typed : o.WellTyped) (same : target.sceneClass = o.sceneClass)
    (fits : o.snapshot.length < 2 ^ 64) (snapshot : data = o.snapshot ∨ data = o.unsizedSnapshot) :
    target.restore data = .ok (target.replaceValues o.values) ∧
    (∀ front, front <+: data → front ≠ data → ∃ e, target.restore front = .error e ∧
      (Call.restore front).inPlace.FailsAt target.columns e) ∧
    (∀ extra, extra ≠ [] → ∃ e, target.restore (data ++ extra) = .error e ∧
      (Call.restore (data ++ extra)).inPlace.FailsAt target.columns e) := by
  have isSnapshot : o.IsSnapshot data := snapshot
  have accepted := isSnapshot.headerAccepted fits
  have record : Record target.sceneClass.types (data.drop headerSize) o.values := by
    rw [same]
    exact isSnapshot.record typed fits
  have short : data.length < 2 ^ 64 := by rwa [isSnapshot.length_eq]
  refine ⟨restore_of_record accepted short record, ?_, ?_⟩
  · intro front ahead proper
    refine restore_fails fun o' run => proper ?_
    obtain ⟨header, us, first, -⟩ := record_of_restore run
    exact eq_of_prefix_of_record ahead short header.1 first record
  · intro extra some
    refine restore_fails fun o' run => some ?_
    exact eq_nil_of_restore_append accepted.1 short record run

/-- The statement at the snapshot of a lamp without its length, of which the last byte is the one
that says that there is no target: another lamp is restored from it, but not without that byte, nor
with one byte more. -/
theorem restore_lamp_exact :
    lamp.snapshot.length < 2 ^ 64 ∧
    taggedLamp.restore lamp.unsizedSnapshot = .ok (taggedLamp.replaceValues lamp.values) ∧
    (∃ e, taggedLamp.restore lamp.unsizedSnapshot.dropLast = .error e ∧
      (Call.restore lamp.unsizedSnapshot.dropLast).inPlace.FailsAt taggedLamp.columns e) ∧
    ∃ e, taggedLamp.restore (lamp.unsizedSnapshot ++ [0]) = .error e ∧
      (Call.restore (lamp.unsizedSnapshot ++ [0])).inPlace.FailsAt taggedLamp.columns e := by
  have fits : lamp.snapshot.length < 2 ^ 64 := by decide +kernel
  have same : taggedLamp.sceneClass = lamp.sceneClass := rfl
  have proper : lamp.unsizedSnapshot.dropLast ≠ lamp.unsizedSnapshot := by decide +kernel
  obtain ⟨restored, shorter, longer⟩ :=
    restore_snapshot_exact (wellTyped_new rowsTyped_lampClass "key") same fits (.inr rfl)
  exact ⟨fits, restored, shorter _ (List.dropLast_prefix _) proper,
    longer [0] (List.cons_ne_nil 0 [])⟩

end SceneObject

end SceneSchema

import SceneSchema.Object
import SceneSchema.Wire.Format

/-!
# Snapshots of objects

A snapshot of an object is the encoding of its values in slot order, in a buffer of its own. It
holds neither types nor names: it can be read back into any object whose class has the same types in
the same order. Several objects may share one buffer, one record after the other.

`restore` reads a buffer that must hold exactly one record; `restoreFrom` reads one record and
leaves the reader behind it. Both give either an object with all values replaced or an error, and an
object is never half replaced.
-/

namespace SceneSchema

open Wire

namespace SceneObject

/-- The record of an object: its values in order. -/
def record (o : SceneObject) : Bytes := o.values.flatMap Value.encode

/-- Append the record of an object to an open buffer. -/
def encodeInto (o : SceneObject) (w : Writer) : Writer := w.enqueueAll o.values

/-- The snapshot of an object: a finished buffer with its record. -/
def snapshot (o : SceneObject) : Bytes := (o.encodeInto .empty).finish

/-- The snapshot of an object in a buffer that does not record its length. -/
def unsizedSnapshot (o : SceneObject) : Bytes := (o.encodeInto .empty).finishUnsized

/-- Replace the values of an object by the next record. -/
def restoreFrom (o : SceneObject) : Read SceneObject := do
  let vs ← readValues o.sceneClass.types
  pure (o.replaceValues vs)

/-- Replace the values of an object by the one record of a buffer. -/
def restore (o : SceneObject) (data : Bytes) : Except Error SceneObject := do
  let r ← Reader.openChecked data
  match o.restoreFrom r with
  | (.error e, _) => .error e
  | (.ok o', r') =>
      if r'.isDone then .ok o'
      else .error (.invalidData
        (.trailing r'.remaining o.sceneClass.count o.sceneClass.name))

/-- What is appended for an object is its record. -/
theorem encodeInto_eq (o : SceneObject) (w : Writer) : o.encodeInto w = w.append o.record :=
  w.enqueueAll_eq o.values

end SceneObject

end SceneSchema

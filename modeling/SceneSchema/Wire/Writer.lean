import SceneSchema.Wire.VarUInt

/-!
# Collecting encoded data

A `Writer` is an open buffer: an eight-byte header that is zero while the buffer is open, and the
bytes appended so far. `finish` closes it with its total length in the header, `finishUnsized` with
the header left zero.
-/

namespace SceneSchema.Wire

/-- An open buffer. -/
structure Writer where
  /-- The bytes behind the header. -/
  body : Bytes
  deriving DecidableEq, Inhabited, Repr

namespace Writer

/-- A buffer with nothing but its header. -/
def empty : Writer := ⟨[]⟩

/-- The length so far, header included. -/
def size (w : Writer) : Nat := 8 + w.body.length

/-- Append bytes. -/
def append (w : Writer) (bytes : Bytes) : Writer := ⟨w.body ++ bytes⟩

/-- The finished buffer, with its total length in the header. -/
def finish (w : Writer) : Bytes := littleEndian 8 w.size ++ w.body

/-- The finished buffer, with no length in the header. -/
def finishUnsized (w : Writer) : Bytes := littleEndian 8 0 ++ w.body

/-- The writer's state as an indented block of text. -/
def display (w : Writer) (indent : String) : String :=
  indent ++ "ValueContainerEnqueue \x7b\n" ++
  indent ++ "  dataSize:" ++ toString w.size ++ " byte\n" ++
  indent ++ "\x7d"

/-- A finished buffer is as long as the writer counted. -/
@[simp] theorem length_finish (w : Writer) : w.finish.length = w.size := by
  simp [finish, size]

/-- So is one that is finished without its length. -/
@[simp] theorem length_finishUnsized (w : Writer) : w.finishUnsized.length = w.size := by
  simp [finishUnsized, size]

/-- What is added counts. -/
@[simp] theorem size_append (w : Writer) (bytes : Bytes) :
    (w.append bytes).size = w.size + bytes.length := by
  simp [append, size]; omega

end Writer

end SceneSchema.Wire

import SceneSchema.Error
import SceneSchema.Wire.VarUInt

/-!
# A bounded cursor over encoded data

A `Reader` stands at a position in a buffer and holds the bytes that are still ahead. The buffer
starts with an eight-byte header that records the buffer's length, or zero if the length was not
recorded; the first position is behind it. The operations here know nothing of values: they check
the header, hand out bytes, and read numbers, counts and texts.

An operation is a `Read`: it gives a result or an error, *and in both cases* the reader to go on
with, because a failed operation may have moved the position. `Read.bind_apply` says how operations
follow one another.

`take` is the only operation that moves the position (`take_apply`). What it moves past it hands out
(`take_append`), and the buffer's length stays what it was (`size_take`), so the position never
passes the end. `readCount` reads the number of elements of something that takes at least `least`
bytes an element, and refuses a number for which the remaining bytes cannot suffice.
-/

namespace SceneSchema.Wire

/-- A position in a buffer, and what is ahead of it. -/
structure Reader where
  /-- The length that the header records. -/
  header : Nat
  /-- How many bytes have been read, header included. -/
  position : Nat
  /-- The bytes not read yet. -/
  rest : Bytes
  /-- Whether the header was compared with the buffer's length. -/
  checked : Bool
  deriving DecidableEq, Repr

/-- A step of reading: a result or an error, and the reader afterwards in either case. -/
abbrev Read (α : Type) := ExceptT Error (StateM Reader) α

/-- The number of header bytes. -/
def headerSize : Nat := 8

namespace Reader

/-- How many bytes have not been read yet. -/
def remaining (r : Reader) : Nat := r.rest.length

/-- The buffer's length. -/
def size (r : Reader) : Nat := r.position + r.remaining

/-- Whether all bytes have been read. -/
def isDone (r : Reader) : Bool := r.rest.isEmpty

/-- Whether there are `n` bytes not read yet. Only that many are looked at. -/
def has (r : Reader) (n : Nat) : Bool := (r.rest.take n).length == n

/-- The reader `n` bytes further on. -/
def advance (r : Reader) (n : Nat) : Reader :=
  { r with position := r.position + n, rest := r.rest.drop n }

/-- A reader behind the header of a buffer. -/
def behindHeader (data : Bytes) (checked : Bool) : Reader :=
  ⟨ofLittleEndian (data.take headerSize), headerSize, data.drop headerSize, checked⟩

/-- A reader behind the header of a buffer, whatever the header says. -/
def openUnchecked (data : Bytes) : Except Error Reader :=
  if data.length < headerSize then .error (.bufferTooSmall data.length)
  else .ok (behindHeader data false)

/-- A reader behind the header of a buffer whose header is zero or the buffer's length. -/
def openChecked (data : Bytes) : Except Error Reader :=
  if data.length < headerSize then .error (.bufferTooSmall data.length)
  else
    let r := behindHeader data true
    if r.header ≠ 0 ∧ r.header ≠ data.length then .error (.sizeMismatch data.length r.header)
    else .ok r

/-- The reader's state as an indented block of text. -/
def display (r : Reader) (indent : String) : String :=
  indent ++ "ValueContainerDequeue \x7b\n" ++
  indent ++ "   position:" ++ toString r.position ++ "\n" ++
  indent ++ "  remaining:" ++ toString r.remaining ++ " byte\n" ++
  indent ++ "   dataSize:" ++ toString r.size ++ " byte" ++
    (if r.checked then "" else " (unchecked)") ++ "\n" ++
  indent ++ "\x7d"

/-- There are so many bytes ahead if no more are asked for than remain. -/
@[simp] theorem has_iff {r : Reader} {n : Nat} : r.has n = true ↔ n ≤ r.remaining := by
  simp only [has, remaining, List.length_take, beq_iff_eq]
  omega

/-- A reader is done when nothing remains. -/
theorem isDone_iff {r : Reader} : r.isDone = true ↔ r.remaining = 0 := by
  simp [isDone, remaining]

/-- Moving over bytes leaves so many less. -/
@[simp] theorem remaining_advance (r : Reader) (n : Nat) :
    (r.advance n).remaining = r.remaining - n := by
  simp [advance, remaining]

end Reader

/-! ## Steps of reading -/

namespace Read

/-- A step followed by another: the second runs on the reader the first leaves, if the first
succeeds. -/
theorem bind_apply {α β : Type} (x : Read α) (f : α → Read β) (r : Reader) :
    (x >>= f) r = match x r with
      | (.ok a, r') => f a r'
      | (.error e, r') => (.error e, r') := by
  simp only [bind, ExceptT.bind, ExceptT.mk, StateT.bind, ExceptT.bindCont]
  rcases x r with ⟨_ | _, r'⟩ <;> rfl

/-- A step that only gives a result leaves the reader where it is. -/
@[simp] theorem pure_apply {α : Type} (a : α) (r : Reader) : (pure a : Read α) r = (.ok a, r) := rfl

/-- A step that fails and leaves the reader alone. -/
def fail {α : Type} (e : Error) : Read α := fun r => (.error e, r)

/-- So does one that only fails, -/
@[simp] theorem fail_apply {α : Type} (e : Error) (r : Reader) :
    (fail e : Read α) r = (.error e, r) := rfl

/-- A step that looks at the reader. -/
def look : Read Reader := fun r => (.ok r, r)

/-- and one that only looks. -/
@[simp] theorem look_apply (r : Reader) : look r = (.ok r, r) := rfl

end Read

/-- The next `n` bytes; the position moves only if there are so many. -/
def take (n : Nat) : Read Bytes := fun r =>
  if r.has n then (.ok (r.rest.take n), r.advance n)
  else (.error (.truncated n r.position r.remaining), r)

/-- What `take` does, in one equation. -/
theorem take_apply (n : Nat) (r : Reader) :
    take n r = if n ≤ r.remaining then (.ok (r.rest.take n), r.advance n)
      else (.error (.truncated n r.position r.remaining), r) := by
  simp [take]

/-- Taking moves past the bytes that it hands out and nothing else. -/
theorem take_append {r : Reader} {bytes more : Bytes} (h : r.rest = bytes ++ more) :
    take bytes.length r =
      (.ok bytes, { r with position := r.position + bytes.length, rest := more }) := by
  rw [take_apply, if_pos (by simp [Reader.remaining, h])]
  simp [Reader.advance, h]

/-- Taking leaves the buffer's length alone. -/
theorem size_take (n : Nat) (r : Reader) : (take n r).2.size = r.size := by
  rw [take_apply]
  split
  · simp only [Reader.size, Reader.remaining_advance]
    simp only [Reader.advance]
    omega
  · rfl

/-- Move past `n` bytes. -/
def skip (n : Nat) : Read Unit := do
  let _ ← take n
  pure ()

/-- The next byte. -/
def readByte : Read UInt8 := do
  match ← take 1 with
  | b :: _ => pure b
  | [] => pure 0

/-- A number of `width` bytes, least significant first. -/
def readFixed (width : Nat) : Read Nat := do
  pure (ofLittleEndian (← take width))

/-- The groups of a variable-length number of which `left` more may follow. The next group counts
`weight`, the groups before it sum up to `sum`, and the number began at `start`. The last group that
64 bits leave room for may only be 0 or 1. -/
def readGroups (start : Nat) : (left weight sum : Nat) → Read Nat
  | 0, _, _ => Read.fail (.invalidData (.numberTooLong start))
  | left + 1, weight, sum => do
      let b ← readByte
      let group := b.toNat % 128
      if left = 0 ∧ 1 < group then Read.fail (.invalidData (.numberTooLong start))
      else if b.toNat < 128 then pure (sum + group * weight)
      else readGroups start left (weight * 128) (sum + group * weight)

/-- The most groups that a variable-length number may have. -/
def maxGroups : Nat := 10

/-- A variable-length number below `2 ^ 64`. -/
def readVarUInt : Read Nat := do
  let r ← Read.look
  readGroups r.position maxGroups 1 0

/-- A number of elements that take at least `least` bytes each. -/
def readCount (least : Nat) : Read Nat := do
  let count ← readVarUInt
  let r ← Read.look
  if Nat.pow 2 64 ≤ count * least then Read.fail (.invalidData (.countTooLarge count r.position))
  else if r.has (count * least) then pure count
  else Read.fail (.truncated (count * least) r.position r.remaining)

/-- A text: its number of bytes, then the bytes. -/
def readText : Read String := do
  let length ← readCount 1
  let r ← Read.look
  let bytes ← take length
  match textOfUtf8? bytes with
  | some text => pure text
  | none => Read.fail (.invalidData (.notUtf8 r.position (Utf8Fault.ofBytes bytes)))

/-- A truth value: one byte, 0 or 1. -/
def readBool : Read Bool := do
  let r ← Read.look
  let b ← readByte
  if b = 0 then pure false
  else if b = 1 then pure true
  else Read.fail (.invalidData (.boolByte b r.position))

/-- A step run `n` times, with the results in order. -/
def readTimes {α : Type} (item : Read α) : Nat → Read (List α)
  | 0 => pure []
  | n + 1 => do
      let a ← item
      let rest ← readTimes item n
      pure (a :: rest)

/-- A list: the number of its elements, then the elements. -/
def readList {α : Type} (least : Nat) (item : Read α) : Read (List α) := do
  readTimes item (← readCount least)

end SceneSchema.Wire

import SceneSchema.Value.Basic
import SceneSchema.Wire.Reader
import SceneSchema.Wire.Writer

/-!
# The encoding of values

Values are written without their type; whoever reads them back knows it. Truth values are one byte,
0 or 1. Numbers, colors and vectors of fixed dimension are little-endian words. A text is its number
of bytes as a variable-length number, then its bytes in UTF-8. A reference is a byte that says
whether there is one, then class name and object name. A list is its number of elements as a
variable-length number, then the elements; in a list of references the byte that says whether there
is one is left out.

`Value.encode` writes, `readValue` reads a value of a given type. The two are separate definitions,
and `Scalar.leastSize` is the bound below which no element of a kind can be encoded, by which a
reader refuses a count that cannot be right before it reads the first element.
-/

namespace SceneSchema

open Wire

/-! ## Writing -/

/-- A text: its number of bytes, then the bytes. -/
def Wire.encodeText (s : String) : Bytes := varUInt (utf8Bytes s).length ++ utf8Bytes s

/-- A truth value: one byte, 0 or 1. -/
def Wire.encodeBool (b : Bool) : Bytes := [if b then 1 else 0]

/-- Class name and object name. -/
def ObjectRef.encode (r : ObjectRef) : Bytes := encodeText r.className ++ encodeText r.name

/-- The components in order. -/
def Floats.encode {n : Nat} (x : Floats n) : Bytes :=
  x.toList.flatMap fun c => littleEndian 4 c.bits.toNat

/-- The bytes of a datum of one kind. -/
def Scalar.encode : (k : Scalar) → k.Data → Bytes
  | .bool, b => encodeBool b
  | .int, n => littleEndian 4 (Int32.toUInt32 n).toNat
  | .long, n => littleEndian 8 (Int64.toUInt64 n).toNat
  | .float, x => littleEndian 4 (Single.bits x).toNat
  | .double, x => littleEndian 8 (Double.bits x).toNat
  | .string, s => encodeText s
  | .rgb, x => Floats.encode x
  | .rgba, x => Floats.encode x
  | .vec2f, x => Floats.encode x
  | .vec3f, x => Floats.encode x
  | .vec4f, x => Floats.encode x

/-- A list: the number of elements, then the elements. -/
def Wire.encodeList {α : Type} (item : α → Bytes) (items : List α) : Bytes :=
  varUInt items.length ++ items.flatMap item

/-- The bytes of data of one type. -/
def ValueType.encode : (t : ValueType) → t.Data → Bytes
  | .scalar k, d => k.encode d
  | .object, d =>
      match (d : Option ObjectRef) with
      | none => encodeBool false
      | some r => encodeBool true ++ r.encode
  | .vector k, d => encodeList k.encode d
  | .objects, d => encodeList ObjectRef.encode d

/-- The bytes of a value. -/
def Value.encode (v : Value) : Bytes := v.type.encode v.data

namespace Wire.Writer

/-- Append a value, without its type. -/
def enqueue (w : Writer) (v : Value) : Writer := w.append v.encode

/-- Append values in order. -/
def enqueueAll (w : Writer) (vs : List Value) : Writer := vs.foldl enqueue w

/-- What is appended for values is their encodings, one after the other. -/
theorem enqueueAll_eq (w : Writer) (vs : List Value) :
    w.enqueueAll vs = w.append (vs.flatMap Value.encode) := by
  unfold enqueueAll
  induction vs generalizing w with
  | nil => simp [append]
  | cons v vs ih => rw [List.foldl_cons, ih]; simp [enqueue, append]

end Wire.Writer

/-! ## Reading -/

/-- Class name and object name. -/
def ObjectRef.read : Read ObjectRef := do
  let className ← readText
  let name ← readText
  pure ⟨className, name⟩

/-- The component that starts at the given byte of an encoded group of components. -/
def Wire.componentAt (bytes : Bytes) (start : Nat) : Single :=
  ⟨UInt32.ofNat (ofLittleEndian ((bytes.drop start).take 4))⟩

/-- `n` components, read as one piece. -/
def Floats.read (n : Nat) : Read (Floats n) := do
  let bytes ← take (4 * n)
  pure (Vector.ofFn fun i => componentAt bytes (4 * i))

/-- A datum of one kind. -/
def Scalar.read : (k : Scalar) → Read k.Data
  | .bool => readBool
  | .int => do pure (UInt32.ofNat (← readFixed 4)).toInt32
  | .long => do pure (UInt64.ofNat (← readFixed 8)).toInt64
  | .float => do pure (⟨UInt32.ofNat (← readFixed 4)⟩ : Single)
  | .double => do pure (⟨UInt64.ofNat (← readFixed 8)⟩ : Double)
  | .string => readText
  | .rgb | .vec3f => Floats.read 3
  | .rgba | .vec4f => Floats.read 4
  | .vec2f => Floats.read 2

/-- The fewest bytes that a datum of the kind takes. -/
def Scalar.leastSize (k : Scalar) : Nat := k.encodedSize.getD 1

/-- The fewest bytes that a reference takes in a list. -/
def ObjectRef.leastSize : Nat := 2

/-- Data of one type. -/
def ValueType.read : (t : ValueType) → Read t.Data
  | .scalar k => k.read
  | .object => do
      if ← readBool then
        let r ← ObjectRef.read
        pure (some r)
      else pure (none : Option ObjectRef)
  | .vector k => readList k.leastSize k.read
  | .objects => readList ObjectRef.leastSize ObjectRef.read

/-- A value of the given type. -/
def readValue (t : ValueType) : Read Value := do
  let d ← t.read
  pure ⟨t, d⟩

/-- Values of the given types, in order. -/
def readValues : List ValueType → Read (List Value)
  | [] => pure []
  | t :: types => do
      let v ← readValue t
      let rest ← readValues types
      pure (v :: rest)

end SceneSchema

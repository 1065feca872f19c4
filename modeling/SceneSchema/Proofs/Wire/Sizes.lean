import SceneSchema.Proofs.Wire.Groups

/-!
# How many bytes a value takes

Three tables say how long values are: the one that types come with (`ValueType.encodedSize`), the
writer, and the reader. They are written down separately, each for all kinds of data.

* `Value.Takes` — the table in full, which counts bytes without writing any. Data of a type with a
  fixed size take that size; texts, references and lists are the sum of their parts.
  `takes_iff_length` — the writer takes just as many.
* `takesAtOnce_readValue` — the reader of a type of fixed size takes that size, whatever the bytes
  are.

**Main statement** (`size_exact`): the three agree, and a value leaves what was written before it as
it was.
-/

namespace SceneSchema

open Wire

/-! ### Sizes of what is written -/

/-- A text takes the groups of its number of bytes, and its bytes. -/
def Wire.textSize (s : String) : Nat := groupCount (utf8Bytes s).length + (utf8Bytes s).length

/-- A reference takes two texts. -/
def ObjectRef.size (r : ObjectRef) : Nat := textSize r.className + textSize r.name

/-- The value takes so many bytes. -/
inductive Value.Takes : Value → Nat → Prop where
  /-- The size of the type, if it has one. -/
  | fixed {v : Value} {n : Nat} (size : v.type.encodedSize = some n) : v.Takes n
  | text (s : String) : Takes ⟨.scalar .string, s⟩ (textSize s)
  /-- A missing reference is one byte that says so, -/
  | noRef : Takes ⟨.object, (none : Option ObjectRef)⟩ 1
  /-- and one that is there has the byte before it. -/
  | ref (r : ObjectRef) : Takes ⟨.object, some r⟩ (1 + r.size)
  /-- A list of data of fixed size: the groups of the number of elements, and the elements. -/
  | list {v : Value} {t : ValueType} {n count : Nat} (element : v.type.element? = some t)
      (size : t.encodedSize = some n) (length : v.length? = some count) :
      v.Takes (groupCount count + count * n)
  | texts (l : List String) :
      Takes ⟨.vector .string, l⟩ (groupCount l.length + (l.map textSize).sum)
  /-- In a list no reference is missing, and none has the byte before it. -/
  | refs (l : List ObjectRef) :
      Takes ⟨.objects, l⟩ (groupCount l.length + (l.map ObjectRef.size).sum)

/-- A text takes the bytes that its size says. -/
theorem Wire.length_encodeText (s : String) : (encodeText s).length = textSize s := by
  rw [encodeText, List.length_append, length_varUInt, textSize]

/-- A reference takes the bytes of its two texts. -/
theorem ObjectRef.length_encode (r : ObjectRef) : r.encode.length = r.size := by
  rw [encode, List.length_append, length_encodeText, length_encodeText, size]

/-- A list takes the groups of its count and the bytes of its items. -/
theorem Wire.length_encodeList {α : Type} {item : α → Bytes} {size : α → Nat}
    (each : ∀ a, (item a).length = size a) (l : List α) :
    (encodeList item l).length = groupCount l.length + (l.map size).sum := by
  rw [encodeList, List.length_append, length_varUInt, List.length_flatMap]
  simp only [each]

/-- If all items take the same, that is a product. -/
theorem Wire.length_encodeList_of_even {α : Type} {item : α → Bytes} {n : Nat}
    (each : ∀ a, (item a).length = n) (l : List α) :
    (encodeList item l).length = groupCount l.length + l.length * n := by
  rw [length_encodeList each, List.map_const', List.sum_replicate_nat]

/-- A float tuple takes four bytes for each component. -/
theorem Floats.length_encode {n : Nat} (x : Floats n) : x.encode.length = 4 * n := by
  rw [encode, List.length_flatMap]
  simp [Nat.mul_comm]

/-- The writer agrees with the size of a kind, if it has one. -/
theorem Scalar.length_encode {k : Scalar} {n : Nat} (size : k.encodedSize = some n) (d : k.Data) :
    (k.encode d).length = n := by
  cases k with
  | string => cases size
  | bool =>
    cases size
    rfl
  | int | long | float | double =>
    cases size
    exact length_littleEndian _ _
  | rgb | rgba | vec2f | vec3f | vec4f =>
    cases size
    exact Floats.length_encode _

namespace Value

variable {v : Value} {n : Nat}

/-- Each entry of the table is right, -/
theorem Takes.length_eq (h : v.Takes n) : v.encode.length = n := by
  cases h with
  | fixed size =>
    obtain ⟨t, d⟩ := v
    cases t with
    | scalar k => exact Scalar.length_encode size d
    | object | vector | objects => cases size
  | text s => exact length_encodeText s
  | noRef => rfl
  | ref r =>
    show (encodeBool true ++ r.encode).length = _
    rw [List.length_append, r.length_encode]
    rfl
  | @list _ t n count element size length =>
    obtain ⟨t', d⟩ := v
    cases t' with
    | vector k =>
      cases element
      cases length
      exact length_encodeList_of_even (fun a => Scalar.length_encode size a) d
    | objects =>
      cases element
      cases size
    | scalar | object => cases element
  | texts l => exact length_encodeList length_encodeText l
  | refs l => exact length_encodeList ObjectRef.length_encode l

/-- and no value is missing in it. -/
theorem exists_takes (v : Value) : ∃ n, v.Takes n := by
  obtain ⟨t, d⟩ := v
  cases t with
  | scalar k =>
    rcases size : k.encodedSize with _ | n
    · cases k <;> cases size
      exact ⟨_, .text d⟩
    · exact ⟨n, .fixed size⟩
  | object =>
    rcases d with _ | r
    · exact ⟨_, .noRef⟩
    · exact ⟨_, .ref r⟩
  | vector k =>
    rcases size : k.encodedSize with _ | n
    · cases k <;> cases size
      exact ⟨_, .texts d⟩
    · exact ⟨_, .list rfl size rfl⟩
  | objects => exact ⟨_, .refs d⟩

/-- **The writer takes as many bytes as the table says.** -/
theorem takes_iff_length : v.Takes n ↔ v.encode.length = n := by
  constructor
  · exact Takes.length_eq
  · rintro rfl
    obtain ⟨n, takes⟩ := v.exists_takes
    rwa [takes.length_eq]

end Value

/-! ### Buffers while they are open -/

namespace Wire.Writer

/-- The buffer that is closed without a length is the open buffer as it stands. What is appended
comes at its end. -/
theorem finishUnsized_append (w : Writer) (bytes : Bytes) :
    (w.append bytes).finishUnsized = w.finishUnsized ++ bytes := by
  rw [append, finishUnsized, finishUnsized, List.append_assoc]

/-- A buffer that is finished without a size has a header of zeros. -/
theorem take_header_finishUnsized (w : Writer) :
    w.finishUnsized.take headerSize = List.replicate headerSize 0 := by
  rw [finishUnsized, headerSize, List.take_left' (length_littleEndian 8 0)]
  decide

/-- Closing it with its length replaces the header. -/
theorem finish_eq (w : Writer) :
    w.finish = littleEndian headerSize w.size ++ w.finishUnsized.drop headerSize := by
  rw [finish, finishUnsized, headerSize, List.drop_left' (length_littleEndian 8 0)]

end Wire.Writer

/-- **Writer, reader and types agree on sizes.** A value extends the open buffer by the bytes that
the table of sizes says, and leaves what is there, the zero header included. Closing the buffer
replaces the header by the total length, which it holds if 64 bits can. And where a type has a
size, reading a value of the type fails for lack of data exactly if fewer bytes are left, and then
does not move; otherwise it moves past as many bytes, whatever they are. -/
theorem size_exact (w : Writer) (v : Value) :
    (∀ n, v.Takes n ↔ (w.enqueue v).size = w.size + n) ∧
    (w.enqueue v).finishUnsized = w.finishUnsized ++ v.encode ∧
    w.finishUnsized.take headerSize = List.replicate headerSize 0 ∧
    w.finish = littleEndian headerSize w.size ++ w.finishUnsized.drop headerSize ∧
    (w.size < 2 ^ 64 → ofLittleEndian (w.finish.take headerSize) = w.finish.length) ∧
    ∀ (t : ValueType) (n : Nat), t.encodedSize = some n → ∀ r : Reader,
      ((∃ need offset available,
        (readValue t r).1 = .error (.truncated need offset available)) ↔ r.remaining < n) ∧
      (r.remaining < n → readValue t r = (.error (.truncated n r.position r.remaining), r)) ∧
      (n ≤ r.remaining → (readValue t r).2 = r.advance n) := by
  refine ⟨?_, w.finishUnsized_append v.encode, w.take_header_finishUnsized, w.finish_eq, ?_, ?_⟩
  · intro n
    rw [Value.takes_iff_length, Writer.enqueue, Writer.size_append, Nat.add_left_cancel_iff]
  · exact Writer.header_finish
  · intro t n size r
    have atOnce := takesAtOnce_readValue size
    exact ⟨atOnce.truncated_iff r, atOnce.lacking r, atOnce.moves r⟩

/-- The statement for a list of two references behind a truth value, and for the reader of a truth
value that is none. -/
theorem size_exact_references :
    let refs : Value := ⟨.objects, ([⟨"Light", "é"⟩, ⟨"", "b"⟩] : List ObjectRef)⟩
    let w := Writer.empty.enqueue ⟨.scalar .bool, true⟩
    refs.Takes 13 ∧ (w.enqueue refs).size = 22 ∧
    ofLittleEndian (w.finish.take headerSize) = 9 ∧
    (readValue (.scalar .bool) ⟨0, 8, [7, 8], true⟩).2 = ⟨0, 9, [8], true⟩ ∧
    readValue (.scalar .double) ⟨0, 8, [7, 8], true⟩ =
      (.error (.truncated 8 8 2), ⟨0, 8, [7, 8], true⟩) := by
  intro refs w
  obtain ⟨sizes, -, -, -, header, reads⟩ := size_exact w refs
  have grown : (w.enqueue refs).size = 22 := by decide +kernel
  obtain ⟨-, -, moves⟩ := reads (.scalar .bool) 1 rfl ⟨0, 8, [7, 8], true⟩
  obtain ⟨-, lacks, -⟩ := reads (.scalar .double) 8 rfl ⟨0, 8, [7, 8], true⟩
  refine ⟨(sizes 13).2 grown, grown, ?_, moves (by decide), lacks (by decide)⟩
  exact header (by decide)

end SceneSchema

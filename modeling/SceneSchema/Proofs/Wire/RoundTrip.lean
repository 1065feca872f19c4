import SceneSchema.Proofs.Wire.Acceptance
import SceneSchema.Proofs.Wire.Buffer

/-!
# What was written is read back

Writing gives sentences of the format (`Writes`, one lemma for each writer down to
`writes_value`), provided that they have fewer than `2 ^ 64` bytes, so that every count is a number
that the format can write. With the acceptance of all sentences this gives the main statement
`readValue_written`: **values that were written one after the other are read back bit for bit, and
the reader stands after each of them where the writer stood.**

The writer and the reader of a type share no code, so this goes through the format for each.
-/

namespace SceneSchema

open Wire

namespace Wire

variable {α : Type}

/-- Writing gives a sentence for what is written, unless it gives too many bytes. -/
def Writes (encode : α → Bytes) (format : Bytes → α → Prop) : Prop :=
  ∀ a, (encode a).length < 2 ^ 64 → format (encode a) a

/-! ### Numbers -/

/-- The little-endian bytes of a number that fits are a word for it. -/
theorem isWord_littleEndian {width n : Nat} (h : n < 256 ^ width) :
    IsWord width (littleEndian width n) n := by
  rw [isWord_iff, length_littleEndian, ofLittleEndian_littleEndian]
  exact ⟨rfl, Nat.mod_eq_of_lt h⟩

/-- Whatever stands for words that fit is written as such a word. -/
theorem writes_word {width : Nat} {toWord : α → Nat} (fits : ∀ a, toWord a < 256 ^ width) :
    Writes (fun a => littleEndian width (toWord a))
      (fun bytes a => IsWord width bytes (toWord a)) :=
  fun a _ => isWord_littleEndian (fits a)

/-- A byte below 128 is its own group, and one that is flagged is its group and the flag. -/
theorem toNat_flagged (n : Nat) : (UInt8.ofNat (n % 128 + 128)).toNat = n % 128 + 128 := by
  rw [UInt8.toNat_ofNat']
  omega

/-- A group that ends a number is the byte itself. -/
theorem toNat_plain {n : Nat} (h : n < 128) : (UInt8.ofNat n).toNat = n := by
  rw [UInt8.toNat_ofNat']
  omega

/-- The bytes written for a number are groups, by induction along the writer. -/
theorem isGrouped_varUInt (n : Nat) : IsGrouped (varUInt n) := by
  fun_induction varUInt n with
  | case1 n small => exact IsGrouped.last (by rwa [toNat_plain small])
  | case2 n big ih => exact IsGrouped.more (by rw [toNat_flagged]; omega) ih

/-- The groups written for a number have its value. -/
theorem groupValue_varUInt (n : Nat) : groupValue (varUInt n) = n := by
  fun_induction varUInt n with
  | case1 n small =>
    rw [groupValue_singleton, toNat_plain small]
    exact Nat.mod_eq_of_lt small
  | case2 n big ih =>
    rw [groupValue_cons, toNat_flagged, ih]
    omega

/-- A number below `128 ^ n` is written in at most `n` groups. -/
theorem length_varUInt_le {n left : Nat} (h : n < 128 ^ (left + 1)) :
    (varUInt n).length ≤ left + 1 := by
  induction left generalizing n with
  | zero =>
    rw [varUInt_of_lt (by omega)]
    exact Nat.le_refl 1
  | succ left ih =>
    by_cases small : n < 128
    · rw [varUInt_of_lt small, List.length_singleton]
      omega
    · rw [varUInt_of_ge (by omega), List.length_cons]
      refine Nat.succ_le_succ (ih ?_)
      rw [pow_succ] at h
      omega

/-- A number of at most 64 bits is written as the format wants it. -/
theorem isVarUInt_varUInt {n : Nat} (h : n < 2 ^ 64) : IsVarUInt (varUInt n) n where
  grouped := isGrouped_varUInt n
  length_le := length_varUInt_le (show n < 128 ^ (9 + 1) from h.trans (by norm_num))
  value := groupValue_varUInt n
  lt := h

/-! ### Truth values, texts and lists -/

/-- A truth value is written as the format wants it. -/
theorem writes_bool : Writes encodeBool IsBool := by
  intro b short
  cases b with
  | false => exact IsBool.no
  | true => exact IsBool.yes

/-- A text is written as its length and its bytes, as the format wants it. -/
theorem writes_text : Writes encodeText IsText := by
  intro s short
  rw [encodeText, List.length_append] at short
  exact ⟨_, _, rfl, isVarUInt_varUInt (by omega), utf8Bytes_eq_flatMap s⟩

/-- Items are written as the format wants them if each of them is. -/
theorem Writes.items {encode : α → Bytes} {item : Bytes → α → Prop} (h : Writes encode item) :
    Writes (List.flatMap encode) (IsItems item) := by
  intro as short
  induction as with
  | nil => exact IsItems.nil
  | cons a as ih =>
    rw [List.flatMap_cons, List.length_append] at short
    exact IsItems.cons (h a (by omega)) (ih (by omega))

/-- A list is written as the format wants it if its elements are, and each takes a byte at least:
then the number of elements is no larger than the number of bytes. -/
theorem Writes.list {encode : α → Bytes} {item : Bytes → α → Prop} (h : Writes encode item)
    (room : ∀ {bytes a}, item bytes a → 1 ≤ bytes.length) :
    Writes (encodeList encode) (IsList item) := by
  intro as short
  rw [encodeList, List.length_append] at short
  have content := h.items as (by omega)
  have count := content.mul_le_length room
  rw [Nat.mul_one] at count
  exact ⟨_, _, rfl, isVarUInt_varUInt (by omega), content⟩

/-- The components of a float tuple are written as words. -/
theorem writes_components {n : Nat} : Writes (Floats.encode (n := n)) IsComponents := by
  intro x short
  have word : Writes (fun c : Single => littleEndian 4 c.bits.toNat)
      (fun piece c => IsWord 4 piece c.bits.toNat) := writes_word fun c => c.bits.toNat_lt
  exact word.items x.toList short

/-- A reference is written as its two texts. -/
theorem writes_ref : Writes ObjectRef.encode IsRef := by
  intro r short
  rw [ObjectRef.encode, List.length_append] at short
  exact ⟨_, _, rfl, writes_text _ (by omega), writes_text _ (by omega)⟩

/-! ### Values -/

/-- Data of each kind is written as the format wants it. -/
theorem writes_scalar (k : Scalar) : Writes k.encode k.Sentence := by
  cases k with
  | bool => exact writes_bool
  | int => exact writes_word fun n => (Int32.toUInt32 n).toNat_lt
  | long => exact writes_word fun n => (Int64.toUInt64 n).toNat_lt
  | float => exact writes_word fun x => (Single.bits x).toNat_lt
  | double => exact writes_word fun x => (Double.bits x).toNat_lt
  | string => exact writes_text
  | rgb | vec3f => exact writes_components (n := 3)
  | rgba | vec4f => exact writes_components (n := 4)
  | vec2f => exact writes_components (n := 2)

/-- Nothing that a list can hold is written in no bytes. -/
theorem one_le_leastSize (k : Scalar) : 1 ≤ k.leastSize := by cases k <;> decide

/-- Data of each type is written as the format wants it. -/
theorem writes_type (t : ValueType) : Writes t.encode t.Sentence := by
  cases t with
  | scalar k => exact writes_scalar k
  | object =>
    intro d short
    rcases (d : Option ObjectRef) with _ | r
    · exact IsBool.no
    · have total : (ValueType.encode .object (some r)).length = 1 + r.encode.length :=
        Nat.add_comm _ _
      exact ⟨encodeBool true, r.encode, rfl, IsBool.yes, writes_ref r (by omega)⟩
  | vector k =>
    exact (writes_scalar k).list fun h => (one_le_leastSize k).trans h.leastSize_le
  | objects =>
    exact writes_ref.list fun h => (show 1 ≤ ObjectRef.leastSize by decide).trans h.leastSize_le

/-- A value is written as the format of its type wants it. -/
theorem spelledBy_encode {v : Value} (short : v.encode.length < 2 ^ 64) : v.SpelledBy v.encode :=
  writes_type v.type v.data short

/-- What is written for values one after the other is a record of their types. -/
theorem record_encode {vs : List Value} (short : (vs.flatMap Value.encode).length < 2 ^ 64) :
    Record (vs.map Value.type) (vs.flatMap Value.encode) vs := by
  induction vs with
  | nil => exact Record.nil
  | cons v vs ih =>
    rw [List.flatMap_cons, List.length_append] at short
    exact Record.cons (spelledBy_encode (by omega)) (ih (by omega))

/-! ### The main statement -/

/-- The reader of a buffer behind the first `i` of the values that were written to it. -/
def Reader.behind (start : Reader) (vs : List Value) (i : Nat) : Reader :=
  start.advance ((vs.take i).flatMap Value.encode).length

/-- Behind no values, the reader is where it starts. -/
theorem Reader.behind_zero (start : Reader) (vs : List Value) : start.behind vs 0 = start := rfl

/-- Behind all values, the reader has moved over all that was written. -/
theorem Reader.behind_length (start : Reader) (vs : List Value) :
    start.behind vs vs.length = start.advance (vs.flatMap Value.encode).length := by
  rw [behind, List.take_length]

/-- Of pieces written one after the other, each stands behind those before it. -/
theorem piece_ahead (encode : α → Bytes) {xs : List α} {i : Nat} (h : i < xs.length) :
    encode xs[i] <+: (xs.flatMap encode).drop ((xs.take i).flatMap encode).length := by
  -- the whole is what comes earlier, the piece, and what comes later
  have split : xs.flatMap encode = (xs.take i).flatMap encode ++
      (encode xs[i] ++ (xs.drop (i + 1)).flatMap encode) := by
    rw [← List.flatMap_cons, ← List.drop_eq_getElem_cons h, ← List.flatMap_append,
      List.take_append_drop]
  rw [split, List.drop_left]
  exact List.prefix_append _ _

/-- One more item adds its own bytes to what is written. -/
theorem length_flatMap_take_succ (encode : α → Bytes) {xs : List α} {i : Nat}
    (h : i < xs.length) : ((xs.take (i + 1)).flatMap encode).length =
      ((xs.take i).flatMap encode).length + (encode xs[i]).length := by
  rw [List.take_succ_eq_append_getElem h, List.flatMap_append, List.length_append,
    List.flatMap_singleton]

/-- Reading one value takes the reader behind it. -/
theorem readValue_behind {start : Reader} {vs : List Value}
    (rest : start.rest = vs.flatMap Value.encode)
    (short : (vs.flatMap Value.encode).length < 2 ^ 64) {i : Nat} (h : i < vs.length) :
    readValue vs[i].type (start.behind vs i) = (.ok vs[i], start.behind vs (i + 1)) := by
  have ahead : vs[i].encode <+: (start.behind vs i).rest := by
    rw [Reader.behind, Reader.rest_advance, rest]
    exact piece_ahead Value.encode h
  have part : vs[i].encode.length < 2 ^ 64 := by
    have total := (piece_ahead Value.encode h).length_le
    rw [List.length_drop] at total
    omega
  rw [(recognizes_readValue _).complete ahead part ⟨rfl, spelledBy_encode part⟩, Reader.behind,
    Reader.advance_advance, Reader.behind, length_flatMap_take_succ Value.encode h]

end Wire

/-- **What was written is read back, bit for bit.** Values that are appended in order to an empty
buffer, closed with its length in the header or without, are read back from it one by one, whether
the header is checked or not; behind each of them the reader stands where the writer stood, and
behind the last it is done. -/
theorem readValue_written (vs : List Value) (data : Bytes) (opener : Bytes → Except Error Reader)
    (fits : (Writer.empty.enqueueAll vs).size < 2 ^ 64)
    (closed : data = (Writer.empty.enqueueAll vs).finish ∨
      data = (Writer.empty.enqueueAll vs).finishUnsized)
    (known : opener = Reader.openChecked ∨ opener = Reader.openUnchecked) :
    ∃ cursor : Nat → Reader,
      opener data = .ok (cursor 0) ∧
      (∀ (i : Nat) (h : i < vs.length),
        readValue vs[i].type (cursor i) = (.ok vs[i], cursor (i + 1))) ∧
      (∀ i ≤ vs.length, (cursor i).position = (Writer.empty.enqueueAll (vs.take i)).size) ∧
      (cursor vs.length).isDone = true ∧
      readValues (vs.map Value.type) (cursor 0) = (.ok vs, cursor vs.length) := by
  have closes : (Writer.empty.enqueueAll vs).ClosesTo data := closed
  obtain ⟨checked, opens⟩ := closes.opened fits known
  have body : ∀ us : List Value, (Writer.empty.enqueueAll us).body = us.flatMap Value.encode := by
    intro us
    rw [Writer.enqueueAll_eq]
    exact List.nil_append _
  have rest : (Reader.behindHeader data checked).rest = vs.flatMap Value.encode := by
    rw [← body, ← closes.drop_header]
    rfl
  have short : (vs.flatMap Value.encode).length < 2 ^ 64 := by
    rw [Writer.size, body] at fits
    omega
  refine ⟨(Reader.behindHeader data checked).behind vs, opens, fun i h => ?_, fun i _ => ?_, ?_, ?_⟩
  · exact readValue_behind rest short h
  · rw [Reader.behind, Reader.position_advance, Writer.size, body]
    rfl
  · rw [Reader.isDone_iff, Reader.behind_length, Reader.remaining_advance, Reader.remaining, rest,
      Nat.sub_self]
  · have whole : vs.flatMap Value.encode <+: (Reader.behindHeader data checked).rest :=
      rest ▸ List.prefix_rfl
    rw [Reader.behind_zero, Reader.behind_length]
    exact (recognizes_readValues _).complete whole short (record_encode short)

/-- Values that are easy to spoil on the way: a NaN with a payload, a reference, texts of no, one
and two bytes, negative zero. -/
def delicateValues : List Value :=
  [⟨.scalar .float, (⟨0xffc00001⟩ : Single)⟩, ⟨.object, some (⟨"Light", "key"⟩ : ObjectRef)⟩,
    ⟨.vector .string, ["", "a", "é"]⟩, ⟨.scalar .double, (⟨0x8000000000000000⟩ : Double)⟩]

/-- The statement at delicate values, in a buffer that does not record its length. -/
theorem readValues_delicateValues :
    (Writer.empty.enqueueAll delicateValues).size < 2 ^ 64 ∧
      ∃ first last,
        Reader.openChecked (Writer.empty.enqueueAll delicateValues).finishUnsized = .ok first ∧
        readValues (delicateValues.map Value.type) first = (.ok delicateValues, last) ∧
        last.position = 38 ∧ last.isDone = true := by
  have fits : (Writer.empty.enqueueAll delicateValues).size < 2 ^ 64 := by decide +kernel
  obtain ⟨cursor, opens, -, places, done, reads⟩ :=
    readValue_written delicateValues _ _ fits (.inr rfl) (.inl rfl)
  refine ⟨fits, cursor 0, cursor delicateValues.length, opens, reads, ?_, done⟩
  rw [places delicateValues.length (Nat.le_refl _)]
  decide +kernel

end SceneSchema

import SceneSchema.Proofs.Wire.RoundTrip

/-!
# The writer writes the shortest sentence

Several sentences can denote the same data: a count may be padded with groups of zeros. Among them
the one that is written is the shortest, and it is the only one of its length
(`Condenses`, one lemma for each shape of sentence down to `condenses_value` and
`condenses_record`). **So padding is the only freedom of the format**: take it away, by asking for
the written length, and one sentence is left.
-/

namespace SceneSchema

open Wire

namespace Wire

variable {α : Type}

/-- No longer, and the same if as long. -/
def Condenses (short long : Bytes) : Prop :=
  short.length ≤ long.length ∧ (short.length = long.length → short = long)

/-- Every sentence condenses itself. -/
theorem Condenses.refl (bytes : Bytes) : Condenses bytes bytes := ⟨Nat.le_refl _, fun _ => rfl⟩

/-- Two parts condense if each does: no part can make up for the other. -/
theorem Condenses.append {short₁ long₁ short₂ long₂ : Bytes} (first : Condenses short₁ long₁)
    (second : Condenses short₂ long₂) : Condenses (short₁ ++ short₂) (long₁ ++ long₂) := by
  have le₁ := first.1
  have le₂ := second.1
  unfold Condenses
  rw [List.length_append, List.length_append]
  refine ⟨by omega, ?_⟩
  intro total
  rw [first.2 (by omega), second.2 (by omega)]

/-- What is written is the shortest sentence for what it denotes, and the only one so short. -/
def WritesShortest (encode : α → Bytes) (format : Bytes → α → Prop) : Prop :=
  ∀ ⦃bytes : Bytes⦄ ⦃a : α⦄, format bytes a → Condenses (encode a) bytes

/-! ### Numbers -/

/-- The only word of a given width for a number is the one that the writer writes. -/
theorem IsWord.eq_littleEndian {width n : Nat} {bytes : Bytes} (h : IsWord width bytes n) :
    bytes = littleEndian width n := by
  obtain ⟨rfl, rfl⟩ := isWord_iff.1 h
  exact (littleEndian_ofLittleEndian bytes).symm

/-- A word has one sentence. -/
theorem writesShortest_word {width : Nat} (toWord : α → Nat) :
    WritesShortest (fun a => littleEndian width (toWord a))
      (fun bytes a => IsWord width bytes (toWord a)) := by
  intro bytes a word
  rw [word.eq_littleEndian]
  exact Condenses.refl _

/-- The induction follows the groups. A flagged group either is followed by nothing but zeros, and
then the number needs only that one group, or it is written as it stands. -/
theorem condenses_varUInt {bytes : Bytes} (grouped : IsGrouped bytes) :
    Condenses (varUInt (groupValue bytes)) bytes := by
  induction grouped with
  | @last b plain =>
    rw [groupValue_singleton, Nat.mod_eq_of_lt plain, varUInt_of_lt plain, UInt8.ofNat_toNat]
    exact Condenses.refl _
  | @more b rest flagged groups ih =>
    have byte := b.toNat_lt
    rw [groupValue_cons]
    by_cases zeros : groupValue rest = 0
    · have some := groups.length_pos
      rw [zeros, varUInt_of_lt (by omega)]
      unfold Condenses
      rw [List.length_singleton, List.length_cons]
      exact ⟨by omega, fun same => by omega⟩
    · have low : (b.toNat % 128 + 128 * groupValue rest) % 128 + 128 = b.toNat := by omega
      have high : (b.toNat % 128 + 128 * groupValue rest) / 128 = groupValue rest := by omega
      rw [varUInt_of_ge (by omega), low, high, UInt8.ofNat_toNat]
      exact (Condenses.refl [b]).append ih

/-- A number of variable width is written in the fewest groups. -/
theorem writesShortest_varUInt : WritesShortest varUInt IsVarUInt := by
  intro bytes n number
  rw [← number.value]
  exact condenses_varUInt number.grouped

/-! ### Truth values, texts and lists -/

/-- A truth value has one sentence, of one byte. -/
theorem writesShortest_bool : WritesShortest encodeBool IsBool := by
  intro bytes b sentence
  cases sentence with
  | no => exact Condenses.refl _
  | yes => exact Condenses.refl _

/-- Of a text only the length can be padded, and the writer does not pad it. -/
theorem writesShortest_text : WritesShortest encodeText IsText := by
  intro bytes s sentence
  obtain ⟨count, body, rfl, number, content⟩ := sentence
  rw [encodeText, utf8Bytes_eq_flatMap, ← content]
  exact (writesShortest_varUInt number).append (Condenses.refl body)

/-- If every item is written in the shortest way, so are the items one after the other. -/
theorem WritesShortest.items {encode : α → Bytes} {item : Bytes → α → Prop}
    (h : WritesShortest encode item) : WritesShortest (List.flatMap encode) (IsItems item) := by
  intro bytes as sentence
  induction sentence with
  | nil => exact Condenses.refl []
  | cons head tail ih =>
    rw [List.flatMap_cons]
    exact (h head).append ih

/-- A list is written in the shortest way if its items are: its count is not padded either. -/
theorem WritesShortest.list {encode : α → Bytes} {item : Bytes → α → Prop}
    (h : WritesShortest encode item) : WritesShortest (encodeList encode) (IsList item) := by
  intro bytes as sentence
  obtain ⟨count, body, rfl, number, content⟩ := sentence
  exact (writesShortest_varUInt number).append (h.items content)

/-- The components of a float tuple are words, and words have one sentence. -/
theorem writesShortest_components {n : Nat} :
    WritesShortest (Floats.encode (n := n)) IsComponents := by
  intro bytes x sentence
  have word : WritesShortest (fun c : Single => littleEndian 4 c.bits.toNat)
      (fun piece c => IsWord 4 piece c.bits.toNat) := writesShortest_word _
  exact word.items sentence

/-- A reference consists of two texts. -/
theorem writesShortest_ref : WritesShortest ObjectRef.encode IsRef := by
  intro bytes r sentence
  obtain ⟨first, second, rfl, className, name⟩ := sentence
  exact (writesShortest_text className).append (writesShortest_text name)

/-! ### Values -/

/-- Data of each of the eleven kinds is written in the shortest way. -/
theorem writesShortest_scalar (k : Scalar) : WritesShortest k.encode k.Sentence := by
  cases k with
  | bool => exact writesShortest_bool
  | int => exact writesShortest_word (fun n : Int32 => n.toUInt32.toNat)
  | long => exact writesShortest_word (fun n : Int64 => n.toUInt64.toNat)
  | float => exact writesShortest_word (fun x : Single => x.bits.toNat)
  | double => exact writesShortest_word (fun x : Double => x.bits.toNat)
  | string => exact writesShortest_text
  | rgb | vec3f => exact writesShortest_components (n := 3)
  | rgba | vec4f => exact writesShortest_components (n := 4)
  | vec2f => exact writesShortest_components (n := 2)

/-- Data of each type is written in the shortest way, optional references and lists included. -/
theorem writesShortest_type (t : ValueType) : WritesShortest t.encode t.Sentence := by
  cases t with
  | scalar k => exact writesShortest_scalar k
  | object =>
    intro bytes d sentence
    rcases (d : Option ObjectRef) with _ | r
    · exact writesShortest_bool sentence
    · obtain ⟨presence, body, rfl, flag, reference⟩ := sentence
      exact (writesShortest_bool flag).append (writesShortest_ref reference)
  | vector k => exact (writesShortest_scalar k).list
  | objects => exact writesShortest_ref.list

/-- The bytes that are written for a value condense all that spell it. -/
theorem condenses_value {v : Value} {bytes : Bytes} (spelled : v.SpelledBy bytes) :
    Condenses v.encode bytes := writesShortest_type v.type spelled

/-- The bytes that are written for a record of values condense every record of them. -/
theorem condenses_record {types : List ValueType} {bytes : Bytes} {vs : List Value}
    (record : Record types bytes vs) : Condenses (vs.flatMap Value.encode) bytes := by
  induction record with
  | nil => exact Condenses.refl []
  | cons head tail ih =>
    rw [List.flatMap_cons]
    exact (condenses_value head).append ih

end Wire

end SceneSchema

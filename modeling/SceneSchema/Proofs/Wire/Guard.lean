import SceneSchema.Proofs.Wire.Storage

/-!
# What the guard of a count costs, and what it is worth

Whoever reads a list first reads how many elements it has, and believes it only if the bytes ahead
can hold so many: a count that is too large is refused before room is made for the elements.

* **It costs nothing.** `Element.readVectorUnguarded` believes every count and finds out by reading.
  With the guard and without it the same lists are read (`readList_eq_ok_iff`), and what the guard
  refuses fails without it too (`exists_error_of_refused`). The reason is `Element.takesEach_read`:
  elements that were read did take the bytes that the guard asks for, whichever of the twelve kinds
  of lists they are of. For a text the guard goes unnoticed, down to the error
  (`readTextUnguarded_eq`).
* **It is worth a bound.** `SceneSchema.Proofs.Wire.Storage` makes room for a list as a machine
  does. It is never made for more elements than there are bytes ahead, and the product that the
  guard compares is the true one (`Element.room_of_reserve_ok`).

**Main statement**: `Element.guard_exact`, for every kind of list and every reader.
-/

namespace SceneSchema

open Wire

namespace Wire

variable {α : Type}

/-! ### Refusals -/

section refusals

variable {least n : Nat} {r s : Reader} {e : Error}

/-- The guard reads nothing. -/
theorem snd_readCount (number : readVarUInt r = (.ok n, s)) : (readCount least r).2 = s := by
  rw [readCount_of_number number]
  split_ifs
  · rfl
  · rfl
  · rfl

/-- What is refused, and what the refusal says. On a machine a buffer has fewer bytes than a word
can count, so a product that is no word is too large for any buffer. -/
theorem readCount_eq_error_iff (number : readVarUInt r = (.ok n, s)) (fits : s.remaining < 2 ^ 64) :
    (readCount least r).1 = .error e ↔ s.remaining < n * least ∧
      e = if n * least < 2 ^ 64 then .truncated (n * least) s.position s.remaining
        else .invalidData (.countTooLarge n s.position) := by
  rw [readCount_of_number number, @eq_comm _ e]
  by_cases huge : 2 ^ 64 ≤ n * least
  · have lacking : s.remaining < n * least := by omega
    rw [if_pos huge, if_neg (Nat.not_lt_of_le huge), Except.error.injEq]
    simp [lacking]
  · rw [if_neg huge, if_pos (Nat.lt_of_not_le huge)]
    by_cases enough : n * least ≤ s.remaining
    · simp [enough]
    · simp [enough, Nat.lt_of_not_le enough]

/-- Behind a number no more is left than before it. -/
theorem remaining_le_of_readVarUInt (number : readVarUInt r = (.ok n, s)) :
    s.remaining ≤ r.remaining := by
  obtain ⟨bytes, -, -, rfl⟩ := recognizes_readVarUInt.sound number
  rw [Reader.remaining_advance]
  exact Nat.sub_le _ _

end refusals

/-! ### Texts without the guard -/

/-- What is behind the number of bytes of a text. -/
def readTextBody (length : Nat) : Read String := do
  let r ← Read.look
  let bytes ← take length
  match textOfUtf8? bytes with
  | some text => pure text
  | none => Read.fail (.invalidData (.notUtf8 r.position (Utf8Fault.ofBytes bytes)))

/-- A text whose number of bytes is believed. -/
def readTextUnguarded : Read String := do
  readTextBody (← readVarUInt)

/-- **A text does without the guard**: if bytes are lacking, taking them fails in the same way. -/
theorem readTextUnguarded_eq : readTextUnguarded = readText := by
  have guarded : readText = readCount 1 >>= readTextBody := rfl
  rw [guarded]
  funext r
  rcases number : readVarUInt r with ⟨e | n, s⟩
  · have failed : readCount 1 r = (.error e, s) := Read.bind_of_error number
    exact (Read.bind_of_error number).trans (Read.bind_of_error failed).symm
  · have believed : readTextUnguarded r = readTextBody n s := Read.bind_of_ok number
    have count : readCount 1 r = _ := readCount_of_number number
    obtain ⟨v, -, rfl⟩ := readVarUInt_eq_ok_iff_word.1 number
    -- a unit of a text is one byte, so the product is the number, and a number is a word
    rw [Nat.mul_one, if_neg (Nat.not_le_of_lt v.toNat_lt)] at count
    rw [believed]
    by_cases enough : v.toNat ≤ s.remaining
    · rw [if_pos enough] at count
      exact (Read.bind_of_ok count).symm
    · have lacking : take v.toNat s = (.error (.truncated v.toNat s.position s.remaining), s) := by
        rw [take_apply, if_neg enough]
      rw [if_neg enough] at count
      rw [Read.bind_of_error count, readTextBody, Read.bind_of_ok (Read.look_apply s)]
      exact Read.bind_of_error lacking

/-! ### Lists without the guard -/

/-- A list whose number of elements is believed. -/
def readListUnguarded (item : Read α) : Read (List α) := do
  readTimes item (← readVarUInt)

/-- However many elements are read, each of them takes at least so many bytes. -/
def TakesEach (item : Read α) (least : Nat) : Prop :=
  ∀ n r items s, readTimes item n r = (.ok items, s) → n * least ≤ r.remaining

section lists

variable {least : Nat} {item : Read α} {r s : Reader}

/-- So it is if no sentence for an element is shorter. -/
theorem Recognizes.takesEach {P : Bytes → α → Prop} (h : Recognizes item P)
    (room : ∀ {bytes a}, P bytes a → least ≤ bytes.length) : TakesEach item least := by
  intro n r items s run
  obtain ⟨bytes, ahead, sentence, -⟩ := (recognizes_readTimes h n).sound run
  obtain ⟨rfl, elements⟩ := sentence
  exact (elements.mul_le_length room).trans ahead.length_le

/-- **The guard refuses no list**, if its elements take the bytes that the guard asks for. -/
theorem readList_eq_ok_iff {items : List α} (takes : TakesEach item least)
    (fits : r.remaining < 2 ^ 64) :
    readList least item r = (.ok items, s) ↔ readListUnguarded item r = (.ok items, s) := by
  unfold readList readListUnguarded
  rw [Read.bind_eq_ok_iff, Read.bind_eq_ok_iff]
  constructor
  · intro guarded
    obtain ⟨n, r₁, count, run⟩ := guarded
    exact ⟨n, r₁, (readCount_eq_ok_iff.1 count).1, run⟩
  · intro believed
    obtain ⟨n, r₁, number, run⟩ := believed
    -- what was read was ahead when the number had been read, and there the guard looks
    have enough := takes n r₁ items s run
    have ahead := remaining_le_of_readVarUInt number
    refine ⟨n, r₁, ?_, run⟩
    apply readCount_eq_ok_iff.2
    exact ⟨number, by omega, enough⟩

/-- **What the guard refuses fails without it**, sooner or later. -/
theorem exists_error_of_refused {e : Error} (takes : TakesEach item least)
    (fits : r.remaining < 2 ^ 64) (refused : readCount least r = (.error e, s)) :
    ∃ e' s', readListUnguarded item r = (.error e', s') := by
  rcases believed : readListUnguarded item r with ⟨e' | items, s'⟩
  · exact ⟨e', s', rfl⟩
  · have guarded := (readList_eq_ok_iff takes fits).2 believed
    have failed : readList least item r = (.error e, s) := Read.bind_of_error refused
    rw [failed] at guarded
    cases guarded

/-- What the guard lets pass is read as it is without it, well or badly. -/
theorem readList_of_count {n : Nat} (count : readCount least r = (.ok n, s)) :
    readList least item r = readListUnguarded item r := by
  have number := (readCount_eq_ok_iff.1 count).1
  exact (Read.bind_of_ok count).trans (Read.bind_of_ok number).symm

end lists

end Wire

/-! ### The twelve kinds of lists -/

/-- What lists are lists of. -/
inductive Element where
  | datum (kind : Scalar)
  /-- A reference, which is never missing in a list. -/
  | ref
  deriving DecidableEq, Repr

namespace Element

/-- The type of the lists of it. -/
def vector : Element → ValueType
  | datum k => .vector k
  | ref => .objects

/-- Every list is a list of something. -/
theorem isVector_iff {t : ValueType} : t.isVector = true ↔ ∃ e : Element, t = e.vector := by
  constructor
  · intro list
    cases t with
    | vector k => exact ⟨datum k, rfl⟩
    | objects => exact ⟨ref, rfl⟩
    | scalar | object => cases list
  · rintro ⟨_ | _, rfl⟩
    · rfl
    · rfl

/-- The data of one element. -/
def Data : Element → Type
  | datum k => k.Data
  | ref => ObjectRef

/-- A list as a value. -/
def listOf : (e : Element) → List e.Data → Value
  | datum k, items => ⟨.vector k, items⟩
  | ref, items => ⟨.objects, items⟩

/-- The fewest bytes that an element takes. -/
def leastBytes : Element → UInt64
  | datum .bool => 1
  | datum .int => 4
  | datum .long => 8
  | datum .float => 4
  | datum .double => 8
  | datum .string => 1
  | datum .rgb => 12
  | datum .rgba => 16
  | datum .vec2f => 8
  | datum .vec3f => 12
  | datum .vec4f => 16
  | ref => 2

/-- As a word it is the number that a list of the kind is read with. -/
theorem toNat_leastBytes (k : Scalar) : (datum k).leastBytes.toNat = k.leastSize := by
  cases k <;> rfl

/-- No element takes no bytes. -/
theorem one_le_leastBytes (e : Element) : 1 ≤ e.leastBytes.toNat := by
  cases e with
  | ref => decide
  | datum k =>
    rw [toNat_leastBytes]
    exact one_le_leastSize k

/-- One element. -/
def read : (e : Element) → Read e.Data
  | datum k => k.read
  | ref => ObjectRef.read

/-- One element whose texts are read without the guard. -/
def readUnguarded : (e : Element) → Read e.Data
  | datum .string => readTextUnguarded
  | datum k => k.read
  | ref => do
      let className ← readTextUnguarded
      let name ← readTextUnguarded
      pure (⟨className, name⟩ : ObjectRef)

/-- A list that is read without the guard. -/
def readVectorUnguarded (e : Element) : Read Value := do
  let items ← readListUnguarded e.readUnguarded
  pure (e.listOf items)

/-- The unguarded reader of an element is its reader: only lists are guarded. -/
theorem readUnguarded_eq (e : Element) : e.readUnguarded = e.read := by
  cases e with
  | ref =>
    unfold readUnguarded
    rw [readTextUnguarded_eq]
    rfl
  | datum k =>
    cases k with
    | string => exact readTextUnguarded_eq
    | bool | int | long | float | double | rgb | rgba | vec2f | vec3f | vec4f => rfl

/-- The unguarded reader of a vector reads items without a guard. -/
theorem readVectorUnguarded_eq (e : Element) :
    e.readVectorUnguarded = readListUnguarded e.read >>= fun items => pure (e.listOf items) := by
  rw [readVectorUnguarded, readUnguarded_eq]

/-- The value of a type of lists is a list that is read with the guard. -/
theorem readValue_vector (e : Element) : readValue e.vector =
    readList e.leastBytes.toNat e.read >>= fun items => pure (e.listOf items) := by
  cases e with
  | ref => rfl
  | datum k =>
    rw [toNat_leastBytes]
    rfl

/-- **The guard asks for no more bytes than elements take.** -/
theorem takesEach_read (e : Element) : TakesEach e.read e.leastBytes.toNat := by
  cases e with
  | ref => exact recognizes_readRef.takesEach IsRef.leastSize_le
  | datum k =>
    rw [toNat_leastBytes]
    exact (recognizes_readScalar k).takesEach Scalar.Sentence.leastSize_le

/-! ### With the guard and without it -/

variable {e : Element} {r s : Reader}

/-- A vector is read with the guard exactly if it is read without, on buffers of the machine's
sizes. -/
theorem readValue_eq_ok_iff {v : Value} (fits : r.remaining < 2 ^ 64) :
    readValue e.vector r = (.ok v, s) ↔ e.readVectorUnguarded r = (.ok v, s) := by
  rw [readValue_vector, readVectorUnguarded_eq, Read.bind_eq_ok_iff, Read.bind_eq_ok_iff]
  simp only [readList_eq_ok_iff e.takesEach_read fits]

/-- Where no room is made no list is read, with the guard or without it. -/
theorem fails_of_reserve_error {error : Error} (fits : r.remaining < 2 ^ 64)
    (refused : (reserve e.leastBytes : Read (Storage e.Data)) r = (.error error, s)) :
    readValue e.vector r = (.error error, s) ∧
      ∃ error' s', e.readVectorUnguarded r = (.error error', s') := by
  rw [reserve_eq, Read.bind_pure_eq_error_iff] at refused
  constructor
  · rw [readValue_vector, Read.bind_pure_eq_error_iff]
    exact Read.bind_of_error refused
  · obtain ⟨error', s', failed⟩ := exists_error_of_refused e.takesEach_read fits refused
    refine ⟨error', s', ?_⟩
    rw [readVectorUnguarded_eq, Read.bind_pure_eq_error_iff]
    exact failed

/-- Why no room is made, if there was a number. -/
theorem reason_of_reserve_error {error : Error} {count : UInt64} {s' : Reader}
    (fits : r.remaining < 2 ^ 64)
    (refused : (reserve e.leastBytes : Read (Storage e.Data)) r = (.error error, s))
    (word : readWord r = (.ok count, s')) :
    s' = s ∧ s.remaining < count.toNat * e.leastBytes.toNat ∧
      error = if count.toNat * e.leastBytes.toNat < 2 ^ 64 then
          .truncated (count.toNat * e.leastBytes.toNat) s.position s.remaining
        else .invalidData (.countTooLarge count.toNat s.position) := by
  rw [reserve_eq, Read.bind_pure_eq_error_iff] at refused
  have number := readVarUInt_eq_ok_iff_word.2 ⟨count, word, rfl⟩
  have place := congrArg Prod.snd refused
  rw [snd_readCount number] at place
  subst place
  have ahead := remaining_le_of_readVarUInt number
  refine ⟨rfl, ?_⟩
  apply (readCount_eq_error_iff number (ahead.trans_lt fits)).1
  exact congrArg Prod.fst refused

/-- Where room is made, it is made for so many elements that the bytes ahead can hold them. -/
theorem room_of_reserve_ok {room : Storage e.Data} (made : reserve e.leastBytes r = (.ok room, s)) :
    ∃ count, readWord r = (.ok count, s) ∧ room = ⟨count.toNat, []⟩ ∧
      (count * e.leastBytes).toNat = count.toNat * e.leastBytes.toNat ∧
      count.toNat * e.leastBytes.toNat ≤ s.remaining := by
  rw [reserve_eq] at made
  obtain ⟨n, s', passed, done⟩ := Read.bind_eq_ok_iff.1 made
  cases done
  obtain ⟨number, small, enough⟩ := readCount_eq_ok_iff.1 passed
  obtain ⟨count, word, rfl⟩ := readVarUInt_eq_ok_iff_word.1 number
  refine ⟨count, word, rfl, ?_, enough⟩
  rw [UInt64.toNat_mul, Nat.mod_eq_of_lt small]

/-- Where room is made, the guard has done its work. -/
theorem readValue_of_reserve_ok {room : Storage e.Data}
    (made : reserve e.leastBytes r = (.ok room, s)) :
    readValue e.vector r = e.readVectorUnguarded r := by
  rw [reserve_eq] at made
  obtain ⟨n, s', passed, -⟩ := Read.bind_eq_ok_iff.1 made
  rw [readValue_vector, readVectorUnguarded_eq, Read.bind_apply, Read.bind_apply,
    readList_of_count passed]

/-- **The guard of a count costs nothing and keeps the room for a list in bounds**, for every kind
of list and wherever a reader stands in a buffer whose bytes a word can count.

The machine that multiplies words, makes room and puts element behind element reads the same list.
A list is read with the guard exactly if it is read without it, and then it is the same list and
the reader stands at the same place; whether the texts of the elements have a guard of their own
does not matter either.

Where no room is made, reading fails with the guard and without it. If there was a number, it is
because the bytes behind the number cannot hold so many elements, and the error says so by the true
product, or that the product is no word.

Where room is made, it is made for as many elements as the number says, whose product did not wrap.
These are no more than there are bytes behind the number. The room is enough for the whole list,
and what becomes of the list, well or badly, is what becomes of it without the guard. -/
theorem guard_exact (e : Element) (grow : Nat → Nat) (r : Reader) (fits : r.remaining < 2 ^ 64) :
    readValue e.vector r =
      (readStored grow e.leastBytes e.read >>= fun list => pure (e.listOf list.items)) r ∧
    e.readUnguarded = e.read ∧
    (∀ v s, readValue e.vector r = (.ok v, s) ↔ e.readVectorUnguarded r = (.ok v, s)) ∧
    (∀ error s, (reserve e.leastBytes : Read (Storage e.Data)) r = (.error error, s) →
      readValue e.vector r = (.error error, s) ∧
      (∃ error' s', e.readVectorUnguarded r = (.error error', s')) ∧
      ∀ count s', readWord r = (.ok count, s') →
        s' = s ∧ s.remaining < count.toNat * e.leastBytes.toNat ∧
        error = if count.toNat * e.leastBytes.toNat < 2 ^ 64 then
            .truncated (count.toNat * e.leastBytes.toNat) s.position s.remaining
          else .invalidData (.countTooLarge count.toNat s.position)) ∧
    ∀ (room : Storage e.Data) s, reserve e.leastBytes r = (.ok room, s) →
      (∃ count, readWord r = (.ok count, s) ∧ room = ⟨count.toNat, []⟩ ∧
        (count * e.leastBytes).toNat = count.toNat * e.leastBytes.toNat ∧
        count.toNat * e.leastBytes.toNat ≤ s.remaining) ∧
      room.capacity ≤ s.remaining ∧
      readValue e.vector r = e.readVectorUnguarded r ∧
      ∀ list s', fill grow e.read room.capacity room s = (.ok list, s') →
        list.capacity = room.capacity ∧ list.items.length = room.capacity := by
  refine ⟨?_, e.readUnguarded_eq, ?_, ?_, ?_⟩
  · rw [readValue_vector, readList_eq_stored grow, bind_assoc]
    rfl
  · intro v s
    exact readValue_eq_ok_iff fits
  · intro error s refused
    obtain ⟨guarded, unguarded⟩ := fails_of_reserve_error fits refused
    refine ⟨guarded, unguarded, ?_⟩
    intro count s' word
    exact reason_of_reserve_error fits refused word
  · intro room s made
    obtain ⟨count, word, rfl, product, enough⟩ := room_of_reserve_ok made
    refine ⟨⟨count, word, rfl, product, enough⟩, ?_, readValue_of_reserve_ok made, ?_⟩
    · exact (Nat.le_mul_of_pos_right _ e.one_le_leastBytes).trans enough
    · intro list s' run
      obtain ⟨capacity, length⟩ := capacity_of_fill run (Nat.zero_add _).le
      exact ⟨capacity, length.trans (Nat.zero_add _)⟩

/-- A reader before the number 2 ^ 61 in nine bytes, and eight bytes behind it. -/
def wrapping : Reader :=
  ⟨0, headerSize, List.replicate 8 0x80 ++ 0x20 :: List.replicate 8 0, true⟩

/-- A reader before two references, the second of which has neither class nor name. -/
def twoRefs : Reader := ⟨0, headerSize, [2, 1, 0x61, 0, 0, 0], true⟩

/-- The statement for a number of integers of eight bytes each whose product, as a word, is zero:
they are refused, and reading them would not have ended well. And for two references, for which room
is made before five bytes. -/
theorem guard_exact_wrapping :
    wrapping.remaining < 2 ^ 64 ∧ UInt64.ofNat (2 ^ 61) * (datum .long).leastBytes = 0 ∧
    readValue (.vector .long) wrapping = (.error (.invalidData (.countTooLarge (2 ^ 61) 17)),
      ⟨0, 17, List.replicate 8 0, true⟩) ∧
    (∃ error s, (datum .long).readVectorUnguarded wrapping = (.error error, s)) ∧
    ∃ s, reserve ref.leastBytes twoRefs = (.ok (⟨2, []⟩ : Storage ref.Data), s) ∧
      2 ≤ s.remaining ∧ readValue .objects twoRefs = ref.readVectorUnguarded twoRefs := by
  have short : wrapping.remaining < 2 ^ 64 := by
    have length : wrapping.remaining = 17 := rfl
    omega
  have shorter : twoRefs.remaining < 2 ^ 64 := by
    have length : twoRefs.remaining = 6 := rfl
    omega
  obtain ⟨-, -, -, refused, -⟩ := guard_exact (datum .long) (2 * ·) wrapping short
  obtain ⟨-, -, -, -, made⟩ := guard_exact ref (2 * ·) twoRefs shorter
  have noRoom : (reserve (datum .long).leastBytes : Read (Storage (datum .long).Data)) wrapping =
      (.error (.invalidData (.countTooLarge (2 ^ 61) 17)), ⟨0, 17, List.replicate 8 0, true⟩) := by
    rfl
  have room : reserve ref.leastBytes twoRefs =
      (.ok (⟨2, []⟩ : Storage ref.Data), ⟨0, 9, [1, 0x61, 0, 0, 0], true⟩) := by
    rfl
  obtain ⟨guarded, unguarded, -⟩ := refused _ _ noRoom
  obtain ⟨-, bound, same, -⟩ := made _ _ room
  exact ⟨short, by decide, guarded, unguarded, _, room, bound, same⟩

end Element

end SceneSchema

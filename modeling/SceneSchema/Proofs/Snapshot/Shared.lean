import SceneSchema.Proofs.Snapshot.Restore

/-!
# Records that share a buffer

Several objects can be written to one buffer, one record after the other, and nothing in the buffer
says where a record ends. Main statement: `restoreFrom_shared`. **Each record ends where the next
one begins**: objects whose classes declare the same types in the same order, asked one after the
other to restore themselves from one reader, take over the values of the objects that were written,
in order, and the last one leaves the reader at the end.

`TakesOver` says what it means to take over values: which slots are marked is decided by the mark
that was there and by the comparison of the old value with the new one, in which a NaN differs from
itself and the zeros are equal. Read as the snapshot of its first object alone, the buffer is
accepted exactly if the other records are empty, as those of classes without attributes are.
-/

namespace SceneSchema

open Wire

namespace SceneObject

/-- Append the records of objects to an open buffer, in order. -/
def encodeAllInto (os : List SceneObject) (w : Writer) : Writer :=
  os.foldl (fun w o => o.encodeInto w) w

/-- A finished buffer with the records of objects. -/
def sharedBuffer (os : List SceneObject) : Bytes := (encodeAllInto os .empty).finish

/-- The target with the values of the source: nothing else of it is changed but marks, and a slot is
marked exactly if it was, or if its old value differs from the new one. -/
structure TakesOver (target source result : SceneObject) : Prop where
  /-- The values are those of the source. -/
  values : result.values = source.values
  /-- Name, class, roles and the number of slots stay those of the target. -/
  name : result.name = target.name
  sceneClass : result.sceneClass = target.sceneClass
  interface : result.interface = target.interface
  length_slots : result.slots.length = target.slots.length
  /-- A slot is marked if it was, or if its value differs from the new one. -/
  marks : ∀ {j : Nat} {old new : Slot}, target.slots[j]? = some old → result.slots[j]? = some new →
    (new.dirty = true ↔ old.dirty = true ∨ old.value.same new.value = false)

variable {target source : SceneObject}

/-! ### One record -/

/-- Replacing the values of a well-typed object by values of its types takes them over. -/
theorem takesOver_replaceValues (typed : target.WellTyped)
    (types : source.values.map Value.type = target.sceneClass.types) :
    target.TakesOver source (target.replaceValues source.values) where
  values := typed.values_replaceValues types
  name := rfl
  sceneClass := rfl
  interface := rfl
  length_slots := by
    have sameLength : source.values.length = target.slots.length := by
      rw [typed.length_slots, ← types, List.length_map]
    simp [replaceValues, sameLength]
  marks := by
    intro j old new before after
    simp only [replaceValues, List.getElem?_zipWith, before] at after
    rcases there : source.values[j]? with _ | v
    · simp [there] at after
    · simp only [there, Option.some.injEq] at after
      subst after
      simp [Slot.replace]

/-- The values are in the places in which the source has them. -/
theorem TakesOver.value_eq {result : SceneObject} (h : target.TakesOver source result) {j : Nat}
    {s : Slot} {v : Value} (slot : result.slots[j]? = some s) (here : source.values[j]? = some v) :
    s.value = v := by
  rw [← h.values, SceneObject.values, List.getElem?_map, slot] at here
  exact Option.some.inj here

/-- A record that is ahead is taken over by an object of the same types, whatever comes behind the
record, and the reader stops there. -/
theorem restoreFrom_record {r : Reader} (typed : source.WellTyped)
    (sameTypes : target.sceneClass.types = source.sceneClass.types)
    (short : source.record.length < 2 ^ 64) (ahead : source.record <+: r.rest) :
    target.restoreFrom r =
      (.ok (target.replaceValues source.values), r.advance source.record.length) := by
  have record : Record target.sceneClass.types source.record source.values := by
    rw [sameTypes, ← typed.types_eq]
    exact record_encode short
  exact restoreFrom_eq_ok_iff.2
    ⟨_, (recognizes_readValues _).complete ahead short record, rfl⟩

/-! ### The buffer -/

/-- Objects that are written one after the other add their records to what was written before. -/
theorem encodeAllInto_eq (os : List SceneObject) (w : Writer) :
    encodeAllInto os w = w.append (os.flatMap record) := by
  unfold encodeAllInto
  induction os generalizing w with
  | nil => simp [Writer.append]
  | cons o os ih =>
    rw [List.foldl_cons, ih, encodeInto_eq]
    simp [Writer.append]

/-- The reader of a buffer behind the records of the first `i` objects. -/
def behindRecords (start : Reader) (os : List SceneObject) (i : Nat) : Reader :=
  start.advance ((os.take i).flatMap record).length

/-- Behind all records, the reader has moved over all of them. -/
theorem behindRecords_length (start : Reader) (os : List SceneObject) :
    behindRecords start os os.length = start.advance (os.flatMap record).length := by
  rw [behindRecords, List.take_length]

/-- A container that starts empty holds the records of its objects and nothing else. -/
theorem body_encodeAllInto (sources : List SceneObject) :
    (encodeAllInto sources .empty).body = sources.flatMap record := by
  rw [encodeAllInto_eq]
  exact List.nil_append _

/-- Behind the header of the container, the records are ahead. -/
theorem rest_sharedBuffer (sources : List SceneObject) (checked : Bool) :
    (Reader.behindHeader (sharedBuffer sources) checked).rest = sources.flatMap record := by
  have closed : (encodeAllInto sources .empty).ClosesTo (sharedBuffer sources) := .inl rfl
  rw [← body_encodeAllInto, ← closed.drop_header]
  rfl

variable {sources : List SceneObject}

/-- The header of the container is accepted if its length fits in the field for it. -/
theorem headerAccepted_sharedBuffer (fits : (sharedBuffer sources).length < 2 ^ 64) :
    HeaderAccepted (sharedBuffer sources) := by
  have closed : (encodeAllInto sources .empty).ClosesTo (sharedBuffer sources) := .inl rfl
  exact closed.headerAccepted (by rwa [← closed.length_eq])

/-- All the records together are shorter than the buffer. -/
theorem length_records_lt (fits : (sharedBuffer sources).length < 2 ^ 64) :
    (sources.flatMap record).length < 2 ^ 64 := by
  have size : (sharedBuffer sources).length = 8 + (sources.flatMap record).length := by
    rw [sharedBuffer, Writer.length_finish, Writer.size, body_encodeAllInto]
  omega

/-- Behind the records before its own, an object takes over its own, and the reader stands behind
that. -/
theorem restoreFrom_behindRecords {start : Reader} (rest : start.rest = sources.flatMap record)
    (short : (sources.flatMap record).length < 2 ^ 64) {i : Nat} (h : i < sources.length)
    (typed : sources[i].WellTyped)
    (sameTypes : target.sceneClass.types = sources[i].sceneClass.types) :
    target.restoreFrom (behindRecords start sources i) =
      (.ok (target.replaceValues sources[i].values), behindRecords start sources (i + 1)) := by
  have piece := piece_ahead record h
  have ahead : sources[i].record <+: (behindRecords start sources i).rest := by
    rw [behindRecords, Reader.rest_advance, rest]
    exact piece
  have part : sources[i].record.length < 2 ^ 64 := by
    have total := piece.length_le
    rw [List.length_drop] at total
    omega
  rw [restoreFrom_record typed sameTypes part ahead, behindRecords, Reader.advance_advance,
    behindRecords, length_flatMap_take_succ record h]

/-- As a snapshot of its first object, a buffer of several records has to be empty behind the first
record. -/
theorem restore_sharedBuffer_iff {first : SceneObject} {others : List SceneObject}
    (fits : (sharedBuffer (first :: others)).length < 2 ^ 64) (typed : first.WellTyped)
    (sameTypes : target.sceneClass.types = first.sceneClass.types) :
    (∃ o', target.restore (sharedBuffer (first :: others)) = .ok o') ↔
      ∀ o ∈ others, o.record = [] := by
  have short := length_records_lt fits
  have rest := rest_sharedBuffer (first :: others) true
  rw [List.flatMap_cons] at rest short
  have ahead : first.record <+:
      (Reader.behindHeader (sharedBuffer (first :: others)) true).rest :=
    rest ▸ List.prefix_append _ _
  have part : first.record.length < 2 ^ 64 := by
    rw [List.length_append] at short
    omega
  have record : Record target.sceneClass.types first.record first.values := by
    rw [sameTypes, ← typed.types_eq]
    exact record_encode part
  have reads := (recognizes_readValues target.sceneClass.types).complete ahead part record
  -- what is left behind the first record is the records of the others
  have done : ((Reader.behindHeader (sharedBuffer (first :: others)) true).advance
      first.record.length).isDone = true ↔ ∀ o ∈ others, o.record = [] := by
    rw [Reader.isDone_iff, Reader.remaining, Reader.rest_advance, rest, List.drop_left,
      List.length_eq_zero_iff, List.flatMap_eq_nil_iff]
  rw [← done]
  constructor
  · rintro ⟨o', run⟩
    obtain ⟨-, vs, r', reads', finished, -⟩ := restore_eq_ok_iff.1 run
    rw [reads] at reads'
    cases reads'
    exact finished
  · intro finished
    exact ⟨_, restore_eq_ok_iff.2
      ⟨headerAccepted_sharedBuffer fits, _, _, reads, finished, rfl⟩⟩

/-! ### The main statement -/

/-- **Each record ends where the next one begins.** A buffer that objects were written to, one after
the other, is opened; then each of as many targets, whose classes declare the types of the objects'
classes, restores itself from where the one before left the reader, and takes over the values of its
object; behind the last one the reader is done. As the snapshot of the first object alone the buffer
is accepted exactly if the records of the others are empty. -/
theorem restoreFrom_shared (sources targets : List SceneObject)
    (typed : ∀ o ∈ sources, o.WellTyped) (typedTargets : ∀ t ∈ targets, t.WellTyped)
    (sameTypes : targets.map (·.sceneClass.types) = sources.map (·.sceneClass.types))
    (fits : (sharedBuffer sources).length < 2 ^ 64) :
    ∃ cursor : Nat → Reader,
      Reader.openChecked (sharedBuffer sources) = .ok (cursor 0) ∧
      (∀ (i : Nat) (source target : SceneObject), sources[i]? = some source →
        targets[i]? = some target → ∃ result,
          target.restoreFrom (cursor i) = (.ok result, cursor (i + 1)) ∧
          target.TakesOver source result) ∧
      targets.length = sources.length ∧ (cursor targets.length).isDone = true ∧
      (∀ (first : SceneObject) (others : List SceneObject) (target : SceneObject),
        sources = first :: others → target.sceneClass.types = first.sceneClass.types →
          ((∃ result, target.restore (sharedBuffer sources) = .ok result) ↔
            ∀ o ∈ others, o.record = [])) := by
  have start := headerAccepted_sharedBuffer fits
  have rest := rest_sharedBuffer sources true
  have short := length_records_lt fits
  have sameLength : targets.length = sources.length := by
    simpa using congrArg List.length sameTypes
  refine ⟨behindRecords (Reader.behindHeader (sharedBuffer sources) true) sources,
    openChecked_eq_ok_iff.2 ⟨start, rfl⟩, ?_, sameLength, ?_, ?_⟩
  · intro i source target hs ht
    have types : target.sceneClass.types = source.sceneClass.types := by
      have here := congrArg (·[i]?) sameTypes
      simpa [hs, ht] using here
    have typedSource := typed source (List.mem_of_getElem? hs)
    obtain ⟨h, rfl⟩ := List.getElem?_eq_some_iff.1 hs
    refine ⟨_, restoreFrom_behindRecords rest short h typedSource types, ?_⟩
    refine takesOver_replaceValues (typedTargets target (List.mem_of_getElem? ht)) ?_
    rw [types]
    exact typedSource.types_eq
  · rw [sameLength, behindRecords_length, Reader.isDone_iff, Reader.remaining_advance,
      Reader.remaining, rest, Nat.sub_self]
  · rintro first others target rfl types
    exact restore_sharedBuffer_iff fits (typed first List.mem_cons_self) types

/-- A class without attributes. -/
def bareClass : SceneClass := SceneClass.new ⟨1⟩ "Bare"

/-- A class with two numbers, a NaN and a negative zero. -/
def gaugeClass : SceneClass :=
  (SceneClass.new ⟨2⟩ "Gauge").edits
    [.declare "level" ⟨.scalar .float, (⟨0x7fc00000⟩ : Single)⟩ .empty,
      .declare "bias" ⟨.scalar .float, (⟨0x80000000⟩ : Single)⟩ .empty]

/-- An object of it that has the positive zero, and no marks. -/
def plainGauge : SceneObject :=
  ((new gaugeClass "plain").write 1 ⟨.scalar .float, Single.zero⟩).clearDirty

/-- The statement at three objects of three classes, one of which has no attributes. The NaN that is
written over with the same NaN counts as changed, the zero that is written over with the other zero
does not. As the snapshot of a lamp the buffer is refused. -/
theorem restoreFrom_shared_threeClasses :
    ∃ cursor : Nat → Reader,
      Reader.openChecked (sharedBuffer [lamp, new bareClass "b", new gaugeClass "g"]) =
        .ok (cursor 0) ∧
      (∃ result, taggedLamp.restoreFrom (cursor 0) = (.ok result, cursor 1) ∧
        taggedLamp.TakesOver lamp result) ∧
      (∃ result, plainGauge.restoreFrom (cursor 2) = (.ok result, cursor 3) ∧
        result.values = gaugeClass.defaults ∧ result.name = "plain" ∧
        (∀ s, result.slots[0]? = some s → s.dirty = true) ∧
        ∀ s, result.slots[1]? = some s → s.dirty = false) ∧
      (cursor 3).isDone = true ∧
      ¬ ∃ result, lamp.restore (sharedBuffer [lamp, new bareClass "b", new gaugeClass "g"]) =
        .ok result := by
  have bare : (new bareClass "b").WellTyped := wellTyped_new (by decide +kernel) "b"
  have gauges (name : String) : (new gaugeClass name).WellTyped :=
    wellTyped_new (by decide +kernel) name
  have typed : ∀ o ∈ [lamp, new bareClass "b", new gaugeClass "g"], o.WellTyped := by
    simp only [List.forall_mem_cons]
    exact ⟨wellTyped_new rowsTyped_lampClass "key", bare, gauges "g", by simp⟩
  have typedTargets : ∀ t ∈ [taggedLamp, new bareClass "b", plainGauge], t.WellTyped := by
    simp only [List.forall_mem_cons]
    exact ⟨(wellTyped_new rowsTyped_lampClass "fill").write rfl, bare,
      ((gauges "plain").write rfl).clearDirty, by simp⟩
  have fits : (sharedBuffer [lamp, new bareClass "b", new gaugeClass "g"]).length < 2 ^ 64 := by
    decide +kernel
  obtain ⟨cursor, opens, reads, -, done, alone⟩ := restoreFrom_shared
    [lamp, new bareClass "b", new gaugeClass "g"] [taggedLamp, new bareClass "b", plainGauge]
    typed typedTargets rfl fits
  obtain ⟨gauge, run, taken⟩ := reads 2 (new gaugeClass "g") plainGauge rfl rfl
  have values : gauge.values = gaugeClass.defaults := taken.values.trans (values_new _ _)
  refine ⟨cursor, opens, reads 0 lamp taggedLamp rfl rfl,
    ⟨gauge, run, values, taken.name, fun s there => ?_, fun s there => ?_⟩, done, ?_⟩
  · have value : s.value = ⟨.scalar .float, (⟨0x7fc00000⟩ : Single)⟩ := taken.value_eq there rfl
    refine (taken.marks (j := 0) rfl there).2 (.inr ?_)
    rw [value]
    decide
  · have value : s.value = ⟨.scalar .float, (⟨0x80000000⟩ : Single)⟩ := taken.value_eq there rfl
    rw [← Bool.not_eq_true, taken.marks (j := 1) rfl there, value]
    decide
  · rw [alone lamp _ lamp rfl rfl]
    intro empty
    have bytes := empty (new gaugeClass "g") (by simp)
    exact absurd bytes (by decide +kernel)

end SceneObject

end SceneSchema

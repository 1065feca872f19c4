import SceneSchema.Proofs.Object.Keys

/-!
# Calls that fail

What a call does to an object, a program does in place (`Call.inPlace`). It makes its checks and
decodes what it is given before it starts to write, so a call that fails has written nothing.

* `WellTyped.values_restore`, `WellTyped.values_restoreFrom` — the values of a restored object are
  what was read for its class, and nothing of what the object held.
* `setValueAt_ok_iff` — a value can be written by number exactly if it has the declared type.

**Main statement** (`WellTyped.all_or_nothing`): in place, a call on a well-typed object succeeds or
leaves the object just as it was, wherever its argument is at fault; and an object that is restored
has no values left of its own.
-/

namespace SceneSchema

open Wire InPlace

/-! ### What is restored -/

/-- The values that the one record of a buffer holds for the objects of a class. -/
def SceneClass.decode (c : SceneClass) (data : Bytes) : Except Error (List Value) := do
  let r ← Reader.openChecked data
  match readValues c.types r with
  | (.error e, _) => .error e
  | (.ok vs, r') =>
      if r'.isDone then .ok vs
      else .error (.invalidData (.trailing r'.remaining c.count c.name))

namespace SceneObject

variable {o : SceneObject}

/-- **The next record is all that is restored**, whatever the object held. -/
theorem WellTyped.values_restoreFrom (h : o.WellTyped) (r : Reader) :
    ((o.restoreFrom r).1.map values, (o.restoreFrom r).2) = readValues o.sceneClass.types r := by
  rw [restoreFrom_apply]
  rcases reads : readValues o.sceneClass.types r with ⟨e | vs, r'⟩
  · rfl
  · dsimp only [Except.map]
    rw [SceneObject.values_replaceValues (h.length_readValues reads)]

/-- **The one record of a buffer is all that is restored**, whatever the object held. -/
theorem WellTyped.values_restore (h : o.WellTyped) (data : Bytes) :
    (o.restore data).map values = o.sceneClass.decode data := by
  rw [SceneObject.restore, SceneClass.decode]
  rcases Reader.openChecked data with e | r
  · rfl
  rw [ok_bind, ok_bind, restoreFrom_apply]
  rcases reads : readValues o.sceneClass.types r with ⟨e | vs, r'⟩
  · rfl
  dsimp only
  -- whether anything is left of the buffer is asked on both sides
  split
  · dsimp only [Except.map]
    rw [SceneObject.values_replaceValues (h.length_readValues reads)]
  · rfl

/-- A value of the declared type can be written to each slot, and no other. -/
theorem setValueAt_ok_iff (o : SceneObject) (i : Nat) (v : Value) :
    (∃ o', o.setValueAt i v = .ok o') ↔ o.sceneClass.types[i]? = some v.type := by
  rw [SceneClass.types_getElem?_eq_some_iff, SceneObject.setValueAt]
  rcases o.sceneClass.attributes[i]? with _ | a
  · simp
  · by_cases type : a.type = v.type <;> simp [type]

/-- **All or nothing.** Whatever is asked of a well-typed object in place, it does not break down.
What succeeds leaves what it is meant to leave, and what fails leaves all values and marks, the name
and the class as they were; looking leaves them in any case. Keys of other classes are refused, and
so are slots that are not there and values that are not of the declared type. If a record is
restored, be it the one record of a buffer or the next of any reader, the values are those of the
record, as many as there are slots, and it makes no difference which values the object had. -/
theorem WellTyped.all_or_nothing (h : o.WellTyped) :
    (∀ k : Call, ∃ answer left, k.inPlace o.columns = some (answer, left) ∧
      match answer with
      | .ok () => ∃ o', k.run o = .ok o' ∧ left = o'.columns
      | .error e => k.run o = .error e ∧ left = o.columns) ∧
    (∀ {t : ValueType} (k : Key t),
      Columns.getInPlace k o.columns = some (o.get k, o.columns) ∧
      Columns.isDirtyInPlace k o.columns = some (o.isDirty k, o.columns) ∧
      (k.owner ≠ o.sceneClass.id → o.Refuses k)) ∧
    (∀ i v, (∃ o', o.setValueAt i v = .ok o') ↔ o.sceneClass.types[i]? = some v.type) ∧
    (∀ data, (o.restore data).map values = o.sceneClass.decode data ∧
      ∀ o', o.restore data = .ok o' → o'.slots.length = o.slots.length) ∧
    ∀ r, ((o.restoreFrom r).1.map values, (o.restoreFrom r).2) =
        readValues o.sceneClass.types r ∧
      ∀ o', (o.restoreFrom r).1 = .ok o' → o'.slots.length = o.slots.length := by
  refine ⟨fun k => ?_, fun {t} k => ⟨?_, ?_, refuses_of_owner_ne⟩, o.setValueAt_ok_iff,
    fun data => ⟨h.values_restore data, fun o' run => ?_⟩,
    fun r => ⟨h.values_restoreFrom r, fun o' run => ?_⟩⟩
  · rw [h.inPlace_eq k]
    rcases k.run o with e | o'
    · exact ⟨.error e, o.columns, rfl, rfl, rfl⟩
    · exact ⟨.ok (), o'.columns, rfl, o', rfl, rfl⟩
  · rw [Columns.getInPlace_apply, columns_get]
    rfl
  · rw [Columns.isDirtyInPlace_apply, columns_isDirty]
    rfl
  · rw [(h.restore run).length_slots, h.length_slots, sceneClass_of_restore run]
  · have same : o'.sceneClass = o.sceneClass := sceneClass_call (k := .restoreFrom r) run
    rw [(h.restoreFrom run).length_slots, h.length_slots, same]

/-- The statement at an object that is given a record one byte short, and then a whole one; and a
key of another class. -/
theorem all_or_nothing_lamp :
    lamp.WellTyped ∧
    (∃ e, (Call.restore taggedLamp.snapshot.dropLast).inPlace lamp.columns =
      some (.error e, lamp.columns)) ∧
    (∃ o', lamp.restore taggedLamp.snapshot = .ok o' ∧ o'.values = taggedLamp.values ∧
      (Call.restore taggedLamp.snapshot).inPlace lamp.columns = some (.ok (), o'.columns)) ∧
    lamp.Refuses (⟨⟨⟨7⟩, 0⟩⟩ : Key (.scalar .bool)) ∧
    ∀ o', lamp.setValueAt 0 ⟨.scalar .int, (1 : Int32)⟩ ≠ .ok o' := by
  have typed : lamp.WellTyped := wellTyped_new rowsTyped_lampClass "key"
  obtain ⟨calls, keys, slots, whole, -⟩ := typed.all_or_nothing
  refine ⟨typed, ?_, ?_, (keys _).2.2 (by decide +kernel), fun o' run => ?_⟩
  · obtain ⟨answer, left, inPlace, meaning⟩ := calls (.restore taggedLamp.snapshot.dropLast)
    have fails : (lamp.restore taggedLamp.snapshot.dropLast).isOk = false := by decide +kernel
    rcases answer with e | ⟨⟩
    · exact ⟨e, meaning.2 ▸ inPlace⟩
    · obtain ⟨o', run, -⟩ := meaning
      rw [show lamp.restore taggedLamp.snapshot.dropLast = .ok o' from run] at fails
      cases fails
  · have decoded : (lamp.restore taggedLamp.snapshot).map values = .ok taggedLamp.values :=
      (whole _).1.trans (by decide +kernel)
    obtain ⟨answer, left, inPlace, meaning⟩ := calls (.restore taggedLamp.snapshot)
    rcases run : lamp.restore taggedLamp.snapshot with e | o'
    · rw [run] at decoded
      cases decoded
    rw [run] at decoded
    rcases answer with e | ⟨⟩
    · cases run.symm.trans meaning.1
    · obtain ⟨o'', run', rfl⟩ := meaning
      obtain rfl := Except.ok.inj (run.symm.trans run')
      exact ⟨o', rfl, Except.ok.inj decoded, inPlace⟩
  · exact absurd ((slots 0 _).1 ⟨o', run⟩) (by decide +kernel)

end SceneObject

end SceneSchema

import Mathlib.Data.List.Basic
import SceneSchema.Proofs.Object.Calls

/-!
# Objects in two columns

An object can be laid out as two columns, its values and its marks, that are reached by number with
nothing but the number to rely on: there is a check that the number under a key is one of a value,
and none that it is one of a mark. `Columns` are objects laid out like this, and their operations
break down (they give `none`) where a number is out of range, or where values are replaced by more
or fewer than there are.

Main statement: **the columns of a well-typed object never break down**, and give what the object
gives (`columns_run` for the calls that may change an object, `columns_get` and `columns_isDirty`
for the others), whatever key, number, value or buffer is used.
-/

namespace SceneSchema

open Wire

/-- Write to a place of a column, which must be there. -/
def store? {α : Type} (l : List α) (i : Nat) (a : α) : Option (List α) :=
  if i < l.length then some (l.set i a) else none

/-- An object with its values and its marks in two columns. -/
structure Columns where
  sceneClass : SceneClass
  name : String
  interface : Interface
  values : List Value
  marks : List Bool

namespace Columns

/-- Do something with the number under a key; fails if the class did not issue the key, or if there
is no value of the number. -/
def atKey {β : Type} (c : Columns) (k : SlotKey) (f : Nat → Option (Except Error β)) :
    Option (Except Error β) :=
  if k.owner = c.sceneClass.id ∧ k.index < c.values.length then f k.index
  else some (.error (.foreignKey c.sceneClass.name c.name))

/-- The value under a key. -/
def get {t : ValueType} (c : Columns) (k : Key t) : Option (Except Error t.Data) :=
  c.atKey k.toSlotKey fun i => do
    let v ← c.values[i]?
    match v.get? t with
    | some d => some (.ok d)
    | none =>
        let name := ((c.sceneClass.attributes[i]?).map (·.name)).getD ""
        some (.error (.typeMismatch name v.type t))

/-- Whether the value under a key is marked. -/
def isDirty {t : ValueType} (c : Columns) (k : Key t) : Option (Except Error Bool) :=
  c.atKey k.toSlotKey fun i => do some (.ok (← c.marks[i]?))

/-- Write a value and mark it. -/
def put (c : Columns) (i : Nat) (v : Value) : Option Columns := do
  let values ← store? c.values i v
  let marks ← store? c.marks i true
  some { c with values, marks }

/-- Write the value under a key. -/
def set {t : ValueType} (c : Columns) (k : Key t) (d : t.Data) : Option (Except Error Columns) :=
  c.atKey k.toSlotKey fun i => (c.put i ⟨t, d⟩).map .ok

/-- Write the value of a number, if there is an attribute of the number that has the value's type.
-/
def setValueAt (c : Columns) (i : Nat) (v : Value) : Option (Except Error Columns) :=
  match c.sceneClass.attributes[i]? with
  | none => some (.error (.unknownAttribute c.sceneClass.name ("#" ++ toString i)))
  | some a =>
      if a.type = v.type then (c.put i v).map .ok
      else some (.error (.typeMismatch a.name a.type v.type))

/-- Put a value back to its default, if it differs. -/
def resetAt (c : Columns) (i : Nat) : Option Columns :=
  match c.sceneClass.attributes[i]? with
  | none => some c
  | some a => do
      let v ← c.values[i]?
      if v.same a.default then some c else c.put i a.default

/-- Put the value under a key back to its default. -/
def reset {t : ValueType} (c : Columns) (k : Key t) : Option (Except Error Columns) :=
  c.atKey k.toSlotKey fun i => (c.resetAt i).map .ok

/-- Put every value back to its default. -/
def resetAll (c : Columns) : Option Columns := (List.range c.values.length).foldlM resetAt c

/-- Mark a place if the new value differs. -/
def markChange (i : Nat) (old new : Value) (marks : List Bool) : Option (List Bool) :=
  if old.same new then some marks else store? marks i true

/-- Mark the places, counted from the given one, in which the new values differ. -/
def markFrom (i : Nat) : List Value → List Value → List Bool → Option (List Bool)
  | old :: olds, new :: news, marks => do markFrom (i + 1) olds news (← markChange i old new marks)
  | _, _, marks => some marks

/-- Replace all values, by as many as there are. -/
def replaceValues (c : Columns) (vs : List Value) : Option Columns :=
  if vs.length = c.values.length then do
    let marks ← markFrom 0 c.values vs c.marks
    some { c with values := vs, marks }
  else none

/-- Replace the values by the next record. -/
def restoreFrom (c : Columns) (r : Reader) : Option (Except Error Columns) :=
  match readValues c.sceneClass.types r with
  | (.error e, _) => some (.error e)
  | (.ok vs, _) => (c.replaceValues vs).map .ok

/-- Replace the values by the one record of a buffer, when all of it has been read. -/
def restore (c : Columns) (data : Bytes) : Option (Except Error Columns) :=
  match Reader.openChecked data with
  | .error e => some (.error e)
  | .ok r =>
      match readValues c.sceneClass.types r with
      | (.error e, _) => some (.error e)
      | (.ok vs, r') =>
          if r'.isDone then (c.replaceValues vs).map .ok
          else some (.error (.invalidData
            (.trailing r'.remaining vs.length c.sceneClass.name)))

/-- What a call gives for the columns. -/
def run (c : Columns) : Call → Option (Except Error Columns)
  | .set key d => c.set key d
  | .setValueAt index v => c.setValueAt index v
  | .reset key => c.reset key
  | .resetAll => c.resetAll.map .ok
  | .clearDirty => some (.ok { c with marks := c.marks.map fun _ => false })
  | .restore data => c.restore data
  | .restoreFrom r => c.restoreFrom r

end Columns

/-- What is read for the types of a class are as many values as it has attributes. -/
theorem SceneClass.length_readValues {c : SceneClass} {r r' : Reader} {vs : List Value}
    (reads : readValues c.types r = (.ok vs, r')) : vs.length = c.count := by
  obtain ⟨bytes, -, record, -⟩ := (recognizes_readValues _).sound reads
  rw [← List.length_map Value.type, record.types_eq, SceneClass.types, List.length_map]
  rfl

namespace SceneObject

/-- The object laid out in columns. -/
def columns (o : SceneObject) : Columns :=
  { sceneClass := o.sceneClass, name := o.name, interface := o.interface, values := o.values
    marks := o.slots.map (·.dirty) }

variable {o o' : SceneObject}

/-- The columns are of the class of the object. -/
@[simp] theorem columns_sceneClass (o : SceneObject) : o.columns.sceneClass = o.sceneClass := rfl

/-! ### One place -/

/-- There is a value for each slot. -/
@[simp] theorem length_values (o : SceneObject) : o.values.length = o.slots.length :=
  List.length_map _

/-- There is a mark for each slot. -/
@[simp] theorem length_marks (o : SceneObject) : o.columns.marks.length = o.slots.length :=
  List.length_map _

/-- A key leads to the same place of both columns. -/
theorem columns_atKey {β : Type} {k : SlotKey} {f : Nat → Option (Except Error β)}
    {g : Slot → Except Error β} (at_ : ∀ s, o.slots[k.index]? = some s → f k.index = some (g s)) :
    o.columns.atKey k f = some (o.slot k >>= g) := by
  unfold Columns.atKey slot
  by_cases own : k.owner = o.sceneClass.id
  · rcases there : o.slots[k.index]? with _ | s
    · have out : ¬ k.index < o.values.length := by simpa using there
      rw [if_neg fun h => out h.2, if_pos own]
      rfl
    · have inside : k.index < o.values.length := by
        rw [length_values]
        exact (List.getElem?_eq_some_iff.1 there).1
      rw [if_pos ⟨own, inside⟩, if_pos own]
      exact at_ s there
  · rw [if_neg fun h => own h.1, if_neg own]
    rfl

/-- Putting a value where there is a slot writes the slot. -/
theorem columns_put {i : Nat} (inside : i < o.slots.length) (v : Value) :
    o.columns.put i v = some (o.write i v).columns := by
  have both : o.columns.put i v =
      some { o.columns with values := o.values.set i v, marks := o.columns.marks.set i true } := by
    simp [Columns.put, store?, columns, inside]
  rw [both, write, ← List.set_eq_modify]
  simp [columns, values, List.map_set]

/-- **Reading a value by key** gives what the object gives. -/
theorem columns_get (o : SceneObject) {t : ValueType} (k : Key t) :
    o.columns.get k = some (o.get k) := by
  refine columns_atKey fun s there => ?_
  have value : o.columns.values[k.index]? = some s.value := by
    simp [columns, values, there]
  simp only [value, Option.bind_eq_bind, Option.bind_some]
  cases s.value.get? t <;> rfl

/-- Asking for a mark gives the same answer. -/
theorem columns_isDirty (o : SceneObject) {t : ValueType} (k : Key t) :
    o.columns.isDirty k = some (o.isDirty k) := by
  refine columns_atKey fun s there => ?_
  have mark : o.columns.marks[k.index]? = some s.dirty := by
    simp [columns, there]
  rw [mark]
  rfl

/-- Setting a value by a key gives the columns of the object that is set. -/
theorem columns_set (o : SceneObject) {t : ValueType} (k : Key t) (d : t.Data) :
    o.columns.set k d = some ((o.set k d).map columns) := by
  refine (columns_atKey (g := fun _ => .ok (o.write k.index ⟨t, d⟩).columns) ?_).trans ?_
  · intro s there
    rw [columns_put (List.getElem?_eq_some_iff.1 there).1]
    rfl
  · rw [SceneObject.set]
    cases o.slot k.toSlotKey <;> rfl

/-- There is a place for each attribute. -/
theorem WellTyped.lt_length (h : o.WellTyped) {i : Nat} {a : Attribute}
    (row : o.sceneClass.attributes[i]? = some a) : i < o.slots.length := by
  rw [h.length_slots, SceneClass.types, List.length_map]
  exact (List.getElem?_eq_some_iff.1 row).1

/-- So does setting a value by its row. -/
theorem WellTyped.columns_setValueAt (h : o.WellTyped) (i : Nat) (v : Value) :
    o.columns.setValueAt i v = some ((o.setValueAt i v).map columns) := by
  unfold Columns.setValueAt SceneObject.setValueAt
  rw [columns_sceneClass]
  rcases row : o.sceneClass.attributes[i]? with _ | a
  · rfl
  · by_cases type : a.type = v.type
    · simp only [if_pos type, columns_put (h.lt_length row)]
      rfl
    · simp only [if_neg type]
      rfl

/-! ### Back to the defaults -/

/-- Going back to a default is writing it, unless the value compares equal to it. -/
theorem resetAt_eq {i : Nat} {a : Attribute} {s : Slot}
    (row : o.sceneClass.attributes[i]? = some a) (there : o.slots[i]? = some s) :
    o.resetAt i = if s.value.same a.default then o else o.write i a.default := by
  obtain ⟨inside, rfl⟩ := List.getElem?_eq_some_iff.1 there
  simp only [resetAt, row, List.modify_eq_set_getElem?, there, Option.map_eq_map, Option.map_some,
    Option.getD_some, Slot.reset]
  split
  · rw [List.set_getElem_self]
  · rw [write, ← List.set_eq_modify]

/-- Going back to a default gives the columns of the object that has gone back. -/
theorem WellTyped.columns_resetAt (h : o.WellTyped) (i : Nat) :
    o.columns.resetAt i = some (o.resetAt i).columns := by
  unfold Columns.resetAt
  rcases row : o.sceneClass.attributes[i]? with _ | a
  · simp only [columns_sceneClass, row, SceneObject.resetAt]
  · have inside := h.lt_length row
    have there := List.getElem?_eq_getElem inside
    have value : o.columns.values[i]? = some o.slots[i].value := by
      simp [columns, values, there]
    rw [resetAt_eq row there]
    simp only [columns_sceneClass, row, value, Option.bind_eq_bind, Option.bind_some]
    split
    · rfl
    · exact columns_put inside a.default

/-- So does going back by a key. -/
theorem WellTyped.columns_reset (h : o.WellTyped) {t : ValueType} (k : Key t) :
    o.columns.reset k = some ((o.reset k).map columns) := by
  refine (columns_atKey (g := fun _ => .ok (o.resetAt k.index).columns) ?_).trans ?_
  · intro s there
    rw [h.columns_resetAt]
    rfl
  · rw [SceneObject.reset]
    cases o.slot k.toSlotKey <;> rfl

/-- So does going back to all defaults. -/
theorem WellTyped.columns_resetAll (h : o.WellTyped) :
    o.columns.resetAll = some o.resetAll.columns := by
  unfold Columns.resetAll SceneObject.resetAll
  show (List.range o.values.length).foldlM Columns.resetAt o.columns = _
  rw [length_values]
  generalize List.range o.slots.length = indices
  induction indices generalizing o with
  | nil => rfl
  | cons i rest ih =>
    rw [List.foldlM_cons, h.columns_resetAt i]
    exact ih (h.resetAt i)

/-! ### Replacing all values -/

/-- Marking the changes behind places that are done. -/
theorem markFrom_append (slots : List Slot) (vs : List Value) (done : List Bool)
    (length : vs.length = slots.length) :
    Columns.markFrom done.length (slots.map (·.value)) vs (done ++ slots.map (·.dirty)) =
      some (done ++ (List.zipWith Slot.replace slots vs).map (·.dirty)) := by
  induction slots generalizing vs done with
  | nil => cases vs <;> simp [Columns.markFrom]
  | cons s rest ih =>
    cases vs with
    | nil => simp at length
    | cons v vs =>
      have here : Columns.markChange done.length s.value v (done ++ s.dirty :: rest.map (·.dirty)) =
          some ((done ++ [(Slot.replace s v).dirty]) ++ rest.map (·.dirty)) := by
        by_cases same : s.value.same v = true
        · simp [Columns.markChange, same, Slot.replace]
        · simp [Columns.markChange, same, Slot.replace, store?]
      have later := ih vs (done ++ [(Slot.replace s v).dirty]) (by simpa using length)
      rw [List.length_append, List.length_singleton] at later
      simp only [List.map_cons, Columns.markFrom, here, Option.bind_eq_bind, Option.bind_some,
        List.zipWith_cons_cons]
      rw [later, List.append_assoc, List.singleton_append]

/-- Replacing all values gives the columns of the object whose values are replaced, if there are
as many. -/
theorem columns_replaceValues {vs : List Value} (length : vs.length = o.slots.length) :
    o.columns.replaceValues vs = some (o.replaceValues vs).columns := by
  have marks : Columns.markFrom 0 o.columns.values vs o.columns.marks =
      some (o.replaceValues vs).columns.marks := markFrom_append o.slots vs [] length
  have fits : vs.length = o.columns.values.length := length.trans o.length_values.symm
  have replaced : (o.replaceValues vs).columns =
      { o.columns with values := vs, marks := (o.replaceValues vs).columns.marks } := by
    show ({ o.columns with
      values := (o.replaceValues vs).values, marks := (o.replaceValues vs).columns.marks } :
        Columns) = _
    rw [SceneObject.values_replaceValues length]
  rw [Columns.replaceValues, if_pos fits, marks, replaced]
  rfl

/-- What is read for the types of a class are as many values as its objects have. -/
theorem WellTyped.length_readValues (h : o.WellTyped) {r r' : Reader} {vs : List Value}
    (reads : readValues o.sceneClass.types r = (.ok vs, r')) : vs.length = o.slots.length := by
  rw [SceneClass.length_readValues reads, h.length_slots, SceneClass.types, List.length_map]
  rfl

/-- Restoring from a reader reads all values first, and then replaces them. -/
theorem restoreFrom_apply (o : SceneObject) (r : Reader) :
    o.restoreFrom r = match readValues o.sceneClass.types r with
      | (.ok vs, r') => (.ok (o.replaceValues vs), r')
      | (.error e, r') => (.error e, r') := by
  rw [restoreFrom, Read.bind_apply]
  rcases readValues o.sceneClass.types r with ⟨_ | _, r'⟩ <;> rfl

/-- Restoring from a reader gives the columns of the object that is restored. -/
theorem WellTyped.columns_restoreFrom (h : o.WellTyped) (r : Reader) :
    o.columns.restoreFrom r = some ((o.restoreFrom r).1.map columns) := by
  rw [Columns.restoreFrom, columns_sceneClass, restoreFrom_apply]
  rcases reads : readValues o.sceneClass.types r with ⟨e | vs, r'⟩
  · rfl
  · simp only [columns_replaceValues (h.length_readValues reads)]
    rfl

/-- Restoring a buffer opens it, restores from its reader, and then asks whether anything is left.
-/
theorem restore_apply (o : SceneObject) (data : Bytes) :
    o.restore data = match Reader.openChecked data with
      | .error e => .error e
      | .ok r =>
          match readValues o.sceneClass.types r with
          | (.error e, _) => .error e
          | (.ok vs, r') =>
              if r'.isDone then .ok (o.replaceValues vs)
              else .error (.invalidData
                (.trailing r'.remaining o.sceneClass.count o.sceneClass.name)) := by
  rw [SceneObject.restore]
  rcases Reader.openChecked data with e | r
  · rfl
  · simp only [bind, Except.bind, restoreFrom_apply]
    rcases readValues o.sceneClass.types r with ⟨e | vs, r'⟩ <;> rfl

/-- Restoring a buffer gives the columns of the object that is restored. -/
theorem WellTyped.columns_restore (h : o.WellTyped) (data : Bytes) :
    o.columns.restore data = some ((o.restore data).map columns) := by
  rw [Columns.restore, columns_sceneClass, restore_apply]
  rcases Reader.openChecked data with e | r
  · rfl
  · dsimp only
    rcases reads : readValues o.sceneClass.types r with ⟨e | vs, r'⟩
    · rfl
    · have length := h.length_readValues reads
      have count := SceneClass.length_readValues reads
      by_cases done : r'.isDone = true
      · simp only [if_pos done, columns_replaceValues length]
        rfl
      · simp only [if_neg done, count]
        rfl

/-- A buffer that an object refuses is refused by its columns, whatever they hold. -/
theorem columns_restore_of_error {data : Bytes} {e : Error} (failed : o.restore data = .error e) :
    o.columns.restore data = some (.error e) := by
  rw [restore_apply] at failed
  rw [Columns.restore, columns_sceneClass]
  rcases opens : Reader.openChecked data with e' | r
  all_goals rw [opens] at failed
  · rw [Except.error.inj failed]
  · dsimp only at failed ⊢
    rcases reads : readValues o.sceneClass.types r with ⟨e' | vs, r'⟩
    all_goals rw [reads] at failed
    · rw [Except.error.inj failed]
    · dsimp only at failed ⊢
      by_cases done : r'.isDone = true
      · rw [if_pos done] at failed
        cases failed
      · rw [if_neg done] at failed ⊢
        rw [SceneClass.length_readValues reads, Except.error.inj failed]

/-! ### Calls -/

/-- **The columns of a well-typed object never break down**, and a call gives for them what it gives
for the object: with any key, honest or not, any number, any value and any buffer. -/
theorem WellTyped.columns_run (h : o.WellTyped) (k : Call) :
    o.columns.run k = some ((k.run o).map columns) := by
  cases k with
  | set key d => exact o.columns_set key d
  | setValueAt index v => exact h.columns_setValueAt index v
  | reset key => exact h.columns_reset key
  | resetAll =>
    rw [Columns.run, h.columns_resetAll]
    rfl
  | clearDirty =>
    simp [Columns.run, Call.run, columns, values, SceneObject.clearDirty, Except.map,
      Function.comp_def]
  | restore data => exact h.columns_restore data
  | restoreFrom r => exact h.columns_restoreFrom r

end SceneObject

end SceneSchema

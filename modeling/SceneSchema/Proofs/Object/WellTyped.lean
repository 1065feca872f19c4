import SceneSchema.Snapshot

/-!
# Objects hold what their class declares

`SceneObject.WellTyped` says that an object has one slot for each attribute of its class, and that
the value in it has the type of the attribute; and the attribute's type is that of its default
(`SceneClass.RowsTyped`). A new object is well-typed (`wellTyped_new`), and each operation on
objects keeps it so: replacing all values by values of the declared types, writing a value of the
declared type to a slot, going back to defaults, clearing the marks.

So well-typedness is not a restriction on the objects of a program: every object that was made and
changed by these operations has it. `Proofs.Object.Calls` puts the operations together, and
`Proofs.Program.Invariant` says so for all that a program can do.

Main statement: `WellTyped.get_of_vouches`, **reading a well-typed object under a key that keeps its
promise succeeds**.
-/

namespace SceneSchema

/-- What a typed key promises: if the class issued it, the row that it names has the type. A key of
another class promises nothing here, and the objects of the class refuse it. -/
def SceneClass.Vouches (c : SceneClass) {t : ValueType} (k : Key t) : Prop :=
  k.owner = c.id → c.types[k.index]? = some t

/-- The types are those of the rows. -/
theorem SceneClass.types_getElem?_eq_some_iff {c : SceneClass} {i : Nat} {t : ValueType} :
    c.types[i]? = some t ↔ ∃ a, c.attributes[i]? = some a ∧ a.type = t := by
  rw [types, List.getElem?_map, Option.map_eq_some_iff]

/-- Each row has the type of its default. -/
def SceneClass.RowsTyped (c : SceneClass) : Prop := ∀ a ∈ c.attributes, a.type = a.default.type

/-- Whether the defaults are of their rows' types can be decided row by row. -/
instance (c : SceneClass) : Decidable c.RowsTyped :=
  inferInstanceAs (Decidable (∀ a ∈ c.attributes, a.type = a.default.type))

/-- So the types are those of the defaults. -/
theorem SceneClass.RowsTyped.types_defaults {c : SceneClass} (typed : c.RowsTyped) :
    c.defaults.map Value.type = c.types := by
  rw [defaults, types, List.map_map]
  exact List.map_congr_left fun a there => (typed a there).symm

namespace SceneObject

/-- One value for each attribute of the class, of the attribute's type. -/
structure WellTyped (o : SceneObject) : Prop where
  /-- The values are of the types of the class, in order. -/
  types_eq : o.values.map Value.type = o.sceneClass.types
  /-- The defaults of the class are of the types of their rows. -/
  rows : o.sceneClass.RowsTyped

/-- A new object is well typed if the defaults of its class are of their rows' types. -/
theorem wellTyped_new {c : SceneClass} (typed : c.RowsTyped) (name : String) :
    (new c name).WellTyped where
  types_eq := (congrArg _ (values_new c name)).trans typed.types_defaults
  rows := typed

/-- A class with an attribute of each kind of encoding: of one size, counted, and optional. -/
def lampClass : SceneClass :=
  (SceneClass.new ⟨0⟩ "Lamp").edits [.declare "on" ⟨.scalar .bool, true⟩ .empty,
    .declare "tags" ⟨.vector .string, ["a", "é"]⟩ .empty,
    .declare "target" ⟨.object, (none : Option ObjectRef)⟩ .empty, .finalize]

/-- So they are in the class of the lamp. -/
theorem rowsTyped_lampClass : lampClass.RowsTyped := by decide +kernel

/-- An object of it. -/
def lamp : SceneObject := new lampClass "key"

/-- Another object of it, with its own list of tags, which is marked. -/
def taggedLamp : SceneObject := (new lampClass "fill").write 1 ⟨.vector .string, ["b"]⟩

variable {o : SceneObject}

/-- There is a slot for each type of the class. -/
theorem WellTyped.length_slots (h : o.WellTyped) : o.slots.length = o.sceneClass.types.length := by
  rw [← h.types_eq]
  simp [values]

/-- The value in a slot has the declared type. -/
theorem WellTyped.types_getElem? (h : o.WellTyped) {i : Nat} {s : Slot}
    (at_ : o.slots[i]? = some s) : o.sceneClass.types[i]? = some s.value.type := by
  rw [← h.types_eq, values, List.getElem?_map, List.getElem?_map, at_]
  rfl

/-- There is a value of each declared type. -/
theorem WellTyped.exists_value (h : o.WellTyped) {i : Nat} {t : ValueType}
    (declared : o.sceneClass.types[i]? = some t) : ∃ v, o.values[i]? = some v ∧ v.type = t := by
  rwa [← h.types_eq, List.getElem?_map, Option.map_eq_some_iff] at declared

/-- As many values as there are slots replace all of them. -/
theorem WellTyped.values_replaceValues (h : o.WellTyped) {vs : List Value}
    (types : vs.map Value.type = o.sceneClass.types) : (o.replaceValues vs).values = vs := by
  refine SceneObject.values_replaceValues ?_
  rw [h.length_slots, ← types, List.length_map]

/-- Values of the types of the class may replace all that are there. -/
theorem WellTyped.replaceValues (h : o.WellTyped) {vs : List Value}
    (types : vs.map Value.type = o.sceneClass.types) : (o.replaceValues vs).WellTyped where
  types_eq := by
    rw [h.values_replaceValues types]
    exact types
  rows := h.rows

/-- Changing one slot keeps an object well-typed if it keeps the type of the slot's value. -/
theorem WellTyped.modify (h : o.WellTyped) {i : Nat} {f : Slot → Slot}
    (keeps : ∀ s, o.slots[i]? = some s → (f s).value.type = s.value.type) :
    ({ o with slots := o.slots.modify i f } : SceneObject).WellTyped := by
  refine ⟨Eq.trans ?_ h.types_eq, h.rows⟩
  refine List.ext_getElem? fun j => ?_
  simp only [values, List.getElem?_map, List.getElem?_modify]
  by_cases here : i = j
  · subst here
    rcases at_ : o.slots[i]? with _ | s
    · rfl
    · simpa using keeps s at_
  · rcases o.slots[j]? with _ | s
    · rfl
    · simp [here]

/-- A value of the type of its row may be written. -/
theorem WellTyped.write (h : o.WellTyped) {i : Nat} {v : Value}
    (type : o.sceneClass.types[i]? = some v.type) : (o.write i v).WellTyped := by
  refine h.modify fun s at_ => ?_
  have declared := h.types_getElem? at_
  rw [type, Option.some.injEq] at declared
  exact declared

/-- A value that is set by its row has passed the check of its type. -/
theorem WellTyped.setValueAt (h : o.WellTyped) {i : Nat} {v : Value} {o' : SceneObject}
    (run : o.setValueAt i v = .ok o') : o'.WellTyped := by
  unfold SceneObject.setValueAt at run
  split at run
  · cases run
  · rename_i a at_
    split at run
    · rename_i type
      cases run
      exact h.write (SceneClass.types_getElem?_eq_some_iff.2 ⟨a, at_, type⟩)
    · cases run

/-- An object takes only keys of its own class. -/
theorem owner_of_slot {k : SlotKey} {s : Slot} (run : o.slot k = .ok s) :
    k.owner = o.sceneClass.id := by
  unfold slot at run
  by_cases own : k.owner = o.sceneClass.id
  · exact own
  · rw [if_neg own] at run
    cases run

/-- Writing under a key keeps an object well-typed if the key keeps its promise. -/
theorem WellTyped.set (h : o.WellTyped) {t : ValueType} {k : Key t} {d : t.Data} {o' : SceneObject}
    (vouches : o.sceneClass.Vouches k) (run : o.set k d = .ok o') : o'.WellTyped := by
  obtain ⟨s, own, write⟩ := bind_eq_ok_iff.1 run
  cases write
  exact h.write (vouches (owner_of_slot own))

/-- **Reading under a key that keeps its promise succeeds**, with the value in the slot. -/
theorem WellTyped.get_of_vouches (h : o.WellTyped) {t : ValueType} {k : Key t}
    (vouches : o.sceneClass.Vouches k) (own : k.owner = o.sceneClass.id) :
    ∃ d : t.Data, o.get k = .ok d ∧ o.values[k.index]? = some ⟨t, d⟩ := by
  obtain ⟨⟨_, d⟩, there, rfl⟩ := h.exists_value (vouches own)
  refine ⟨d, ?_, there⟩
  rw [values, List.getElem?_map, Option.map_eq_some_iff] at there
  obtain ⟨s, at_, value⟩ := there
  rw [SceneObject.get, SceneObject.slot, if_pos own, at_]
  simp [bind, Except.bind, value]

/-- A key of another class is refused, whatever it promises. -/
theorem get_of_owner_ne {t : ValueType} {k : Key t} (other : k.owner ≠ o.sceneClass.id) :
    o.get k = .error (.foreignKey o.sceneClass.name o.name) := by
  rw [SceneObject.get, SceneObject.slot, if_neg other]
  rfl

/-- A default is of the type of its row. -/
theorem WellTyped.resetAt (h : o.WellTyped) (i : Nat) : (o.resetAt i).WellTyped := by
  unfold SceneObject.resetAt
  split
  · rename_i a at_
    refine h.modify fun s slot => ?_
    unfold Slot.reset
    split
    · rfl
    · have declared := h.types_getElem? slot
      rw [SceneClass.types_getElem?_eq_some_iff.2 ⟨a, at_, rfl⟩, Option.some.injEq] at declared
      exact (h.rows a (List.mem_of_getElem? at_)).symm.trans declared
  · exact h

/-- Going back to a default by a key keeps an object well typed. -/
theorem WellTyped.reset (h : o.WellTyped) {t : ValueType} {k : Key t} {o' : SceneObject}
    (run : o.reset k = .ok o') : o'.WellTyped := by
  obtain ⟨_, -, run⟩ := bind_eq_ok_iff.1 run
  cases run
  exact h.resetAt k.index

/-- Going back to all defaults keeps it well typed, by induction on the rows. -/
theorem WellTyped.resetAll (h : o.WellTyped) : o.resetAll.WellTyped := by
  unfold SceneObject.resetAll
  generalize List.range o.slots.length = indices
  induction indices generalizing o with
  | nil => exact h
  | cons i rest ih => exact ih (h.resetAt i)

/-- The marks have nothing to do with the types. -/
theorem WellTyped.clearDirty (h : o.WellTyped) : o.clearDirty.WellTyped := by
  refine ⟨Eq.trans ?_ h.types_eq, h.rows⟩
  simp [values, SceneObject.clearDirty, Function.comp_def]

end SceneObject

end SceneSchema

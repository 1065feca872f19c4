import SceneSchema.Schema.SceneClass

/-!
# Scene objects

A `SceneObject` has one `Slot` for each attribute of its class: the value, and a mark that says
whether the value was written since the marks were last cleared. Slots are reached by key (`get`,
`set`, `isDirty`, `reset`), which checks only that the class of the object issued the key, or by
number (`valueAt?`, `setValueAt`), which checks the type of what is written.

Writing marks a slot even if the value stays the same. Resetting a slot and replacing all values
(`replaceValues`) mark only slots whose old value differs from the new one by `Value.same`.
-/

namespace SceneSchema

/-- The place of one attribute's value in an object. -/
structure Slot where
  /-- The value of the attribute. -/
  value : Value
  /-- Whether the value was written since the marks were last cleared. -/
  dirty : Bool
  deriving DecidableEq

/-- An object of a scene class. -/
structure SceneObject where
  sceneClass : SceneClass
  name : String
  /-- The roles it can play; those of its class when it was made. -/
  interface : Interface
  /-- A value and a mark for each attribute. -/
  slots : List Slot
  deriving DecidableEq

namespace SceneObject

/-- A new object: all values are the defaults, and none is marked. -/
def new (c : SceneClass) (name : String) : SceneObject :=
  { sceneClass := c, name, interface := c.interface, slots := c.defaults.map (⟨·, false⟩) }

/-- The values in slot order. -/
def values (o : SceneObject) : List Value := o.slots.map (·.value)

/-- The numbers of the marked slots, in increasing order. -/
def dirtyIndices (o : SceneObject) : List Nat :=
  (o.slots.zipIdx.filter fun (s, _) => s.dirty).map (·.2)

/-- Whether any slot is marked. -/
def anyDirty (o : SceneObject) : Bool := o.slots.any (·.dirty)

/-- Whether the object can play all the roles. -/
def isA (o : SceneObject) (i : Interface) : Bool := o.interface.has i

/-- The object without marks. -/
def clearDirty (o : SceneObject) : SceneObject :=
  { o with slots := o.slots.map fun s => { s with dirty := false } }

/-- The slot that a key names; fails if the object's class did not issue the key. -/
def slot (o : SceneObject) (k : SlotKey) : Except Error Slot :=
  if k.owner = o.sceneClass.id then
    match o.slots[k.index]? with
    | some s => .ok s
    | none => .error (.foreignKey o.sceneClass.name o.name)
  else .error (.foreignKey o.sceneClass.name o.name)

/-- The object with a value written to a slot. -/
def write (o : SceneObject) (index : Nat) (v : Value) : SceneObject :=
  { o with slots := o.slots.modify index fun _ => ⟨v, true⟩ }

/-! ## By key -/

/-- The value under a key. -/
def get {t : ValueType} (o : SceneObject) (k : Key t) : Except Error t.Data := do
  let s ← o.slot k.toSlotKey
  match s.value.get? t with
  | some d => .ok d
  | none =>
      let name := ((o.sceneClass.attributes[k.index]?).map (·.name)).getD ""
      .error (.typeMismatch name s.value.type t)

/-- Write the value under a key. -/
def set {t : ValueType} (o : SceneObject) (k : Key t) (d : t.Data) :
    Except Error SceneObject := do
  let _ ← o.slot k.toSlotKey
  .ok (o.write k.index ⟨t, d⟩)

/-- Whether the slot under a key is marked. -/
def isDirty {t : ValueType} (o : SceneObject) (k : Key t) : Except Error Bool := do
  .ok (← o.slot k.toSlotKey).dirty

/-! ## By number -/

/-- The value in a slot. -/
def valueAt? (o : SceneObject) (index : Nat) : Option Value := (o.slots[index]?).map (·.value)

/-- Write the value in a slot, if the slot exists and has the value's type. -/
def setValueAt (o : SceneObject) (index : Nat) (v : Value) : Except Error SceneObject :=
  match o.sceneClass.attributes[index]? with
  | none => .error (.unknownAttribute o.sceneClass.name ("#" ++ toString index))
  | some a =>
      if a.type = v.type then .ok (o.write index v)
      else .error (.typeMismatch a.name a.type v.type)

/-! ## Back to the defaults, and replacement -/

/-- The slot holding the value; marked if it was, or if the value differs from the old one. -/
def Slot.replace (s : Slot) (v : Value) : Slot := ⟨v, s.dirty || !s.value.same v⟩

/-- The slot holding the default; untouched if its value compares equal to the default. -/
def Slot.reset (s : Slot) (default : Value) : Slot :=
  if s.value.same default then s else ⟨default, true⟩

/-- Put a slot back to its default. -/
def resetAt (o : SceneObject) (index : Nat) : SceneObject :=
  match o.sceneClass.attributes[index]? with
  | some a => { o with slots := o.slots.modify index (Slot.reset · a.default) }
  | none => o

/-- Put the slot under a key back to its default. -/
def reset {t : ValueType} (o : SceneObject) (k : Key t) : Except Error SceneObject := do
  let _ ← o.slot k.toSlotKey
  .ok (o.resetAt k.index)

/-- Put every slot back to its default. -/
def resetAll (o : SceneObject) : SceneObject :=
  (List.range o.slots.length).foldl resetAt o

/-- The object with new values for all slots. -/
def replaceValues (o : SceneObject) (vs : List Value) : SceneObject :=
  { o with slots := List.zipWith Slot.replace o.slots vs }

/-- What a caller holds after an operation on an object that can fail: the new object, or the old
one if the operation failed. -/
def afterwards (o : SceneObject) : Except Error SceneObject → SceneObject
  | .ok o' => o'
  | .error _ => o

/-! ## Small laws -/

/-- A new object has the defaults of its class. -/
@[simp] theorem values_new (c : SceneClass) (name : String) : (new c name).values = c.defaults := by
  simp [values, new, Function.comp_def]

/-- None of its slots is marked. -/
@[simp] theorem dirtyIndices_new (c : SceneClass) (name : String) :
    (new c name).dirtyIndices = [] := by
  simp only [dirtyIndices, new, List.map_eq_nil_iff, List.filter_eq_nil_iff]
  rintro ⟨s, i⟩ h
  have := List.fst_mem_of_mem_zipIdx h
  simp only [List.mem_map] at this
  obtain ⟨v, -, rfl⟩ := this
  simp

/-- Replacing by as many values as there are slots gives those values. -/
theorem values_replaceValues {o : SceneObject} {vs : List Value}
    (h : vs.length = o.slots.length) : (o.replaceValues vs).values = vs := by
  obtain ⟨c, n, i, slots⟩ := o
  simp only [values, replaceValues] at *
  induction slots generalizing vs with
  | nil => cases vs <;> simp_all
  | cons s rest ih =>
    cases vs with
    | nil => simp at h
    | cons v vs =>
      simp only [List.zipWith_cons_cons, List.map_cons]
      rw [ih (by simpa using h)]
      rfl

end SceneObject

end SceneSchema

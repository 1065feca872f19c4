import SceneSchema.Error
import SceneSchema.Schema.Attribute

/-!
# Scene classes

A `SceneClass` is an attribute table under construction: rows are appended by `declare`, annotated
by `addAlias`, `setMetadata`, `setGroup` and `setEnumText`, and the table is closed by `finalize`,
after which these operations fail with `Error.classFinalized`. A second table leads from every
attribute name and alias to its row (`SceneClass.find?`).

Every operation that can fail is a function into `Except Error SceneClass`: a failure leaves the
caller with the class it had. `Edit` has one constructor per operation, and `SceneClass.edit` does
what an edit says; a declaration is a list of edits.

Which of two errors wins is part of the behaviour. Declaring and adding an alias first ask whether
the class is open; the annotations first ask whether the key is one of this class.
-/

namespace SceneSchema

/-- A class of scene objects: its identity, its name and its attribute table. -/
structure SceneClass where
  id : ClassId
  name : String
  /-- The roles its objects can play. -/
  interface : Interface := .generic
  /-- The attribute table. -/
  attributes : List Attribute := []
  /-- Row numbers by attribute name and alias, the latest first. -/
  names : List (String × Nat) := []
  /-- Whether the table is closed. -/
  finalized : Bool := false
  deriving DecidableEq

namespace SceneClass

/-- An open class without attributes. -/
def new (id : ClassId) (name : String) : SceneClass := { id, name }

/-! ## Looking things up -/

/-- The number of attributes. -/
def count (c : SceneClass) : Nat := c.attributes.length

/-- The attribute of a name or alias. -/
def find? (c : SceneClass) (name : String) : Option Attribute := do
  c.attributes[← c.names.lookup name]?

/-- The default values in order. -/
def defaults (c : SceneClass) : List Value := c.attributes.map (·.default)

/-- The attribute types in order. -/
def types (c : SceneClass) : List ValueType := c.attributes.map (·.type)

/-- The key of an attribute, by name or alias, if it has the type. -/
def key (c : SceneClass) (name : String) (t : ValueType) : Except Error (Key t) :=
  match c.find? name with
  | none => .error (.unknownAttribute c.name name)
  | some a =>
      if a.type = t then .ok ⟨c.id, a.index⟩ else .error (.typeMismatch a.name a.type t)

/-- The attribute that a key names, if this class issued the key. -/
def row? (c : SceneClass) (k : SlotKey) : Option Attribute :=
  if k.owner = c.id then c.attributes[k.index]? else none

/-- Whether two classes have the same name, interface and attribute table, default values compared
by `Value.same`. -/
def sameDeclaration (a b : SceneClass) : Bool :=
  a.name == b.name && a.interface == b.interface &&
    List.isEqv a.attributes b.attributes Attribute.same

/-! ## Changing an open class -/

/-- Fails if the class is closed; `name` is what was to be declared or annotated. -/
def checkOpen (c : SceneClass) (name : String) : Except Error Unit :=
  if c.finalized then .error (.classFinalized c.name name) else .ok ()

/-- Fails if the name is taken. -/
def checkFree (c : SceneClass) (name : String) : Except Error Unit :=
  if (c.names.lookup name).isSome then .error (.duplicateAttribute c.name name) else .ok ()

/-- The attribute that a key names; fails if this class did not issue the key. -/
def checkKey (c : SceneClass) (k : SlotKey) : Except Error Attribute :=
  match c.row? k with
  | some a => .ok a
  | none => .error (.foreignKey c.name c.name)

/-- The class with one row changed. -/
def modifyRow (c : SceneClass) (index : Nat) (f : Attribute → Attribute) : SceneClass :=
  { c with attributes := c.attributes.modify index f }

/-- Append an attribute. -/
def declare (c : SceneClass) (name : String) (default : Value) (flags : AttributeFlags) :
    Except Error SceneClass := do
  c.checkOpen name
  c.checkFree name
  .ok { c with
    attributes := c.attributes ++ [.new name default flags c.count]
    names := (name, c.count) :: c.names }

/-- Give an attribute one more name. -/
def addAlias (c : SceneClass) (k : SlotKey) (name : String) : Except Error SceneClass := do
  c.checkOpen name
  let _ ← c.checkKey k
  c.checkFree name
  .ok { c.modifyRow k.index fun a => { a with aliases := a.aliases ++ [name] } with
    names := (name, k.index) :: c.names }

/-- Annotate an attribute, in place of an annotation under the same key. -/
def setMetadata (c : SceneClass) (k : SlotKey) (entry text : String) :
    Except Error SceneClass := do
  c.checkOpen (← c.checkKey k).name
  .ok (c.modifyRow k.index fun a => { a with metadata := insertSorted entry text a.metadata })

/-- Put an attribute under a heading. -/
def setGroup (c : SceneClass) (k : SlotKey) (group : String) : Except Error SceneClass := do
  c.checkOpen (← c.checkKey k).name
  .ok (c.modifyRow k.index fun a => { a with group := some group })

/-- Describe a value of an enumerable attribute. -/
def setEnumText (c : SceneClass) (k : Key (.scalar .int)) (value : Int32) (text : String) :
    Except Error SceneClass := do
  let a ← c.checkKey k.toSlotKey
  c.checkOpen a.name
  if a.isEnumerable then
    .ok (c.modifyRow k.index fun a => { a with enumTexts := a.enumTexts.put value text })
  else
    .error (.declarationFailed c.name ("attribute '" ++ a.name ++ "' is not ENUMERABLE"))

/-- Close the table. -/
def finalize (c : SceneClass) : SceneClass := { c with finalized := true }

/-- The class with the given roles. -/
def withInterface (c : SceneClass) (i : Interface) : SceneClass := { c with interface := i }

/-- The key of the attribute declared last, for a class that has one. -/
def lastKey (c : SceneClass) (t : ValueType) : Key t := ⟨c.id, c.count - 1⟩

end SceneClass

/-! ## Edits as data -/

/-- One change to an open class. -/
inductive Edit where
  | declare (name : String) (default : Value) (flags : AttributeFlags)
  | addAlias (key : SlotKey) (name : String)
  | setMetadata (key : SlotKey) (entry text : String)
  | setGroup (key : SlotKey) (group : String)
  | setEnumText (key : Key (.scalar .int)) (value : Int32) (text : String)
  | finalize
  deriving DecidableEq

/-- Do what the edit says. -/
def SceneClass.edit (c : SceneClass) : Edit → Except Error SceneClass
  | .declare name default flags => c.declare name default flags
  | .addAlias key name => c.addAlias key name
  | .setMetadata key entry text => c.setMetadata key entry text
  | .setGroup key group => c.setGroup key group
  | .setEnumText key value text => c.setEnumText key value text
  | .finalize => .ok c.finalize

namespace SceneClass

/-- Do what the edits say, one after the other, skipping those that fail. -/
def edits (c : SceneClass) : List Edit → SceneClass
  | [] => c
  | e :: rest =>
      match c.edit e with
      | .ok c' => c'.edits rest
      | .error _ => c.edits rest

/-! ## Small laws -/

/-- A class passes the check exactly if it is not closed. -/
theorem checkOpen_eq_ok_iff {c : SceneClass} {name : String} :
    c.checkOpen name = .ok () ↔ c.finalized = false := by
  unfold checkOpen; cases c.finalized <;> simp

end SceneClass

end SceneSchema

import SceneSchema.Schema.Flags
import SceneSchema.Table
import SceneSchema.Value.Basic

/-!
# Attributes and the keys that name them

An `Attribute` is one row of a class's attribute table: name, type, default value, flags, and the
annotations that may be added while the class is open. The type is written down when the row is made
and is not read off the default again; that it is the default's is an invariant of classes
(`SceneClass.RowsTyped`, among the proofs). Metadata are kept sorted by key
(`insertSorted`), the texts of enumerated values in the order in which the values were first given
one (`Table.put`); both keep one entry per key.

A `SlotKey` names a row by the identity of the class that issued it and the row's number; a
`Key t` is a slot key that vouches for the type `t` of the row.
-/

namespace SceneSchema

/-- The identity of one class. Classes made later have larger numbers. -/
structure ClassId where
  number : Nat
  deriving DecidableEq, Inhabited, Repr

/-- Names a row of the attribute table of one class. -/
structure SlotKey where
  /-- The class that issued the key. -/
  owner : ClassId
  /-- The row, counted from zero. -/
  index : Nat
  deriving DecidableEq, Inhabited, Repr

/-- Names a row whose values have type `t`. -/
structure Key (t : ValueType) extends SlotKey
  deriving DecidableEq, Repr

/-- The key as a report shows it, the number of the class left out. -/
def Key.display {t : ValueType} (k : Key t) : String :=
  "AttributeKey \x7b class_id: #, index: " ++ toString k.index ++ ", type: " ++ t.plainName ++
    " \x7d"

/-! ## Sorted annotations -/

/-- Put an entry into a list sorted by key, in place of an entry of the same key. -/
def insertSorted (key text : String) : Table String String → Table String String
  | [] => [(key, text)]
  | (k, old) :: rest =>
      if key < k then (key, text) :: (k, old) :: rest
      else if key = k then (key, text) :: rest
      else (k, old) :: insertSorted key text rest

/-- What was inserted under a key is found under it. -/
theorem lookup_insertSorted_self (key text : String) (entries : Table String String) :
    (insertSorted key text entries).lookup key = some text := by
  induction entries with
  | nil => simp [insertSorted]
  | cons e rest ih =>
    obtain ⟨k, old⟩ := e
    simp only [insertSorted]
    split
    · simp
    · split
      · simp
      · rename_i apart
        have other : (key == k) = false := by simpa using apart
        simp [List.lookup_cons, other, ih]

/-! ## Attributes -/

/-- One row of an attribute table. -/
structure Attribute where
  name : String
  /-- The type of the attribute's values. -/
  type : ValueType
  /-- The value of the attribute in a new object. -/
  default : Value
  flags : AttributeFlags
  /-- The row's number in its table. -/
  index : Nat
  /-- Further names, in the order in which they were added. -/
  aliases : List String := []
  /-- Free annotations, sorted by key. -/
  metadata : Table String String := []
  /-- Descriptions of values, for an enumerable attribute. -/
  enumTexts : Table Int32 String := []
  /-- The heading under which the attribute is shown. -/
  group : Option String := none
  deriving DecidableEq

namespace Attribute

/-- The row of a new attribute, which has the type of its default. -/
def new (name : String) (default : Value) (flags : AttributeFlags) (index : Nat) : Attribute :=
  { name, type := default.type, default, flags, index }

/-- The annotation under a key. -/
def metadata? (a : Attribute) (key : String) : Option String := a.metadata.lookup key

/-- The description of a value. -/
def enumText? (a : Attribute) (value : Int32) : Option String := a.enumTexts.lookup value

/-- Whether the attribute may differ within a motion blur interval. -/
def isBlurrable (a : Attribute) : Bool := a.flags.has .blurrable

/-- Whether the attribute's values are listed with descriptions. -/
def isEnumerable (a : Attribute) : Bool := a.flags.has .enumerable

/-- Whether the attribute's value names a file. -/
def isFilename (a : Attribute) : Bool := a.flags.has .filename

/-- Whether two rows declare the same: default values compare by `Value.same`, all else as it is. -/
def same (a b : Attribute) : Bool :=
  a.default.same b.default && decide ({ a with default := b.default } = b)

end Attribute

end SceneSchema

/-!
# The types an attribute can have

Eleven kinds of plain data (`Scalar`), references to scene objects, and vectors of either:
twenty-four types in all. `ValueType.all` lists them in declaration order, and `mem_all` says that
none is missing. A type's `name` is the word used for it in messages and reports.
-/

namespace SceneSchema

/-- The kinds of plain data. -/
inductive Scalar where
  | bool
  /-- A signed 32-bit integer. -/
  | int
  /-- A signed 64-bit integer. -/
  | long
  | float
  | double
  | string
  /-- A color: red, green, blue. -/
  | rgb
  /-- A color with opacity: red, green, blue, alpha. -/
  | rgba
  | vec2f
  | vec3f
  | vec4f
  deriving DecidableEq, Inhabited, Repr

/-- The types of attribute values. -/
inductive ValueType where
  /-- One plain datum. -/
  | scalar (kind : Scalar)
  /-- A reference to a scene object, or none. -/
  | object
  /-- A list of plain data of one kind. -/
  | vector (kind : Scalar)
  /-- A list of references to scene objects. -/
  | objects
  deriving DecidableEq, Inhabited, Repr

namespace Scalar

/-- The kinds in order. -/
def all : List Scalar :=
  [.bool, .int, .long, .float, .double, .string, .rgb, .rgba, .vec2f, .vec3f, .vec4f]

/-- The list has all kinds. -/
theorem mem_all (k : Scalar) : k ∈ all := by cases k <;> decide

/-- The word for the kind. -/
def name : Scalar → String
  | .bool => "Bool"
  | .int => "Int"
  | .long => "Long"
  | .float => "Float"
  | .double => "Double"
  | .string => "String"
  | .rgb => "Rgb"
  | .rgba => "Rgba"
  | .vec2f => "Vec2f"
  | .vec3f => "Vec3f"
  | .vec4f => "Vec4f"

/-- How many bytes a datum of the kind takes, if all of them take equally many. -/
def encodedSize : Scalar → Option Nat
  | .bool => some 1
  | .int | .float => some 4
  | .long | .double | .vec2f => some 8
  | .rgb | .vec3f => some 12
  | .rgba | .vec4f => some 16
  | .string => none

end Scalar

namespace ValueType

/-- The types in order: plain data, references, then the vectors of each. -/
def all : List ValueType :=
  Scalar.all.map .scalar ++ [.object] ++ Scalar.all.map .vector ++ [.objects]

/-- The list has all types. -/
theorem mem_all (t : ValueType) : t ∈ all := by
  cases t with
  | scalar k => simp [all, Scalar.mem_all]
  | object => simp [all]
  | vector k => simp [all, Scalar.mem_all]
  | objects => simp [all]

/-- The word for the type. A star marks a reference. -/
def name : ValueType → String
  | .scalar k => k.name
  | .object => "SceneObject*"
  | .vector k => k.name ++ "Vector"
  | .objects => "SceneObjectVector"

/-- The type in the listing of a key, where a reference has no star. -/
def plainName : ValueType → String
  | .object => "SceneObject"
  | t => t.name

/-- The type of the elements, for a vector. -/
def element? : ValueType → Option ValueType
  | .scalar _ | .object => none
  | .vector k => some (.scalar k)
  | .objects => some .object

/-- Whether values of the type are lists. -/
def isVector (t : ValueType) : Bool := t.element?.isSome

/-- How many bytes a value of the type takes, if all of them take equally many. -/
def encodedSize : ValueType → Option Nat
  | .scalar k => k.encodedSize
  | .object | .vector _ | .objects => none

/-- A type is shown by its name. -/
instance : ToString ValueType := ⟨name⟩

end ValueType

end SceneSchema

import SceneSchema.Number.Ieee
import SceneSchema.Value.Type

/-!
# Attribute values

A value is a type together with data of that type: `Value.type` is the tag, and `Value.data` has
the Lean type `ValueType.Data` that the tag names. Reading a value *as* a type (`Value.get?`)
therefore succeeds exactly if the tag agrees.

Lean's equality on values is equality bit for bit. The program's own comparison is `Value.same`, in
which floating point numbers compare by the IEEE rule, alone, in colors and vectors, and as
elements of a list; everything else compares as it is.

Main statements: `get?_eq_some_iff` and `get?_mk` for reading, `type_of_same` and `same_comm` for
the comparison, and `type_zero` for the zero value of each type.
-/

namespace SceneSchema

/-- A fixed number of single precision components. -/
abbrev Floats (n : Nat) := Vector Single n

/-- A scene object named by its class and its own name. -/
structure ObjectRef where
  className : String
  name : String
  deriving DecidableEq, Inhabited, Repr

/-- The reference as shown: the class, then the name in apostrophes between parentheses. -/
def ObjectRef.display (r : ObjectRef) : String := r.className ++ "('" ++ r.name ++ "')"

/-- The data of one scalar kind. -/
def Scalar.Data : Scalar → Type
  | .bool => Bool
  | .int => Int32
  | .long => Int64
  | .float => Single
  | .double => Double
  | .string => String
  | .rgb => Floats 3
  | .rgba => Floats 4
  | .vec2f => Floats 2
  | .vec3f => Floats 3
  | .vec4f => Floats 4

/-- The data of one type. -/
def ValueType.Data : ValueType → Type
  | .scalar k => k.Data
  | .object => Option ObjectRef
  | .vector k => List k.Data
  | .objects => List ObjectRef

/-- Data of each kind can be compared for being the same, bit for bit. -/
instance instDecidableEqScalarData : (k : Scalar) → DecidableEq k.Data
  | .bool => inferInstanceAs (DecidableEq Bool)
  | .int => inferInstanceAs (DecidableEq Int32)
  | .long => inferInstanceAs (DecidableEq Int64)
  | .float => inferInstanceAs (DecidableEq Single)
  | .double => inferInstanceAs (DecidableEq Double)
  | .string => inferInstanceAs (DecidableEq String)
  | .rgb | .vec3f => inferInstanceAs (DecidableEq (Floats 3))
  | .rgba | .vec4f => inferInstanceAs (DecidableEq (Floats 4))
  | .vec2f => inferInstanceAs (DecidableEq (Floats 2))

/-- So can data of each type. -/
instance instDecidableEqTypeData : (t : ValueType) → DecidableEq t.Data
  | .scalar k => instDecidableEqScalarData k
  | .object => inferInstanceAs (DecidableEq (Option ObjectRef))
  | .vector k => inferInstanceAs (DecidableEq (List k.Data))
  | .objects => inferInstanceAs (DecidableEq (List ObjectRef))

/-- A value of any type, with its type. -/
structure Value where
  type : ValueType
  data : type.Data
  deriving DecidableEq

/-! ## Zero values -/

/-- The datum that stands for nothing in particular: false, zero or the empty text. -/
def Scalar.zero : (k : Scalar) → k.Data
  | .bool => false
  | .int => (0 : Int32)
  | .long => (0 : Int64)
  | .float => Single.zero
  | .double => Double.zero
  | .string => ""
  | .rgb | .vec3f => Vector.replicate 3 Single.zero
  | .rgba | .vec4f => Vector.replicate 4 Single.zero
  | .vec2f => Vector.replicate 2 Single.zero

namespace Value

/-- The zero value of a type: a zero datum, no reference, or an empty list. -/
def zero : ValueType → Value
  | .scalar k => ⟨.scalar k, k.zero⟩
  | .object => ⟨.object, (none : Option ObjectRef)⟩
  | .vector k => ⟨.vector k, ([] : List k.Data)⟩
  | .objects => ⟨.objects, ([] : List ObjectRef)⟩

/-- The zero value has its type. -/
theorem type_zero (t : ValueType) : (zero t).type = t := by cases t <;> rfl

/-- A value of the default type stands for those that do not matter. -/
instance : Inhabited Value := ⟨zero default⟩

/-! ## Reading a value as a type -/

/-- The value's data, if it has the type. -/
def get? (v : Value) (t : ValueType) : Option t.Data :=
  if h : v.type = t then some (h ▸ v.data) else none

/-- A value of a type gives its datum back at this type. -/
@[simp] theorem get?_mk (t : ValueType) (d : t.Data) : (Value.mk t d).get? t = some d := by
  simp [get?]

/-- A value gives a datum at a type only if it is made of both. -/
theorem get?_eq_some_iff {v : Value} {t : ValueType} {d : t.Data} :
    v.get? t = some d ↔ v = ⟨t, d⟩ := by
  constructor
  · intro h
    unfold get? at h
    split at h
    · rename_i ht
      obtain ⟨t', d'⟩ := v
      cases ht
      cases h
      rfl
    · cases h
  · rintro rfl
    exact get?_mk t d

/-- The number of elements, for a vector. -/
def length? : Value → Option Nat
  | ⟨.scalar _, _⟩ => none
  | ⟨.object, _⟩ => none
  | ⟨.vector _, items⟩ => some (List.length items)
  | ⟨.objects, items⟩ => some (List.length items)

end Value

/-! ## Comparison -/

/-- Componentwise comparison. -/
def Floats.same {n : Nat} (x y : Floats n) : Bool := List.isEqv x.toList y.toList Single.same

/-- Comparison of data of one kind. -/
def Scalar.same : (k : Scalar) → k.Data → k.Data → Bool
  | .bool, x, y => x == y
  | .int, x, y => x == y
  | .long, x, y => x == y
  | .float, x, y => Single.same x y
  | .double, x, y => Double.same x y
  | .string, x, y => x == y
  | .rgb, x, y => Floats.same x y
  | .rgba, x, y => Floats.same x y
  | .vec2f, x, y => Floats.same x y
  | .vec3f, x, y => Floats.same x y
  | .vec4f, x, y => Floats.same x y

/-- Comparison of data of one type. -/
def ValueType.same : (t : ValueType) → t.Data → t.Data → Bool
  | .scalar k, x, y => k.same x y
  | .object, x, y => decide ((x : Option ObjectRef) = y)
  | .vector k, x, y => List.isEqv x y k.same
  | .objects, x, y => decide ((x : List ObjectRef) = y)

namespace Value

/-- Comparison of values: the types agree, and so do the data, floating point numbers by the IEEE
rule. -/
def same (v w : Value) : Bool :=
  match w.get? v.type with
  | some d => v.type.same v.data d
  | none => false

/-- Values of one type compare as their data do. -/
theorem same_mk (t : ValueType) (x y : t.Data) : same ⟨t, x⟩ ⟨t, y⟩ = t.same x y := by
  simp [same]

/-- Values that compare equal are of the same type. -/
theorem type_of_same {v w : Value} (h : v.same w = true) : v.type = w.type := by
  unfold same at h
  split at h
  · rename_i d hd
    rw [get?_eq_some_iff.1 hd]
  · cases h

end Value

/-- Lists compare the same both ways if their items do. -/
theorem isEqv_comm {α : Type} {eqv : α → α → Bool} (h : ∀ a b, eqv a b = eqv b a) :
    ∀ xs ys : List α, List.isEqv xs ys eqv = List.isEqv ys xs eqv
  | [], [] => rfl
  | [], _ :: _ => rfl
  | _ :: _, [] => rfl
  | x :: xs, y :: ys => by simp [List.isEqv, h x y, isEqv_comm h xs ys]

/-- Data of a kind compare the same both ways. -/
theorem Scalar.same_comm (k : Scalar) (x y : k.Data) : k.same x y = k.same y x := by
  cases k
  case float => exact Single.same_comm x y
  case double => exact Double.same_comm x y
  case rgb | rgba | vec2f | vec3f | vec4f => exact isEqv_comm Single.same_comm _ _
  all_goals exact Bool.eq_iff_iff.2 ⟨fun h => by simp_all [Scalar.same], fun h => by
    simp_all [Scalar.same]⟩

/-- Data of a type compare the same both ways. -/
theorem ValueType.same_comm (t : ValueType) (x y : t.Data) : t.same x y = t.same y x := by
  cases t with
  | scalar k => exact k.same_comm x y
  | object => simp only [ValueType.same]; congr 1; exact propext eq_comm
  | vector k => exact isEqv_comm k.same_comm _ _
  | objects => simp only [ValueType.same]; congr 1; exact propext eq_comm

/-- Values compare the same both ways, also if their types differ. -/
theorem Value.same_comm (v w : Value) : v.same w = w.same v := by
  by_cases h : v.type = w.type
  · obtain ⟨t, x⟩ := v
    obtain ⟨t', y⟩ := w
    cases h
    rw [same_mk, same_mk, ValueType.same_comm]
  · rw [Bool.eq_iff_iff]
    exact ⟨fun e => absurd (type_of_same e) h, fun e => absurd (type_of_same e).symm h⟩

/-! ## Colors -/

/-- The color with full opacity. -/
def opaqueColor (c : Floats 3) : Floats 4 := c.push Single.one

end SceneSchema

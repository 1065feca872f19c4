import SceneSchema.Schema.Attribute

/-!
# What compares equal

The program compares values by `Value.same`, which is neither equality of bits nor an equivalence: a
value with a NaN in it differs from itself, and the two zeros are equal wherever they stand. It
departs from equality of bits in no other way. `Value.holdsNaN` says whether there is a NaN anywhere
in a value, and `Value.unsignedZeros` takes the sign from every zero in it.

**Main statement** (`Value.same_iff`): two values compare equal exactly if there is no NaN in them
and they are the same but for the signs of zeros. So a value compares equal to itself exactly if it
holds no NaN (`Value.same_self_iff`), and comparing equal is transitive (`Value.same_trans`),
through vectors and lists of any length.
-/

namespace SceneSchema

/-! ### Numbers -/

/-- To be the same or two zeros is to be the same once all zeros are one. -/
theorem eq_or_zeros_iff {α : Type} (isNaN : α → Bool) (magnitude : α → Nat) (zero : α)
    (isZero : magnitude zero = 0) (real : ∀ x, magnitude x = 0 → isNaN x = false) {x y : α} :
    (isNaN x = false ∧ isNaN y = false ∧ (x = y ∨ (magnitude x = 0 ∧ magnitude y = 0))) ↔
      isNaN x = false ∧
        (if magnitude x = 0 then zero else x) = if magnitude y = 0 then zero else y := by
  by_cases hx : magnitude x = 0 <;> by_cases hy : magnitude y = 0
  · simp [hx, hy, real]
  · have apart : x ≠ y := by rintro rfl; exact hy hx
    have other : zero ≠ y := by rintro rfl; exact hy isZero
    simp [hx, hy, apart, other]
  · have apart : x ≠ y := by rintro rfl; exact hx hy
    have other : x ≠ zero := by rintro rfl; exact hx isZero
    simp [hx, hy, apart, other]
  · simp only [hx, hy, if_false, false_and, or_false]
    constructor
    · exact fun h => ⟨h.1, h.2.2⟩
    · rintro ⟨number, rfl⟩
      exact ⟨number, number, rfl⟩

namespace Single

/-- The zero that has a sign. -/
def negativeZero : Single := ⟨0x80000000⟩

/-- A bit pattern that is not a number. -/
def quietNaN : Single := ⟨0x7fc00000⟩

/-- The number, without its sign if it is a zero. -/
def unsignedZero (x : Single) : Single := if x.magnitude = 0 then zero else x

/-- Singles compare equal if they are no NaN and the same but for the sign of a zero. -/
theorem same_iff_unsignedZero (x y : Single) :
    x.same y = true ↔ x.isNaN = false ∧ x.unsignedZero = y.unsignedZero :=
  same_iff.trans (eq_or_zeros_iff isNaN magnitude zero rfl fun x h => by simp [isNaN, h])

end Single

namespace Double

/-- The number, without its sign if it is a zero. -/
def unsignedZero (x : Double) : Double := if x.magnitude = 0 then zero else x

/-- So do doubles. -/
theorem same_iff_unsignedZero (x y : Double) :
    x.same y = true ↔ x.isNaN = false ∧ x.unsignedZero = y.unsignedZero :=
  same_iff.trans (eq_or_zeros_iff isNaN magnitude zero rfl fun x h => by simp [isNaN, h])

end Double

/-! ### Data -/

/-- A comparison of what is neither spoilt nor different in form is one of lists, too. -/
theorem isEqv_iff {α : Type} {eqv : α → α → Bool} {spoilt : α → Bool} {form : α → α}
    (each : ∀ a b, eqv a b = true ↔ spoilt a = false ∧ form a = form b) (xs ys : List α) :
    List.isEqv xs ys eqv = true ↔ xs.any spoilt = false ∧ xs.map form = ys.map form := by
  induction xs generalizing ys with
  | nil => cases ys <;> simp [List.isEqv]
  | cons x xs ih =>
    cases ys with
    | nil => simp [List.isEqv]
    | cons y ys =>
      simp only [List.isEqv, Bool.and_eq_true, each, ih, List.any_cons, Bool.or_eq_false_iff,
        List.map_cons, List.cons.injEq]
      exact and_and_and_comm

namespace Floats

variable {n : Nat}

/-- Whether a component is a NaN. -/
def holdsNaN (x : Floats n) : Bool := x.toList.any Single.isNaN

/-- The components, zeros without their sign. -/
def unsignedZeros (x : Floats n) : Floats n := x.map Single.unsignedZero

/-- Float tuples compare equal if no component is a NaN and all are the same but for signs of
zeros. -/
theorem same_iff {x y : Floats n} :
    x.same y = true ↔ x.holdsNaN = false ∧ x.unsignedZeros = y.unsignedZeros := by
  have lists := isEqv_iff Single.same_iff_unsignedZero x.toList y.toList
  rw [same, lists, holdsNaN, unsignedZeros, unsignedZeros, ← Vector.toList_inj, Vector.toList_map,
    Vector.toList_map]

end Floats

namespace Scalar

/-- Whether there is a NaN in a datum. -/
def holdsNaN : (k : Scalar) → k.Data → Bool
  | .bool, _ | .int, _ | .long, _ | .string, _ => false
  | .float, x => Single.isNaN x
  | .double, x => Double.isNaN x
  | .rgb, x => Floats.holdsNaN x
  | .rgba, x => Floats.holdsNaN x
  | .vec2f, x => Floats.holdsNaN x
  | .vec3f, x => Floats.holdsNaN x
  | .vec4f, x => Floats.holdsNaN x

/-- The datum, zeros without their sign. -/
def unsignedZeros : (k : Scalar) → k.Data → k.Data
  | .bool, x => x
  | .int, x => x
  | .long, x => x
  | .string, x => x
  | .float, x => Single.unsignedZero x
  | .double, x => Double.unsignedZero x
  | .rgb, x => Floats.unsignedZeros x
  | .rgba, x => Floats.unsignedZeros x
  | .vec2f, x => Floats.unsignedZeros x
  | .vec3f, x => Floats.unsignedZeros x
  | .vec4f, x => Floats.unsignedZeros x

/-- So do data of each kind; those without floats compare equal if they are the same. -/
theorem same_iff (k : Scalar) (x y : k.Data) :
    k.same x y = true ↔ k.holdsNaN x = false ∧ k.unsignedZeros x = k.unsignedZeros y := by
  cases k
  case float => exact Single.same_iff_unsignedZero x y
  case double => exact Double.same_iff_unsignedZero x y
  case rgb | rgba | vec2f | vec3f | vec4f => exact Floats.same_iff
  all_goals simp [same, holdsNaN, unsignedZeros]

end Scalar

namespace ValueType

/-- Whether there is a NaN in data of the type. -/
def holdsNaN : (t : ValueType) → t.Data → Bool
  | .scalar k, x => k.holdsNaN x
  | .object, _ | .objects, _ => false
  | .vector k, xs => List.any xs k.holdsNaN

/-- The data, zeros without their sign. -/
def unsignedZeros : (t : ValueType) → t.Data → t.Data
  | .scalar k, x => k.unsignedZeros x
  | .object, x => x
  | .objects, x => x
  | .vector k, xs => List.map k.unsignedZeros xs

/-- So do data of each type. -/
theorem same_iff (t : ValueType) (x y : t.Data) :
    t.same x y = true ↔ t.holdsNaN x = false ∧ t.unsignedZeros x = t.unsignedZeros y := by
  cases t with
  | scalar k => exact k.same_iff x y
  | vector k => exact isEqv_iff k.same_iff x y
  | object | objects => simp [same, holdsNaN, unsignedZeros]

end ValueType

/-! ### Values -/

namespace Value

/-- Whether there is a NaN anywhere in the value. -/
def holdsNaN (v : Value) : Bool := v.type.holdsNaN v.data

/-- The value, zeros without their sign. -/
def unsignedZeros (v : Value) : Value := ⟨v.type, v.type.unsignedZeros v.data⟩

variable {u v w : Value}

/-- **Values compare equal exactly if no NaN is in them and they are the same but for the signs of
zeros.** -/
theorem same_iff : v.same w = true ↔ v.holdsNaN = false ∧ v.unsignedZeros = w.unsignedZeros := by
  by_cases types : v.type = w.type
  · obtain ⟨t, x⟩ := v
    obtain ⟨t', y⟩ := w
    obtain rfl : t = t' := types
    rw [same_mk, ValueType.same_iff]
    simp [holdsNaN, unsignedZeros]
  · constructor
    · exact fun h => absurd (type_of_same h) types
    · exact fun h => absurd (congrArg Value.type h.2) types

/-- A value compares equal to itself exactly if it holds no NaN. -/
theorem same_self_iff : v.same v = true ↔ v.holdsNaN = false := by simp [same_iff]

/-- Comparing equal is transitive. -/
theorem same_trans (h : u.same v = true) (h' : v.same w = true) : u.same w = true := by
  rw [same_iff] at h h' ⊢
  exact ⟨h.1, h.2.trans h'.2⟩

end Value

end SceneSchema

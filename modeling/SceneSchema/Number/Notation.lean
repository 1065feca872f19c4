import SceneSchema.Number.Shortest

/-!
# How a report writes floating point numbers

Two notations of the shortest decimal. `plain` writes every number positionally and an integral one
without a point: `1`, `0.1`, `100000000000000000000`. `exact` keeps a point in integral numbers
(`1.0`) and turns to an exponent (`1e-7`, `1.1754942e-38`) outside the window from `10 ^ -4` up to,
not including, `10 ^ 16`. Both keep the sign of zero, and write `NaN`, `inf` and `-inf`.
-/

namespace SceneSchema

/-- The decisions in which the two notations differ. -/
structure FloatNotation where
  /-- Whether an integral number written positionally ends in `.0`. -/
  keepPoint : Bool
  /-- The powers of ten of the leading digit, first and last, that are written positionally;
  without a window all are. -/
  window : Option (Int × Int)

namespace FloatNotation

/-- Positional throughout. -/
def plain : FloatNotation := ⟨false, none⟩

/-- A point is kept, and an exponent is used below `10 ^ -4` and from `10 ^ 16` on. -/
def exact : FloatNotation := ⟨true, some (-4, 15)⟩

end FloatNotation

namespace Decimal

/-- The power of ten of the leading digit. -/
def leading (d : Decimal) : Int := d.exponent + (decimalLength d.digits - 1 : Nat)

/-- All digits in place: zeros before the first or after the last one as needed. -/
def positional (d : Decimal) (keepPoint : Bool) : String :=
  let text := toString d.digits
  if 0 ≤ d.exponent then
    text ++ String.ofList (List.replicate d.exponent.toNat '0') ++ (if keepPoint then ".0" else "")
  else
    let places := (-d.exponent).toNat
    let padded := List.replicate (places + 1 - text.length) '0' ++ text.toList
    let whole := padded.length - places
    String.ofList (padded.take whole) ++ "." ++ String.ofList (padded.drop whole)

/-- One digit, a point and the others if there are any, and the power of ten. -/
def scientific (d : Decimal) : String :=
  match (toString d.digits).toList with
  | [] => ""
  | [c] => String.singleton c ++ "e" ++ toString d.leading
  | c :: rest => String.singleton c ++ "." ++ String.ofList rest ++ "e" ++ toString d.leading

/-- The decimal in the notation. Zero is always positional. -/
def write (d : Decimal) (n : FloatNotation) : String :=
  match n.window with
  | none => d.positional n.keepPoint
  | some (first, last) =>
      if d.digits = 0 ∨ (first ≤ d.leading ∧ d.leading ≤ last) then d.positional n.keepPoint
      else d.scientific

end Decimal

/-- The text of a floating point number. -/
def Binary.Reading.write (r : Binary.Reading) (n : FloatNotation) : String :=
  match r with
  | .nan => "NaN"
  | .infinite negative => if negative then "-inf" else "inf"
  | .finite negative m q narrow =>
      (if negative then "-" else "") ++ (shortest m q narrow).write n

end SceneSchema

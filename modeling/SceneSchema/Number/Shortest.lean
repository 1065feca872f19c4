import SceneSchema.Number.Ieee

/-!
# The fewest digits that read back

A binary number `m * 2 ^ q` is the nearest number of its format to every real in an interval around
it; the two ends belong to the interval exactly if `m` is even. `shortest` gives the decimal with
the fewest significant digits inside that interval; among those with equally few digits the one
nearest to the number, and of two equally near the larger.

All comparisons are exact: the number and the two ends of its interval are natural numbers over one
common denominator (`Span`). For one, two, three … digits the two neighbours of the number on that
decimal grid are tried, and the first grid with a neighbour inside the interval decides. Seventeen
digits always suffice for sixty-four bits.
-/

namespace SceneSchema

/-- The decimal `digits * 10 ^ exponent`. -/
structure Decimal where
  /-- The significant digits, read as one number. -/
  digits : Nat
  /-- The power of ten of the last digit. -/
  exponent : Int
  deriving DecidableEq, Repr

/-- A positive number with its rounding interval, as fractions of one denominator. -/
structure Span where
  /-- Numerator of the lower end. -/
  low : Nat
  /-- Numerator of the number itself. -/
  value : Nat
  /-- Numerator of the upper end. -/
  high : Nat
  /-- The common denominator. -/
  den : Nat
  /-- Whether the two ends round to the number as well. -/
  closed : Bool

namespace Span

/-- The rounding interval of `m * 2 ^ q`. Half a step reaches up; half a step reaches down too,
except below the least significand of a binade (`narrow`), where steps are half as long. -/
def ofBinary (m : Nat) (q : Int) (narrow : Bool) : Span :=
  let scale := Nat.pow 2 q.toNat
  { low := (4 * m - if narrow then 1 else 2) * scale
    value := 4 * m * scale
    high := (4 * m + 2) * scale
    den := 4 * Nat.pow 2 (-q).toNat
    closed := m % 2 = 0 }

/-- Whether the fraction `n / s.den` lies in the interval. -/
def has (s : Span) (n : Nat) : Bool :=
  if s.closed then s.low ≤ n && n ≤ s.high else s.low < n && n < s.high

/-- The span with every numerator multiplied by `k`, for grids finer than the denominator. -/
def refine (s : Span) (k : Nat) : Span :=
  { s with low := s.low * k, value := s.value * k, high := s.high * k }

end Span

/-- How many decimal digits `n` has; zero has one. -/
def decimalLength (n : Nat) : Nat :=
  if n < 10 then 1 else decimalLength (n / 10) + 1

/-- The power of ten of the leading digit of `n / d`, for positive `n` and `d`. -/
def leadingPower (n d : Nat) : Int :=
  if d ≤ n then decimalLength (n / d) - 1 else -decimalLength ((d - 1) / n)

/-- The better neighbour of the number on the grid of multiples of `10 ^ power`, if one of the two
lies in the interval. -/
def Span.onGrid (s : Span) (power : Int) : Option Nat :=
  let s := s.refine (Nat.pow 10 (-power).toNat)
  let unit := s.den * Nat.pow 10 power.toNat
  let below := s.value / unit
  let above := below + 1
  match s.has (below * unit), s.has (above * unit) with
  | true, true =>
      if s.value - below * unit < above * unit - s.value then some below else some above
  | true, false => some below
  | false, true => some above
  | false, false => none

/-- Drop trailing zeros, moving them into the exponent. -/
def Decimal.trim (d : Decimal) : Decimal :=
  if d.digits = 0 ∨ d.digits % 10 ≠ 0 then d
  else Decimal.trim ⟨d.digits / 10, d.exponent + 1⟩
termination_by d.digits
decreasing_by omega

/-- The shortest decimal of the interval that is nearest to the number. -/
def Span.shortest (s : Span) : Decimal :=
  let lead := leadingPower s.value s.den
  let found := (List.range 17).findSome? fun (n : Nat) =>
    (s.onGrid (lead - n)).map fun digits => (⟨digits, lead - n⟩ : Decimal)
  (found.getD ⟨s.value / s.den, 0⟩).trim

/-- The shortest decimal that reads back as `m * 2 ^ q`; zero is `0`. -/
def shortest (m : Nat) (q : Int) (narrow : Bool) : Decimal :=
  if m = 0 then ⟨0, 0⟩ else (Span.ofBinary m q narrow).shortest

end SceneSchema

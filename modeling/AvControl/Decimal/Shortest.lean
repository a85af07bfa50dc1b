import AvControl.Decimal.Binary64

/-!
# The shortest decimal of a binary64 number

The text of a number holds the fewest digits that still read back as that number and, among those,
the digits closest to it. A decimal reads back when it lies between the midpoints towards the two
neighbours of the number, the midpoints themselves counting for an even significand. Grids of
powers of ten are tried from coarse to fine; on a grid only the two points around the number can
lie in the interval.
-/

namespace AvControl.Decimal

/-- A decimal `digits · 10 ^ power`. -/
structure GridPoint where
  digits : Nat
  power : Int
deriving DecidableEq, Repr

namespace Binary64

/-- Whether a grid point reads back as the number. -/
def readsBack (number : Binary64) (point : GridPoint) : Bool :=
  let lowerGap :=
    if number.significand = significandLimit / 2 ∧ minExponent < number.exponent then 1
    else 2
  let scale := number.exponent - 2
  let left := point.digits * Nat.pow 10 point.power.toNat * Nat.pow 2 (-scale).toNat
  let unit := Nat.pow 2 scale.toNat * Nat.pow 10 (-point.power).toNat
  let lower := (4 * number.significand - lowerGap) * unit
  let upper := (4 * number.significand + 2) * unit
  if number.significand % 2 = 0 then lower ≤ left && left ≤ upper
  else lower < left && left < upper

/-- The two grid points around the number. -/
def gridNeighbours (number : Binary64) (power : Int) : GridPoint × GridPoint :=
  let below := number.numerator * Nat.pow 10 (-power).toNat /
    (number.denominator * Nat.pow 10 power.toNat)
  (⟨below, power⟩, ⟨below + 1, power⟩)

/-- Twice the number on the grid of the given power against the odd midpoint above `below`. -/
def nearerNeighbour (number : Binary64) (below above : GridPoint) : GridPoint :=
  let twice := 2 * number.numerator * Nat.pow 10 (-below.power).toNat
  let midpoint := (2 * below.digits + 1) * number.denominator * Nat.pow 10 below.power.toNat
  if twice < midpoint then below
  else if midpoint < twice then above
  else if below.digits % 2 = 0 then below
  else above

/-- The point of one grid that reads back, the nearer one if there are two. -/
def gridPoint? (number : Binary64) (power : Int) : Option GridPoint :=
  let (below, above) := number.gridNeighbours power
  match below.digits != 0 && number.readsBack below, number.readsBack above with
  | true, true => some (number.nearerNeighbour below above)
  | true, false => some below
  | false, true => some above
  | false, false => none

/-- The first grid point that reads back, from the given power downwards. -/
def searchGrids (number : Binary64) : Nat → Int → Option GridPoint
  | 0, _ => none
  | grids + 1, power =>
    match number.gridPoint? power with
    | some point => some point
    | none => number.searchGrids grids (power - 1)

/-- A power of ten above twice the number. -/
def coarsestPower (number : Binary64) : Int :=
  ((Nat.log2 number.significand : Int) + number.exponent + 2) * 30103 / 100000 + 1

/-- The fewest digits that read back as the number, and the closest of those. -/
def shortest (number : Binary64) : GridPoint :=
  if number.isZero then ⟨0, 0⟩
  else (number.searchGrids 24 number.coarsestPower).getD ⟨number.numerator, 0⟩

end Binary64

/-- How a decimal is laid out: where positional notation ends on both sides. -/
structure Layout where
  /-- A number with at most this many integer digits is written positionally. -/
  integerDigits : Int
  /-- A number whose first digit stands at most this many places after the point is, too. -/
  leadingZeros : Int

namespace Layout

/-- The digits of a decimal as characters. -/
def digitsOf (point : GridPoint) : List Char := Nat.toDigits 10 point.digits

/-- Write the magnitude of a decimal. Positional numbers always show a fraction. -/
def render (layout : Layout) (point : GridPoint) : List Char :=
  let digits := digitsOf point
  let integerLength : Int := digits.length + point.power
  if point.digits = 0 then ['0', '.', '0']
  else if 0 ≤ point.power ∧ integerLength ≤ layout.integerDigits then
    digits ++ List.replicate point.power.toNat '0' ++ ['.', '0']
  else if 0 < integerLength ∧ integerLength ≤ layout.integerDigits then
    digits.take integerLength.toNat ++ '.' :: digits.drop integerLength.toNat
  else if -layout.leadingZeros ≤ integerLength ∧ integerLength ≤ 0 then
    '0' :: '.' :: List.replicate (-integerLength).toNat '0' ++ digits
  else
    let mantissa := match digits with
      | [] => []
      | [digit] => [digit]
      | digit :: fraction => digit :: '.' :: fraction
    mantissa ++ 'e' :: (toString (integerLength - 1)).toList

end Layout

end AvControl.Decimal

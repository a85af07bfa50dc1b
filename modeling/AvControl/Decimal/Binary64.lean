/-!
# Binary64 numbers in exact arithmetic

A finite binary64 number is a sign, a natural significand and a power of two. Everything is done
in natural numbers: `ofRatio` gives the nearest such number to a quotient, a tie going to the even
significand, and products and quotients are exact before they are rounded.
-/

namespace AvControl.Decimal

/-- The number `± significand · 2 ^ exponent`, with a significand below `2 ^ 53`. -/
structure Binary64 where
  negative : Bool
  significand : Nat
  exponent : Int
deriving DecidableEq, Repr, Inhabited

namespace Binary64

/-- A significand of 53 bits is below this. -/
def significandLimit : Nat := Nat.pow 2 53

/-- The least exponent, that of the subnormal numbers. -/
def minExponent : Int := -1074

/-- The greatest exponent of a finite number. -/
def maxExponent : Int := 971

/-- Zero with a sign. -/
def zero (negative : Bool) : Binary64 := ⟨negative, 0, minExponent⟩

/-- Whether the number is zero of either sign. -/
def isZero (number : Binary64) : Bool := number.significand == 0

/-- The numerator of `numerator / denominator` over `2 ^ exponent`. -/
def scaledNumerator (numerator : Nat) (exponent : Int) : Nat :=
  numerator * Nat.pow 2 (-exponent).toNat

/-- The denominator of `numerator / denominator` over `2 ^ exponent`. -/
def scaledDenominator (denominator : Nat) (exponent : Int) : Nat :=
  denominator * Nat.pow 2 exponent.toNat

/-- The nearest natural number to a quotient; a half goes to the even neighbour. -/
def roundedQuotient (numerator denominator : Nat) : Nat :=
  let quotient := numerator / denominator
  let twice := 2 * (numerator % denominator)
  if twice < denominator then quotient
  else if denominator < twice then quotient + 1
  else quotient + quotient % 2

/--
The exponent at which the quotient of two positive numbers has a significand of 53 bits, or the
least exponent if the quotient is too small for that.
-/
def exponentFor (numerator denominator : Nat) : Int :=
  let guess := (Nat.log2 numerator : Int) - Nat.log2 denominator - 53
  let quotient := scaledNumerator numerator guess / scaledDenominator denominator guess
  max minExponent (if quotient < significandLimit then guess else guess + 1)

/-- The nearest binary64 number to a quotient, or nothing if that would be infinite. -/
def ofRatio (negative : Bool) (numerator denominator : Nat) : Option Binary64 :=
  if numerator = 0 then some (zero negative)
  else
    let exponent := exponentFor numerator denominator
    let significand := roundedQuotient (scaledNumerator numerator exponent)
      (scaledDenominator denominator exponent)
    let carried := significand = significandLimit
    let significand := if carried then significandLimit / 2 else significand
    let exponent := if carried then exponent + 1 else exponent
    if maxExponent < exponent then none else some ⟨negative, significand, exponent⟩

/-- The nearest binary64 number to a decimal, or nothing if that would be infinite. -/
def ofDecimal (negative : Bool) (digits : Nat) (power : Int) : Option Binary64 :=
  ofRatio negative (digits * Nat.pow 10 power.toNat) (Nat.pow 10 (-power).toNat)

/-- The numerator of the magnitude. -/
def numerator (number : Binary64) : Nat :=
  number.significand * Nat.pow 2 number.exponent.toNat

/-- The denominator of the magnitude. -/
def denominator (number : Binary64) : Nat := Nat.pow 2 (-number.exponent).toNat

/-- The rounded product, or nothing if that would be infinite. -/
def mul (a b : Binary64) : Option Binary64 :=
  ofRatio (a.negative != b.negative) (a.numerator * b.numerator) (a.denominator * b.denominator)

/-- The rounded quotient by a number that is not zero, or nothing if that would be infinite. -/
def div (a b : Binary64) : Option Binary64 :=
  ofRatio (a.negative != b.negative) (a.numerator * b.denominator) (a.denominator * b.numerator)

/-- The number with the given sign and the same magnitude. -/
def withSign (negative : Bool) (number : Binary64) : Binary64 :=
  { number with negative := negative }

end Binary64

end AvControl.Decimal

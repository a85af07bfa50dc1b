import AvControl.Json.Value

/-!
# Numerals

A numeral is a number as it is written. Its digits are collected into a significand as long as
that fits 64 bits: integer digits that no longer fit only count for the scale, and fraction digits
that no longer fit are dropped. A numeral without fraction and exponent whose value fits a signed
or an unsigned 64-bit integer denotes that integer, except that minus zero is a binary64 number.
Every other numeral denotes the significand, rounded to binary64 and then scaled by its power of
ten with one more rounding; one that would be infinite denotes nothing.
-/

namespace AvControl.Json

open AvControl.Decimal

/-- A number as written: its digits and, where present, its fraction and exponent. -/
structure Numeral where
  negative : Bool
  integer : List Char
  fraction : Option (List Char)
  exponent : Option Int
deriving DecidableEq, Repr

namespace Numeral

/-- The greatest unsigned 64-bit integer. -/
def maxSignificand : Nat := UInt64.size - 1

/-- The value of a decimal digit. -/
def digitValue (digit : Char) : Nat := digit.toNat - '0'.toNat

/-- Append digits to a significand while it fits 64 bits; the second result counts the rest. -/
def collect : Nat → List Char → Nat × Nat
  | significand, [] => (significand, 0)
  | significand, digit :: rest =>
    let longer := significand * 10 + digitValue digit
    if longer ≤ maxSignificand then collect longer rest else (significand, rest.length + 1)

/-- The greatest power of ten that is taken in one step. -/
def powerStep : Nat := 308

/-- The binary64 number nearest to a power of ten that is taken in one step. -/
def powerOfTen (power : Nat) : Binary64 :=
  (Binary64.ofDecimal false 1 power).getD (Binary64.zero false)

/--
Scale a number by a power of ten. Powers below the least step are taken in several steps, after
the first few of which nothing but zero is left.
-/
def scale (number : Binary64) (power : Int) : Nat → Option Binary64
  | 0 => some number
  | steps + 1 =>
    if power.natAbs ≤ powerStep then
      if 0 ≤ power then number.mul (powerOfTen power.toNat)
      else number.div (powerOfTen power.natAbs)
    else if number.isZero then some number
    else if 0 ≤ power then none
    else (number.div (powerOfTen powerStep)).bind fun smaller =>
      scale smaller (power + powerStep) steps

/-- The binary64 number of a significand and a power of ten. -/
def binary64? (negative : Bool) (significand : Nat) (power : Int) : Option Binary64 :=
  (Binary64.ofRatio false significand 1).bind fun number =>
    (scale number power 8).map (Binary64.withSign negative)

/-- The number that a numeral denotes, or nothing if it is too large. -/
def value? (numeral : Numeral) : Option JsonNumber :=
  let (whole, uncounted) := collect 0 numeral.integer
  match numeral.fraction, numeral.exponent with
  | none, none =>
    if uncounted = 0 ∧ !numeral.negative then some (.integer whole)
    else if uncounted = 0 ∧ 0 < whole ∧ Int64.minValue.toInt ≤ -whole then some (.integer (-whole))
    else (binary64? numeral.negative whole uncounted).map .binary64
  | fraction, exponent =>
    let digits := fraction.getD []
    let (significand, dropped) := collect whole digits
    let places : Int := digits.length - dropped
    (binary64? numeral.negative significand (uncounted - places + exponent.getD 0)).map .binary64

end Numeral

/-- The digits at the front of a text and what follows them. -/
def spanDigits (text : List Char) : List Char × List Char :=
  (text.takeWhile Char.isDigit, text.dropWhile Char.isDigit)

/-- The integer part: a lone zero, or digits that do not begin with zero. -/
def readInteger (text : List Char) : Option (List Char × List Char) :=
  match spanDigits text with
  | ([], _) => none
  | ('0' :: _ :: _, _) => none
  | (digits, rest) => some (digits, rest)

/-- The fraction, if a point follows; it has at least one digit. -/
def readFraction : List Char → Option (Option (List Char) × List Char)
  | '.' :: rest =>
    match spanDigits rest with
    | ([], _) => none
    | (digits, rest) => some (some digits, rest)
  | text => some (none, text)

/-- The value of a row of digits. -/
def digitsValue (digits : List Char) : Nat :=
  digits.foldl (fun value digit => value * 10 + Numeral.digitValue digit) 0

/-- The exponent, if its mark follows; it has at least one digit. -/
def readExponent (text : List Char) : Option (Option Int × List Char) :=
  let digits (negative : Bool) (text : List Char) :=
    match spanDigits text with
    | ([], _) => none
    | (digits, rest) =>
      let value : Int := digitsValue digits
      some (some (if negative then -value else value), rest)
  match text with
  | mark :: rest =>
    if mark = 'e' ∨ mark = 'E' then
      match rest with
      | '+' :: rest => digits false rest
      | '-' :: rest => digits true rest
      | rest => digits false rest
    else some (none, text)
  | [] => some (none, [])

/-- The numeral at the front of a text and what follows it. -/
def readNumeral (text : List Char) : Option (Numeral × List Char) := do
  let (negative, text) := match text with
    | '-' :: rest => (true, rest)
    | text => (false, text)
  let (integer, text) ← readInteger text
  let (fraction, text) ← readFraction text
  let (exponent, text) ← readExponent text
  pure (⟨negative, integer, fraction, exponent⟩, text)

end AvControl.Json

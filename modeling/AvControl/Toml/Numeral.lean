import AvControl.Json.Document

/-!
# Numbers in TOML

An integer fits 64 bits with its sign and may be written with a sign in decimal, or without one in
hexadecimal, octal or binary. A number with a fraction or an exponent, or one that says `inf` or
`nan`, is a binary64 number, rounded to the nearest; one that would be infinite without saying so
is no number, unless it is negative. Single underscores may stand between digits.
-/

namespace AvControl.Toml

open Decimal (Binary64)

/-- A number and what follows it. -/
inductive Number
  | integer (value : Int)
  | float (value : Option Binary64)
deriving DecidableEq, Repr

/-- The digits after a digit, without the single underscores between them, and what follows. -/
def moreDigits (isDigit : Char → Bool) : List Char → Option (List Char × List Char)
  | [] => some ([], [])
  | ['_'] => none
  | '_' :: c :: rest =>
    if isDigit c then (moreDigits isDigit rest).map fun read => (c :: read.1, read.2) else none
  | c :: rest =>
    if isDigit c then (moreDigits isDigit rest).map fun read => (c :: read.1, read.2)
    else some ([], c :: rest)

/-- Digits with single underscores between them, without the underscores, and what follows. -/
def digitRun (isDigit : Char → Bool) : List Char → Option (List Char × List Char)
  | [] => none
  | c :: rest =>
    if isDigit c then (moreDigits isDigit rest).map fun read => (c :: read.1, read.2) else none

/-- A decimal integer part: a lone zero, or digits that do not begin with zero. -/
def integerPart : List Char → Option (List Char × List Char)
  | '0' :: rest => some (['0'], rest)
  | text => digitRun Char.isDigit text

/-- A sign, and whether it is negative. -/
def sign : List Char → Bool × List Char
  | '-' :: rest => (true, rest)
  | '+' :: rest => (false, rest)
  | text => (false, text)

/-- The value of digits in some base. -/
def valueIn (base : Nat) (digits : List Char) : Nat :=
  digits.foldl (fun value digit => value * base + (Text.hexDigit? digit).getD 0) 0

/-- An integer, provided that it fits 64 bits with its sign. -/
def integer? (value : Int) : Option Number :=
  if Int64.minValue.toInt ≤ value ∧ value ≤ Int64.maxValue.toInt then some (.integer value)
  else none

/-- An integer in another base than ten. -/
def integerIn (base : Nat) (text : List Char) : Option (Number × List Char) := do
  let isDigit (c : Char) : Bool := (Text.hexDigit? c).any (· < base)
  let (digits, rest) ← digitRun isDigit text
  pure (← integer? (valueIn base digits), rest)

/-- The nearest binary64 number to some digits times a power of ten; absent if that is infinite. -/
def nearest (negative : Bool) (digits : List Char) (power : Int) : Option Binary64 :=
  let significant := digits.dropWhile (· = '0')
  let magnitude : Int := significant.length + power
  if significant.isEmpty ∨ magnitude < -400 then some (Binary64.zero negative)
  else if 400 < magnitude then none
  else Binary64.ofDecimal negative (valueIn 10 significant) power

/-- The exponent after its mark. -/
def exponent? (text : List Char) : Option (Int × List Char) := do
  let (negative, text) := sign text
  let (digits, rest) ← digitRun Char.isDigit text
  let value : Int := valueIn 10 digits
  pure (if negative then -value else value, rest)

/-- Whether a character marks an exponent. -/
def isExponentMark (c : Char) : Bool := c = 'e' || c = 'E'

/-- An exponent, if its mark follows. -/
def readExponent : List Char → Option (Option Int × List Char)
  | c :: rest =>
    if isExponentMark c then (exponent? rest).map fun read => (some read.1, read.2)
    else some (none, c :: rest)
  | [] => some (none, [])

/-- A fraction, if a point follows. -/
def readFraction : List Char → Option (Option (List Char) × List Char)
  | '.' :: rest => (digitRun Char.isDigit rest).map fun read => (some read.1, read.2)
  | text => some (none, text)

/-- A number that is written in digits. Only a negative one may turn out infinite. -/
def writtenNumber (negative : Bool) (digits : List Char) (fraction : Option (List Char))
    (exponent : Option Int) : Option Number :=
  match fraction, exponent with
  | none, none =>
    let value : Int := valueIn 10 digits
    integer? (if negative then -value else value)
  | fraction, exponent =>
    let places := fraction.getD []
    match nearest negative (digits ++ places) (exponent.getD 0 - places.length) with
    | some value => some (.float (some value))
    | none => if negative then some (.float none) else none

/-- A number after its sign. -/
def unsignedNumber (negative : Bool) : List Char → Option (Number × List Char)
  | 'i' :: 'n' :: 'f' :: rest => some (.float none, rest)
  | 'n' :: 'a' :: 'n' :: rest => some (.float none, rest)
  | text => do
    let (digits, text) ← integerPart text
    let (fraction, text) ← readFraction text
    let (exponent, text) ← readExponent text
    pure (← writtenNumber negative digits fraction exponent, text)

/-- A number and what follows it. -/
def readNumber? : List Char → Option (Number × List Char)
  | '0' :: 'x' :: rest => integerIn 16 rest
  | '0' :: 'o' :: rest => integerIn 8 rest
  | '0' :: 'b' :: rest => integerIn 2 rest
  | text =>
    let (negative, text) := sign text
    unsignedNumber negative text

end AvControl.Toml

import AvControl.Json.Numeral

/-!
# Dates and times in TOML

A date, a time of day, or both with or without an offset from universal time. They are kept in
their usual form: a `T` between date and time, a `Z` for no offset where one was written, and no
zeros at the end of a fraction of a second, of which at most nine digits count.
-/

namespace AvControl.Toml

/-- A number of exactly so many decimal digits, and what follows it. -/
def fixedDigits (count : Nat) (text : List Char) : Option (Nat × List Char) :=
  let digits := text.take count
  if digits.length = count ∧ digits.all Char.isDigit then
    some (Json.digitsValue digits, text.drop count)
  else none

/-- A number of exactly two digits between two bounds, and what follows it. -/
def twoDigits (least greatest : Nat) (text : List Char) : Option (Nat × List Char) := do
  let (value, rest) ← fixedDigits 2 text
  if least ≤ value ∧ value ≤ greatest then pure (value, rest) else none

/-- What follows a sign that has to be there. -/
def expect (sign : Char) : List Char → Option (List Char)
  | c :: rest => if c = sign then some rest else none
  | [] => none

/-- A number with zeros in front of it up to so many digits. -/
def padded (count value : Nat) : List Char :=
  let digits := Nat.toDigits 10 value
  List.replicate (count - digits.length) '0' ++ digits

/-- The number of days in a month. -/
def daysInMonth (year month : Nat) : Nat :=
  if month = 2 then
    if year % 4 = 0 ∧ (year % 100 ≠ 0 ∨ year % 400 = 0) then 29 else 28
  else if month = 4 ∨ month = 6 ∨ month = 9 ∨ month = 11 then 30
  else 31

/-- A date in its usual form, and what follows it. -/
def readDate? (text : List Char) : Option (List Char × List Char) := do
  let (year, text) ← fixedDigits 4 text
  let (month, text) ← twoDigits 1 12 (← expect '-' text)
  let (day, text) ← twoDigits 1 (daysInMonth year month) (← expect '-' text)
  pure (padded 4 year ++ '-' :: padded 2 month ++ '-' :: padded 2 day, text)

/-- A fraction of a second in its usual form, if a point follows. -/
def readSecondFraction : List Char → Option (List Char × List Char)
  | '.' :: rest =>
    let digits := rest.takeWhile Char.isDigit
    let shown := ((digits.take 9).reverse.dropWhile (· = '0')).reverse
    if digits.isEmpty then none
    else some (if shown.isEmpty then [] else '.' :: shown, rest.drop digits.length)
  | text => some ([], text)

/-- A time of day in its usual form, and what follows it. -/
def readTime? (text : List Char) : Option (List Char × List Char) := do
  let (hour, text) ← twoDigits 0 23 text
  let (minute, text) ← twoDigits 0 59 (← expect ':' text)
  let (second, text) ← twoDigits 0 60 (← expect ':' text)
  let (fraction, text) ← readSecondFraction text
  pure (padded 2 hour ++ ':' :: padded 2 minute ++ ':' :: padded 2 second ++ fraction, text)

/-- An offset in hours and minutes, and what follows it. No time before none is after none. -/
def readOffset? (negative : Bool) (text : List Char) : Option (List Char × List Char) := do
  let (hours, text) ← twoDigits 0 23 text
  let (minutes, text) ← twoDigits 0 59 (← expect ':' text)
  let sign := if negative ∧ 0 < hours + minutes then '-' else '+'
  pure (sign :: padded 2 hours ++ ':' :: padded 2 minutes, text)

/-- An offset in its usual form, if one follows. -/
def readOffset : List Char → Option (List Char × List Char)
  | 'Z' :: rest | 'z' :: rest => some (['Z'], rest)
  | '+' :: rest => readOffset? false rest
  | '-' :: rest => readOffset? true rest
  | text => some ([], text)

/-- Whether a character may stand between a date and a time. -/
def isTimeMark (c : Char) : Bool := c = 'T' || c = 't' || c = ' '

/-- Whether a text goes on with a time of day. -/
def beginsTime (text : List Char) : Bool :=
  (fixedDigits 2 text).any fun (_, rest) => rest.head? = some ':'

/-- Whether a text goes on with a date. -/
def beginsDate (text : List Char) : Bool :=
  (fixedDigits 4 text).any fun (_, rest) => rest.head? = some '-'

/-- A time and an offset after a date, if they follow. -/
def readTimeAfterDate : List Char → Option (List Char × List Char)
  | mark :: rest =>
    if isTimeMark mark && beginsTime rest then do
      let (time, rest) ← readTime? rest
      let (offset, rest) ← readOffset rest
      pure ('T' :: time ++ offset, rest)
    else some ([], mark :: rest)
  | [] => some ([], [])

/-- A date, a time or both in their usual form, and what follows them. -/
def readDatetime? (text : List Char) : Option (String × List Char) := do
  if beginsTime text then
    let (time, rest) ← readTime? text
    pure (String.ofList time, rest)
  else
    let (date, rest) ← readDate? text
    let (time, rest) ← readTimeAfterDate rest
    pure (String.ofList (date ++ time), rest)

end AvControl.Toml

import AvControl.Json.Value

/-!
# JSON text

The compact text of a JSON value, without blanks. Texts are written as they are, except for the
quote, the backslash and the control characters below the blank.
-/

namespace AvControl.Json

/-- Numbers are positional up to sixteen integer digits and four zeros after the point. -/
def numberLayout : Decimal.Layout := { integerDigits := 16, leadingZeros := 4 }

/-- The text of a number. A number that is no integer always shows a point or an exponent. -/
def renderNumber : JsonNumber → List Char
  | .integer value => (toString value).toList
  | .binary64 value =>
    let magnitude := numberLayout.render value.shortest
    if value.negative then '-' :: magnitude else magnitude

/-- A control character by its number, in four lower-case hexadecimal digits. -/
def unicodeEscape (c : Char) : List Char :=
  let digits := Nat.toDigits 16 c.toNat
  '\\' :: 'u' :: List.replicate (4 - digits.length) '0' ++ digits

/-- How one character appears inside a text. -/
def renderChar (c : Char) : List Char :=
  match c with
  | '"' => ['\\', '"']
  | '\\' => ['\\', '\\']
  | '\n' => ['\\', 'n']
  | '\r' => ['\\', 'r']
  | '\t' => ['\\', 't']
  | '\x08' => ['\\', 'b']
  | '\x0c' => ['\\', 'f']
  | c => if c.toNat < 32 then unicodeEscape c else [c]

/-- A text between quotes. -/
def renderText (text : String) : List Char :=
  '"' :: text.toList.flatMap renderChar ++ ['"']

mutual

/-- The characters of a value. -/
def renderChars : Json → List Char
  | null => ['n', 'u', 'l', 'l']
  | bool true => ['t', 'r', 'u', 'e']
  | bool false => ['f', 'a', 'l', 's', 'e']
  | number value => renderNumber value
  | string value => renderText value
  | array [] => ['[', ']']
  | array (item :: rest) => '[' :: renderChars item ++ renderItems rest
  | object [] => ['\x7b', '\x7d']
  | object ((name, value) :: rest) =>
    '\x7b' :: renderText name ++ ':' :: renderChars value ++ renderMembers rest

/-- The items after the first one and the closing bracket. -/
def renderItems : List Json → List Char
  | [] => [']']
  | item :: rest => ',' :: renderChars item ++ renderItems rest

/-- The members after the first one and the closing brace. -/
def renderMembers : List (String × Json) → List Char
  | [] => ['\x7d']
  | (name, value) :: rest =>
    ',' :: renderText name ++ ':' :: renderChars value ++ renderMembers rest

end

/-- The compact text of a value. -/
def render (value : Json) : String := String.ofList (renderChars value)

end AvControl.Json

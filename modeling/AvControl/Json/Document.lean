import AvControl.Json.Numeral
import AvControl.Text.Hexadecimal

/-!
# JSON documents as read

A document is what can be made out of a JSON text before anybody knows what it should mean. Members
stay in the order of the text, repeated names included, and the place where the text breaks off is
marked, so that whoever decodes the document meets its faults in the order of the text. Some faults
matter only to a reader who needs the value: a number beyond all bounds, and a text with half of a
surrogate pair.
-/

namespace AvControl.Json

/-- How the listing of a container ends. -/
inductive Ending
  | closed
  /-- The text breaks off before the closing bracket. -/
  | brokenOff
  /-- Closed, in a format where a record may be followed by items that nobody needs. -/
  | lenient
deriving DecidableEq, Repr

/-- A listing that a rest of the text follows is closed. -/
def Ending.ofRest (rest : Option (List Char)) : Ending :=
  if rest.isSome then closed else brokenOff

/-- A JSON text as far as it can be read. -/
inductive Document
  | null
  | bool (value : Bool)
  /-- A number, absent if it is too large. -/
  | number (value : Option JsonNumber)
  /-- A text, absent if it escapes half of a surrogate pair. -/
  | text (value : Option String)
  /-- The items up to the closing bracket, or up to where the text breaks off. -/
  | array (items : List Document) (ending : Ending)
  /-- The members up to the closing brace, or up to where the text breaks off. -/
  | object (members : List (Option String × Document)) (ending : Ending)
  /-- No value can be made out here. -/
  | malformed
deriving Repr, Inhabited

/-- The four blank characters between the parts of a document. -/
def isBlank (c : Char) : Bool := c = ' ' || c = '\n' || c = '\t' || c = '\r'

/-- A text without its leading blanks. -/
def skipBlanks (text : List Char) : List Char := text.dropWhile isBlank

/-- The 16-bit unit of four hexadecimal digits. -/
def hexUnit? (a b c d : Char) : Option Nat := do
  pure (((← Text.hexDigit? a) * 16 + (← Text.hexDigit? b)) * 256 +
    (← Text.hexDigit? c) * 16 + (← Text.hexDigit? d))

/-- The character after a backslash, for the escapes of one character. -/
def shortEscape? : Char → Option Char
  | '"' => some '"'
  | '\\' => some '\\'
  | '/' => some '/'
  | 'b' => some '\x08'
  | 'f' => some '\x0c'
  | 'n' => some '\n'
  | 'r' => some '\r'
  | 't' => some '\t'
  | _ => none

/-- The content of a text read so far, backwards; absent once half of a pair was met. -/
structure TextSoFar where
  content : Option (List Char)
  /-- The first half of a surrogate pair that waits for its second half. -/
  highSurrogate : Option Nat

namespace TextSoFar

/-- Append one character. A first half that waits is left alone for good. -/
def push (soFar : TextSoFar) (c : Char) : TextSoFar :=
  match soFar.highSurrogate with
  | none => ⟨soFar.content.map (c :: ·), none⟩
  | some _ => ⟨none, none⟩

/-- Append a 16-bit unit, which may be half of a pair. -/
def pushUnit (soFar : TextSoFar) (unit : Nat) : TextSoFar :=
  match soFar.highSurrogate with
  | some high =>
    if 0xDC00 ≤ unit ∧ unit ≤ 0xDFFF then
      let c := Char.ofNat (0x10000 + (high - 0xD800) * 0x400 + (unit - 0xDC00))
      ⟨soFar.content.map (c :: ·), none⟩
    else ⟨none, none⟩
  | none =>
    if 0xD800 ≤ unit ∧ unit ≤ 0xDBFF then ⟨soFar.content, some unit⟩
    else if 0xDC00 ≤ unit ∧ unit ≤ 0xDFFF then ⟨none, none⟩
    else ⟨soFar.content.map (Char.ofNat unit :: ·), none⟩

/-- The text, once its closing quote was met. -/
def finish (soFar : TextSoFar) : Option String :=
  match soFar.highSurrogate with
  | none => soFar.content.map fun content => String.ofList content.reverse
  | some _ => none

end TextSoFar

/-- Read a text after its opening quote. Control characters must be escaped. -/
def readText (soFar : TextSoFar) : List Char → Option (Option String × List Char)
  | [] => none
  | '"' :: rest => some (soFar.finish, rest)
  | '\\' :: 'u' :: a :: b :: c :: d :: rest =>
    match hexUnit? a b c d with
    | some unit => readText (soFar.pushUnit unit) rest
    | none => none
  | '\\' :: escaped :: rest =>
    match shortEscape? escaped with
    | some c => readText (soFar.push c) rest
    | none => none
  | c :: rest => if c.toNat < 32 ∨ c = '\\' then none else readText (soFar.push c) rest

/-- The word at the front of a text taken away. -/
def dropWord? : List Char → List Char → Option (List Char)
  | [], text => some text
  | _ :: _, [] => none
  | c :: word, d :: text => if c = d then dropWord? word text else none

/-- The value of a word, if the word stands at the front of a text. -/
def readWord (word : List Char) (value : Document) (text : List Char) :
    Document × Option (List Char) :=
  match dropWord? word text with
  | some rest => (value, some rest)
  | none => (.malformed, none)

mutual

/--
Read one value and what follows it; nothing follows a value in which the text breaks off. The
first argument bounds the nesting and the number of values, and twice the length of the text is
enough of it.
-/
def readValue : Nat → List Char → Document × Option (List Char)
  | 0, _ => (.malformed, none)
  | bound + 1, text =>
    match skipBlanks text with
    | 'n' :: rest => readWord ['u', 'l', 'l'] .null rest
    | 't' :: rest => readWord ['r', 'u', 'e'] (.bool true) rest
    | 'f' :: rest => readWord ['a', 'l', 's', 'e'] (.bool false) rest
    | '"' :: rest =>
      match readText ⟨some [], none⟩ rest with
      | some (value, rest) => (.text value, some rest)
      | none => (.malformed, none)
    | '[' :: rest =>
      match skipBlanks rest with
      | ']' :: rest => (.array [] .closed, some rest)
      | rest =>
        let (items, rest) := readItems bound rest
        (.array items (.ofRest rest), rest)
    | '\x7b' :: rest =>
      match skipBlanks rest with
      | '\x7d' :: rest => (.object [] .closed, some rest)
      | rest =>
        let (members, rest) := readMembers bound rest
        (.object members (.ofRest rest), rest)
    | text =>
      match readNumeral text with
      | some (numeral, rest) => (.number numeral.value?, some rest)
      | none => (.malformed, none)

/-- Read the items of an array up to its closing bracket. -/
def readItems : Nat → List Char → List Document × Option (List Char)
  | 0, _ => ([], none)
  | bound + 1, text =>
    match readValue bound text with
    | (item, none) => ([item], none)
    | (item, some rest) =>
      match skipBlanks rest with
      | ',' :: rest =>
        let (items, rest) := readItems bound rest
        (item :: items, rest)
      | ']' :: rest => ([item], some rest)
      | _ => ([item], none)

/-- Read the members of an object up to its closing brace. -/
def readMembers : Nat → List Char → List (Option String × Document) × Option (List Char)
  | 0, _ => ([], none)
  | bound + 1, text =>
    match skipBlanks text with
    | '"' :: rest =>
      match readText ⟨some [], none⟩ rest with
      | none => ([], none)
      | some (name, rest) =>
        match skipBlanks rest with
        | ':' :: rest =>
          match readValue bound rest with
          | (value, none) => ([(name, value)], none)
          | (value, some rest) =>
            match skipBlanks rest with
            | ',' :: rest =>
              let (members, rest) := readMembers bound rest
              ((name, value) :: members, rest)
            | '\x7d' :: rest => ([(name, value)], some rest)
            | _ => ([(name, value)], none)
        | _ => ([(name, .malformed)], none)
    | _ => ([], none)

end

/-- The document of a whole text, and whether nothing but blanks follows it. -/
def readDocument (text : List Char) : Document × Bool :=
  match readValue (2 * text.length + 2) text with
  | (document, some rest) => (document, (skipBlanks rest).isEmpty)
  | (document, none) => (document, false)

namespace Document

mutual

/-- The document of a value. -/
def ofJson : Json → Document
  | .null => null
  | .bool value => bool value
  | .number value => number (some value)
  | .string value => text (some value)
  | .array items => array (ofItems items) .closed
  | .object members => object (ofMembers members) .closed

/-- The documents of some values. -/
def ofItems : List Json → List Document
  | [] => []
  | item :: rest => ofJson item :: ofItems rest

/-- The documents of some members. -/
def ofMembers : List (String × Json) → List (Option String × Document)
  | [] => []
  | (name, value) :: rest => (some name, ofJson value) :: ofMembers rest

end

mutual

/-- Whether the text of the document goes on to its end, whatever its values are. -/
def isComplete : Document → Bool
  | array items ending => ending != .brokenOff && itemsComplete items
  | object members ending => ending != .brokenOff && membersComplete members
  | malformed => false
  | _ => true

/-- Whether all listed documents are complete. -/
def itemsComplete : List Document → Bool
  | [] => true
  | item :: rest => isComplete item && itemsComplete rest

/-- Whether all members' documents are complete. -/
def membersComplete : List (Option String × Document) → Bool
  | [] => true
  | (_, value) :: rest => isComplete value && membersComplete rest

end

end Document

end AvControl.Json

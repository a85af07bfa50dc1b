import AvControl.Toml.Datetime
import AvControl.Toml.Numeral
import AvControl.Toml.Text
import AvControl.Toml.Value

/-!
# TOML documents

A document is a row of lines. A line gives a value to a key of the present table, or its header
makes another table the present one; the rest of a line may be a comment. Arrays may go over several
lines, tables between braces may not. Keys have fewer than eighty parts, and arrays and tables
between braces are nested less than eighty deep.
-/

namespace AvControl.Toml

/-- The characters of keys without quotes. -/
def isBareKeyChar (c : Char) : Bool := c.isAlphanum || c = '-' || c = '_'

/-- One part of a key, and what follows it. -/
def readKeyPart? (text : List Char) : Option (String × List Char) :=
  match text with
  | '"' :: _ | '\'' :: _ => readLine? text
  | _ =>
    let name := text.takeWhile isBareKeyChar
    if name.isEmpty then none else some (String.ofList name, text.drop name.length)

/-- The number of parts of a key, and of levels of arrays and braces, that is too great. -/
def limit : Nat := 80

/-- The parts of a key between points, with blanks around them. There are at most so many. -/
def readKeyParts : Nat → List Char → Option (List String × List Char)
  | 0, _ => none
  | parts + 1, text => do
    let (name, text) ← readKeyPart? (skipBlanks text)
    match skipBlanks text with
    | '.' :: rest =>
      let (names, rest) ← readKeyParts parts rest
      pure (name :: names, rest)
    | rest => pure ([name], rest)

/-- A key of one or more parts, and what follows it. -/
def readKey? (text : List Char) : Option (List String × List Char) := readKeyParts (limit - 1) text

/-- A comment taken away, if one follows. -/
def skipComment : List Char → List Char
  | '#' :: rest => rest.dropWhile isPlain
  | text => text

/-- What follows the end of a line. The end of the document ends a line, too. -/
def endOfLine? (text : List Char) : Option (List Char) :=
  match skipComment (skipBlanks text) with
  | [] => some []
  | rest => lineBreak? rest

/-- Blanks, comments and line breaks taken away; at most so many lines. -/
def skipLines : Nat → List Char → List Char
  | 0, text => text
  | lines + 1, text =>
    let rest := skipBlanks text
    match lineBreak? (skipComment rest) with
    | some rest => skipLines lines rest
    | none => rest

/-- A value that is no array and no table, and what follows it. -/
def readSimple? (text : List Char) : Option (Value × List Char) :=
  match text with
  | '"' :: _ | '\'' :: _ => (readText? text).map fun read => (.text read.1, read.2)
  | 't' :: 'r' :: 'u' :: 'e' :: rest => some (.bool true, rest)
  | 'f' :: 'a' :: 'l' :: 's' :: 'e' :: rest => some (.bool false, rest)
  | _ =>
    if beginsDate text || beginsTime text then
      (readDatetime? text).map fun read => (.datetime read.1, read.2)
    else
      (readNumber? text).map fun read =>
        match read with
        | (.integer value, rest) => (.integer value, rest)
        | (.float value, rest) => (.float value, rest)

mutual

/--
A value, and what follows it. The first argument bounds the number of values, and twice the length
of the text is enough; the second bounds the nesting.
-/
def readValue : Nat → Nat → List Char → Option (Value × List Char)
  | 0, _, _ => none
  | bound + 1, levels, text =>
    match text with
    | '[' :: rest =>
      if levels = 0 then none
      else (readItems bound (levels - 1) rest).map fun read => (.array read.1, read.2)
    | '\x7b' :: rest =>
      if levels = 0 then none
      else
        match skipBlanks rest with
        | '\x7d' :: rest => some (.table .inlined [], rest)
        | rest =>
          (readMembers bound (levels - 1) [] rest).map fun read =>
            (.table .inlined read.1, read.2)
    | text => readSimple? text

/-- The items of an array up to its closing bracket; a comma may follow the last. -/
def readItems : Nat → Nat → List Char → Option (List Value × List Char)
  | 0, _, _ => none
  | bound + 1, levels, text =>
    match skipLines text.length text with
    | ']' :: rest => some ([], rest)
    | text =>
      match readValue bound levels text with
      | none => none
      | some (item, rest) =>
        match skipLines rest.length rest with
        | ']' :: rest => some ([item], rest)
        | ',' :: rest => (readItems bound levels rest).map fun read => (item :: read.1, read.2)
        | _ => none

/-- The members of a table up to its closing brace, added to those before. -/
def readMembers : Nat → Nat → Members → List Char → Option (Members × List Char)
  | 0, _, _, _ => none
  | bound + 1, levels, members, text =>
    match readKey? text with
    | some (key, '=' :: rest) =>
      match readValue bound levels (skipBlanks rest) with
      | none => none
      | some (value, rest) =>
        match putKey key value members with
        | none => none
        | some members =>
          match skipBlanks rest with
          | '\x7d' :: rest => some (members, rest)
          | ',' :: rest => readMembers bound levels members rest
          | _ => none
    | _ => none

end

/-- A document as far as it has been read. -/
structure SoFar where
  root : Members := []
  /-- The key of the present table. -/
  present : List String := []

/-- Take in one line that is not blank, and go on after it. -/
def readLine (soFar : SoFar) (text : List Char) : Option (SoFar × List Char) :=
  match text with
  | '[' :: '[' :: rest =>
    match readKey? rest with
    | some (key, ']' :: ']' :: rest) => do
      let root ← openRow key soFar.root
      pure ({ root, present := key }, ← endOfLine? rest)
    | _ => none
  | '[' :: rest =>
    match readKey? rest with
    | some (key, ']' :: rest) => do
      let root ← openTable key soFar.root
      pure ({ root, present := key }, ← endOfLine? rest)
    | _ => none
  | text =>
    match readKey? text with
    | some (key, '=' :: rest) => do
      let (value, rest) ← readValue (2 * rest.length + 2) (limit - 1) (skipBlanks rest)
      let root ← within (putKey key value) soFar.present soFar.root
      pure ({ soFar with root }, ← endOfLine? rest)
    | _ => none

/-- Take in lines up to the end of the document; at most so many. -/
def readLines : Nat → SoFar → List Char → Option SoFar
  | 0, _, _ => none
  | lines + 1, soFar, text =>
    match skipLines text.length text with
    | [] => some soFar
    | '#' :: rest => if (rest.dropWhile isPlain).isEmpty then some soFar else none
    | text => (readLine soFar text).bind fun (soFar, rest) => readLines lines soFar rest

/-- The members of a document, or nothing if it is malformed. A byte order mark may precede it. -/
def read? (text : String) : Option Members :=
  let text := match text.toList with
    | '\uFEFF' :: rest => rest
    | text => text
  (readLines (text.length + 1) {} text).map SoFar.root

end AvControl.Toml

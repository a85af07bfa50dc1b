import AvControl.Json.Document

/-!
# Texts in TOML

A text stands between quotes, where a backslash begins an escape, or between apostrophes, where
nothing is special. Either sign three times in a row begins a text of several lines, whose first
line break does not count and which may end in one or two of the same sign more. In a text with
escapes a backslash at the end of a line takes away all blanks and line breaks that follow.
-/

namespace AvControl.Toml

/-- The blanks within a line. -/
def isBlank (c : Char) : Bool := c = ' ' || c = '\t'

/-- A text without its leading blanks. -/
def skipBlanks (text : List Char) : List Char := text.dropWhile isBlank

/-- The characters that may stand in comments and, unless they are special there, in texts. -/
def isPlain (c : Char) : Bool := c = '\t' || (32 ≤ c.toNat && c.toNat ≠ 127)

/-- What follows a line break. -/
def lineBreak? : List Char → Option (List Char)
  | '\n' :: rest => some rest
  | '\r' :: '\n' :: rest => some rest
  | _ => none

/-- A text without one leading line break. -/
def skipLineBreak (text : List Char) : List Char := (lineBreak? text).getD text

/-- A text without leading blanks and line breaks. -/
def skipSpace : List Char → List Char
  | '\n' :: rest => skipSpace rest
  | '\r' :: '\n' :: rest => skipSpace rest
  | c :: rest => if isBlank c then skipSpace rest else c :: rest
  | [] => []

/-- The character of a code point that is written in hexadecimal digits. -/
def charOfHex? (digits : List Char) : Option Char := do
  let values ← digits.mapM Text.hexDigit?
  let code := values.foldl (fun code value => code * 16 + value) 0
  if code.isValidChar then pure (Char.ofNat code) else none

/-- The character of an escape, and what follows it. -/
def escape? : List Char → Option (Char × List Char)
  | 'b' :: rest => some ('\x08', rest)
  | 't' :: rest => some ('\t', rest)
  | 'n' :: rest => some ('\n', rest)
  | 'f' :: rest => some ('\x0c', rest)
  | 'r' :: rest => some ('\r', rest)
  | '"' :: rest => some ('"', rest)
  | '\\' :: rest => some ('\\', rest)
  | 'u' :: rest =>
    if 4 ≤ rest.length then (charOfHex? (rest.take 4)).map (·, rest.drop 4) else none
  | 'U' :: rest =>
    if 8 ≤ rest.length then (charOfHex? (rest.take 8)).map (·, rest.drop 8) else none
  | _ => none

/-- Put a character in front of a text that was read. -/
def before (c : Char) (read : List Char × List Char) : List Char × List Char :=
  (c :: read.1, read.2)

/-- The rest of a text of one line after its opening quote. The length bounds the text. -/
def quoted : Nat → List Char → Option (List Char × List Char)
  | 0, _ => none
  | _ + 1, [] => none
  | bound + 1, c :: rest =>
    if c = '"' then some ([], rest)
    else if c = '\\' then
      (escape? rest).bind fun (c, rest) => (quoted bound rest).map (before c)
    else if isPlain c then (quoted bound rest).map (before c)
    else none

/-- The rest of a text of one line after its opening apostrophe. -/
def literal : List Char → Option (List Char × List Char)
  | [] => none
  | c :: rest =>
    if c = '\'' then some ([], rest)
    else if isPlain c then (literal rest).map (before c)
    else none

/-- The closing signs of a text of several lines, with the one or two that belong to the text. -/
def closing? (sign : Char) (text : List Char) : Option (List Char × List Char) :=
  let signs := min 5 (text.takeWhile (· = sign)).length
  if 3 ≤ signs then some (List.replicate (signs - 3) sign, text.drop signs) else none

/-- The rest of a text of several lines with escapes. -/
def quotedLines : Nat → List Char → Option (List Char × List Char)
  | 0, _ => none
  | bound + 1, text =>
    match closing? '"' text with
    | some read => some read
    | none =>
      match lineBreak? text, text with
      | some rest, _ => (quotedLines bound rest).map (before '\n')
      | none, '\\' :: rest =>
        match lineBreak? (skipBlanks rest) with
        | some rest => quotedLines bound (skipSpace rest)
        | none => (escape? rest).bind fun (c, rest) => (quotedLines bound rest).map (before c)
      | none, c :: rest => if isPlain c then (quotedLines bound rest).map (before c) else none
      | none, [] => none

/-- The rest of a text of several lines without escapes. -/
def literalLines : Nat → List Char → Option (List Char × List Char)
  | 0, _ => none
  | bound + 1, text =>
    match closing? '\'' text with
    | some read => some read
    | none =>
      match lineBreak? text, text with
      | some rest, _ => (literalLines bound rest).map (before '\n')
      | none, c :: rest => if isPlain c then (literalLines bound rest).map (before c) else none
      | none, [] => none

/-- A text of one line, and what follows it. -/
def readLine? : List Char → Option (String × List Char)
  | '"' :: rest => (quoted (rest.length + 1) rest).map fun read => (String.ofList read.1, read.2)
  | '\'' :: rest => (literal rest).map fun read => (String.ofList read.1, read.2)
  | _ => none

/-- A text of one or several lines, and what follows it. -/
def readText? : List Char → Option (String × List Char)
  | '"' :: '"' :: '"' :: rest =>
    (quotedLines (rest.length + 1) (skipLineBreak rest)).map fun read =>
      (String.ofList read.1, read.2)
  | '\'' :: '\'' :: '\'' :: rest =>
    (literalLines (rest.length + 1) (skipLineBreak rest)).map fun read =>
      (String.ofList read.1, read.2)
  | text => readLine? text

end AvControl.Toml

/-!
# Media types

A media type is a type and a subtype with a slash between them, in letters of either case, and after
them any number of parameters, each behind a semicolon. Blanks may stand in front of a parameter and
after a quoted value, and the last semicolon may have nothing behind it. A subtype may end in a
suffix that says which format it builds on.
-/

namespace AvControl.Http

/-- What a header says about the format of a body. Letters are in lower case. -/
structure MediaType where
  type : List Char
  subtype : List Char
  /-- The part of the subtype behind its last plus sign. -/
  suffix : Option (List Char) := none
deriving DecidableEq, Repr

namespace MediaType

/-- Whether a character may stand in the words of a media type. -/
def isTokenChar (c : Char) : Bool :=
  c.isAlphanum || "!#$%&'*+-.^_`|~".toList.contains c

/-- Whether a character may stand in a quoted value. Control characters may not. -/
def isQuotable (c : Char) : Bool := 32 ≤ c.toNat && c.toNat != 127

/-- The rest of a text behind a word, which may be empty. -/
def dropToken (text : List Char) : List Char := text.dropWhile isTokenChar

/--
The rest behind a quoted value, of which the opening quote was met. A backslash takes the character
behind it along; the closing quote is not the first character.
-/
def dropQuoted (isFirst : Bool) : List Char → Option (List Char)
  | [] => none
  | '\\' :: c :: rest => if isQuotable c then dropQuoted false rest else none
  | c :: rest =>
    if c = '"' && !isFirst then some rest
    else if isQuotable c then dropQuoted false rest
    else none

/-- The rest behind the value of a parameter: the next semicolon and what follows it. -/
def dropValue (text : List Char) : Option (List Char) :=
  match text with
  | '"' :: rest => (dropQuoted true rest).map fun rest => rest.dropWhile (· = ' ')
  | ';' :: _ => none
  | _ => some (dropToken text)

/--
Whether a text is a list of parameters as it stands behind a semicolon. A parameter takes at least
two characters, so the length of the text bounds their number.
-/
def areParameters : Nat → List Char → Bool
  | 0, _ => false
  | bound + 1, text =>
    match text.dropWhile (· = ' ') with
    | [] => true
    | text =>
      match dropToken text with
      | '=' :: rest =>
        text.head? != some '=' &&
          match dropValue rest with
          | some [] => true
          | some (';' :: rest) => areParameters bound rest
          | _ => false
      | _ => false

/-- A subtype split at its last plus sign, unless it begins there. -/
def splitSuffix (subtype : List Char) : List Char × Option (List Char) :=
  let suffix := (subtype.reverse.takeWhile (· != '+')).reverse
  let front := subtype.take (subtype.length - suffix.length - 1)
  if suffix.length < subtype.length ∧ front ≠ [] then (front, some suffix) else (subtype, none)

/-- Read a media type. -/
def parse? (text : List Char) : Option MediaType :=
  let type := text.takeWhile isTokenChar
  match text.dropWhile isTokenChar with
  | '/' :: rest =>
    let subtype := rest.takeWhile isTokenChar
    let isWellFormed := type ≠ [] &&
      match rest.dropWhile isTokenChar with
      | [] => true
      | ';' :: parameters => subtype ≠ [] && areParameters (parameters.length + 1) parameters
      | _ => false
    let (subtype, suffix) := splitSuffix (subtype.map Char.toLower)
    if isWellFormed then some { type := type.map Char.toLower, subtype, suffix } else none
  | _ => none

/-- Whether bodies of the media type are JSON. -/
def isJson (mediaType : MediaType) : Bool :=
  mediaType.type = "application".toList &&
    (mediaType.subtype = "json".toList || mediaType.suffix = some "json".toList)

end MediaType

end AvControl.Http

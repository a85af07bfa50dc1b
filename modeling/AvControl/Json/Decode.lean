import AvControl.Json.Document

/-!
# Decoding documents

A decoder walks a document in the order of the text and stops at the first fault. A fault is either
a place where the text is no JSON, or a value of another shape than the decoder needs; a container
of the wrong shape is refused at its opening bracket, a simple value of the wrong shape only after
it has been read. Containers may be nested 127 deep, except inside what a decoder ignores.

A record may be given as an object, whose unknown members are ignored and whose known members may
not be repeated, or as an array of its fields in their order, where trailing fields may be left out
if they may be absent.
-/

namespace AvControl.Json

/-- What stops a decoder. -/
inductive DecodeFault
  /-- The text is no JSON here. -/
  | malformed
  /-- The value has another shape or range than needed. -/
  | mismatched
deriving DecidableEq, Repr

/-- A decoder reads a document while a number of further levels may be opened. -/
abbrev Decoder (α : Type) := Nat → Document → Except DecodeFault α

/-- The number of levels that containers may be nested. -/
def maxDepth : Nat := 127

namespace Decoder

variable {α β σ : Type}

/-- The fault of a document of the wrong shape. -/
def wrongShape : Document → DecodeFault
  | .malformed | .number none | .text none => .malformed
  | _ => .mismatched

/-- A truth value. -/
def bool : Decoder Bool
  | _, .bool value => .ok value
  | _, document => .error (wrongShape document)

/-- A text. -/
def text : Decoder String
  | _, .text (some value) => .ok value
  | _, document => .error (wrongShape document)

/-- An integer between two bounds, written without fraction and exponent. -/
def integer (least greatest : Int) : Decoder Int
  | _, .number (some (.integer value)) =>
    if least ≤ value ∧ value ≤ greatest then .ok value else .error .mismatched
  | _, document => .error (wrongShape document)

/-- A value changed after it was read. -/
def map (change : α → β) (decoder : Decoder α) : Decoder β :=
  fun depth document => (decoder depth document).map change

/-- A value that is absent where the document says null. -/
def optional (decoder : Decoder α) : Decoder (Option α)
  | _, .null => .ok none
  | depth, document => (decoder depth document).map some

/-- Go on only after the closing bracket of a container. -/
def ended (ending : Ending) : Except DecodeFault Unit :=
  if ending = .brokenOff then .error .malformed else .ok ()

/-- A list of values. -/
def list (decoder : Decoder α) : Decoder (List α)
  | 0, .array _ _ => .error .malformed
  | depth + 1, .array items ending => do
    let values ← items.mapM (decoder depth)
    ended ending
    pure values
  | _, document => .error (wrongShape document)

/-- The name of a member. -/
def name : Option String → Except DecodeFault String
  | some name => .ok name
  | none => .error .malformed

/-- A map from names to values; of members with one name the last one counts. -/
def table {κ : Type} [OrderedKey κ] [DecidableEq κ] (key : String → κ) (decoder : Decoder α) :
    Decoder (SortedMap κ α)
  | 0, .object _ _ => .error .malformed
  | depth + 1, .object members ending => do
    let map ← members.foldlM
      (fun map member => do
        let name ← name member.1
        let value ← decoder depth member.2
        pure (map.insert (key name) value))
      SortedMap.empty
    ended ending
    pure map
  | _, document => .error (wrongShape document)

/-- One field of a record that is filled in step by step. -/
structure FieldOf (σ : Type) where
  name : String
  /-- Whether the field has been filled in. -/
  filled : σ → Bool
  /-- Read the field and fill it in. -/
  fill : Decoder (σ → σ)

/-- The field that `look` reads and `put` writes. -/
def FieldOf.of (name : String) (look : σ → Option α) (put : σ → α → σ) (decoder : Decoder α) :
    FieldOf σ where
  name := name
  filled partialRecord := (look partialRecord).isSome
  fill := decoder.map fun value partialRecord => put partialRecord value

/-- Fill in one field from a document. -/
def FieldOf.read (field : FieldOf σ) (depth : Nat) (document : Document) (partialRecord : σ) :
    Except DecodeFault σ :=
  (field.fill depth document).map fun fill => fill partialRecord

/-- Take in one member of a record that is given as an object. -/
def readMember (fields : List (FieldOf σ)) (depth : Nat) (partialRecord : σ)
    (member : Option String × Document) : Except DecodeFault σ := do
  let name ← name member.1
  match fields.find? fun field => field.name = name with
  | none => if member.2.isComplete then .ok partialRecord else .error .malformed
  | some field =>
    if field.filled partialRecord then .error .mismatched
    else field.read depth member.2 partialRecord

/-- Take in the fields of a record that is given as an array. -/
def readPositions (depth : Nat) (ending : Ending) :
    List (FieldOf σ) → List Document → σ → Except DecodeFault σ
  | [], [], partialRecord => (ended ending).map fun _ => partialRecord
  | [], _ :: _, partialRecord =>
    if ending = .lenient then .ok partialRecord else .error .malformed
  | _ :: _, [], partialRecord => (ended ending).map fun _ => partialRecord
  | field :: fields, item :: items, partialRecord => do
    let partialRecord ← field.read depth item partialRecord
    readPositions depth ending fields items partialRecord

/-- A record: `finish` is asked for the result once all that is present has been filled in. -/
def record (fields : List (FieldOf σ)) (start : σ) (finish : σ → Option α) : Decoder α
  | 0, .object _ _ | 0, .array _ _ => .error .malformed
  | depth + 1, .object members ending => do
    let filled ← members.foldlM (readMember fields depth) start
    ended ending
    match finish filled with
    | some value => .ok value
    | none => .error .mismatched
  | depth + 1, .array items ending => do
    let filled ← readPositions depth ending fields items start
    match finish filled with
    | some value => .ok value
    | none => .error .mismatched
  | _, document => .error (wrongShape document)

mutual

/-- Any value. Objects are sorted, and of members with one name the last one counts. -/
def any : Decoder Json
  | _, .null => .ok .null
  | _, .bool value => .ok (.bool value)
  | _, .number (some value) => .ok (.number value)
  | _, .text (some value) => .ok (.string value)
  | 0, .array _ _ | 0, .object _ _ => .error .malformed
  | depth + 1, .array items ending => do
    let values ← anyItems depth items
    ended ending
    pure (.array values)
  | depth + 1, .object members ending => do
    let members ← anyMembers depth members
    ended ending
    pure (Json.ofMembers members)
  | _, .number none | _, .text none | _, .malformed => .error .malformed

/-- A row of any values. -/
def anyItems : Nat → List Document → Except DecodeFault (List Json)
  | _, [] => .ok []
  | depth, item :: rest => do
    let value ← any depth item
    let values ← anyItems depth rest
    pure (value :: values)

/-- The members of an object of any values. -/
def anyMembers : Nat → List (Option String × Document) →
    Except DecodeFault (List (String × Json))
  | _, [] => .ok []
  | depth, (member, document) :: rest => do
    let name ← name member
    let value ← any depth document
    let members ← anyMembers depth rest
    pure ((name, value) :: members)

end

/-- Decode a document on its own. -/
def run (decoder : Decoder α) (document : Document) : Except DecodeFault α :=
  decoder maxDepth document

/-- Decode a text, after whose value only blanks may follow. -/
def runText (decoder : Decoder α) (text : String) : Except DecodeFault α := do
  let (document, complete) := readDocument text.toList
  let value ← decoder.run document
  if complete then pure value else .error .malformed

end Decoder

end AvControl.Json

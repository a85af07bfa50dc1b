import AvControl.Json.Document

/-!
# TOML values

A table remembers how it came about, because that decides who may still add to it: a table with a
header of its own or between braces is complete where it stands, one that was only passed through on
the way to another may get its header later, and one that dotted keys made may get more dotted keys.
An array of tables grows by further headers, and everything that is put into it goes into its last
table.
-/

namespace AvControl.Toml

/-- How a table came about. -/
inductive Origin
  /-- By a header that names it. -/
  | header
  /-- On the way to a table that a header names. -/
  | implied
  /-- On the way to a value that a dotted key names. -/
  | dotted
  /-- Between braces. -/
  | inlined
deriving DecidableEq, Repr

/-- A TOML value. -/
inductive Value
  | text (value : String)
  | integer (value : Int)
  /-- A binary64 number, absent if it is not finite. -/
  | float (value : Option Decimal.Binary64)
  | bool (value : Bool)
  /-- A date, a time or both, in its usual form. -/
  | datetime (value : String)
  | array (items : List Value)
  | table (origin : Origin) (members : List (String × Value))
  /-- An array of tables that headers name. -/
  | tables (rows : List (List (String × Value)))
deriving Repr, Inhabited

/-- The members of a table in the order of their names. -/
abbrev Members := List (String × Value)

/-- The last of some rows after a change. -/
def changeLast (change : Members → Option Members) : List Members → Option (List Members)
  | [] => none
  | [row] => (change row).map fun row => [row]
  | row :: rest => (changeLast change rest).map (row :: ·)

/-- Change the table at the end of a path of headers; tables that are missing are implied. -/
def within (change : Members → Option Members) : List String → Members → Option Members
  | [], members => change members
  | name :: path, members =>
    let entered : Option Value := match SortedMap.findEntry name members with
      | none => (within change path []).map (Value.table .implied)
      | some (.table .inlined _) => none
      | some (.table origin inner) => (within change path inner).map (Value.table origin)
      | some (.tables rows) => (changeLast (within change path) rows).map Value.tables
      | some _ => none
    entered.map fun value => SortedMap.insertEntry name value members

/--
Put a value at the end of a dotted key. The tables on the way may not have a header, and the last of
them has to be made by dotted keys; `free` says whether the present table may take the value.
-/
def put (name : String) (value : Value) : List String → Bool → Members → Option Members
  | [], free, members =>
    if free && (SortedMap.findEntry name members).isNone then
      some (SortedMap.insertEntry name value members)
    else none
  | step :: path, _, members =>
    let entered : Option Value := match SortedMap.findEntry step members with
      | none => (put name value path true []).map (Value.table .dotted)
      | some (.table .dotted inner) => (put name value path true inner).map (Value.table .dotted)
      | some (.table .implied inner) => (put name value path false inner).map (Value.table .implied)
      | some (.tables rows) => (changeLast (put name value path false) rows).map Value.tables
      | some _ => none
    entered.map fun value => SortedMap.insertEntry step value members

/-- Put a value under a key of one or more parts. -/
def putKey (key : List String) (value : Value) (members : Members) : Option Members :=
  match key.getLast? with
  | some name => put name value key.dropLast true members
  | none => none

/-- Give a table its header. It must not have one yet, nor come from dotted keys. -/
def openTable (key : List String) (members : Members) : Option Members :=
  match key.getLast? with
  | none => none
  | some name =>
    within
      (fun members =>
        match SortedMap.findEntry name members with
        | none => some (SortedMap.insertEntry name (.table .header []) members)
        | some (.table .implied inner) =>
          some (SortedMap.insertEntry name (.table .header inner) members)
        | some _ => none)
      key.dropLast members

/-- Add a table to an array of tables, which is made if it is missing. -/
def openRow (key : List String) (members : Members) : Option Members :=
  match key.getLast? with
  | none => none
  | some name =>
    within
      (fun members =>
        match SortedMap.findEntry name members with
        | none => some (SortedMap.insertEntry name (.tables [[]]) members)
        | some (.tables rows) =>
          some (SortedMap.insertEntry name (.tables (rows ++ [[]])) members)
        | some _ => none)
      key.dropLast members

/-- The name under which a date or time appears where the other values are. -/
def datetimeName : String := "$__toml_private_datetime"

mutual

/-- The document of a value. A number that is not finite is one that a document cannot hold. -/
def Value.document : Value → Json.Document
  | .text value => .text (some value)
  | .integer value => .number (some (.integer value))
  | .float value => .number (value.map .binary64)
  | .bool value => .bool value
  | .datetime value => .object [(some datetimeName, .text (some value))] .closed
  | .array items => .array (itemDocuments items) .lenient
  | .table _ members => .object (memberDocuments members) .closed
  | .tables rows => .array (rowDocuments rows) .lenient

/-- The documents of some values. -/
def itemDocuments : List Value → List Json.Document
  | [] => []
  | item :: rest => item.document :: itemDocuments rest

/-- The documents of the members of a table. -/
def memberDocuments : List (String × Value) → List (Option String × Json.Document)
  | [] => []
  | (name, value) :: rest => (some name, value.document) :: memberDocuments rest

/-- The documents of some tables. -/
def rowDocuments : List (List (String × Value)) → List Json.Document
  | [] => []
  | row :: rest => .object (memberDocuments row) .closed :: rowDocuments rest

end

end AvControl.Toml

import AvControl.Driver.Basic
import AvControl.Json.Render
import AvControl.Text.Quoted

/-!
# Configuration of the virtual drivers

A virtual driver is told one thing: how many milliseconds a round trip to its devices takes, as the
member `latency_ms` of an object or as the only item of an array. Without it the round trip takes
no time. Everything else is refused, and the first offending member or item is named. The number
has to fit 64 bits.
-/

namespace AvControl.Virtual

/-- What a value is called in a complaint about it. -/
def described : Json → String
  | .null => "null"
  | .bool value => "boolean `" ++ toString value ++ "`"
  | .number (.integer value) => "integer `" ++ toString value ++ "`"
  | .number (.binary64 value) =>
    "floating point `" ++ String.ofList (Json.renderNumber (.binary64 value)) ++ "`"
  | .string text => "string " ++ Text.quoted text
  | .array _ => "sequence"
  | .object _ => "map"

/-- The complaint about a value of another type than needed. -/
def invalidType (value : Json) (expected : String) : DriverError :=
  { message := "invalid type: " ++ described value ++ ", expected " ++ expected }

/-- The complaint about a value of the right type that is out of range. -/
def invalidValue (value : Json) (expected : String) : DriverError :=
  { message := "invalid value: " ++ described value ++ ", expected " ++ expected }

/-- A number of milliseconds. -/
def readLatency (value : Json) : Except DriverError Nat :=
  match value with
  | .number (.integer duration) =>
    if 0 ≤ duration ∧ duration < UInt64.size then .ok duration.toNat
    else .error (invalidValue value "u64")
  | _ => .error (invalidType value "u64")

/-- The latency among the members of an object, when those before may have told it. -/
def readMembers (told : Option Nat) : List (String × Json) → Except DriverError Nat
  | [] => .ok (told.getD 0)
  | (name, value) :: rest =>
    if name = "latency_ms" then
      match told, readLatency value with
      | none, .ok latency => readMembers (some latency) rest
      | none, .error error => .error error
      | some _, _ => .error { message := "duplicate field `latency_ms`" }
    else .error { message := "unknown field `" ++ name ++ "`, expected `latency_ms`" }

/-- The round trip that a configuration asks for. -/
def readConfiguration : Json → Except DriverError Nat
  | .object members => readMembers none members
  | .array [] => .ok 0
  | .array [item] => readLatency item
  | .array (first :: second :: rest) =>
    match readLatency first with
    | .ok _ =>
      let length := toString ((first :: second :: rest).length)
      .error { message := "invalid length " ++ length ++ ", expected fewer elements in array" }
    | .error error => .error error
  | other => .error (invalidType other "struct VirtualConfig")

end AvControl.Virtual

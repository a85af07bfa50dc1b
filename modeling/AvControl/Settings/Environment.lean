import AvControl.Settings.Basic

/-!
# Settings from the environment

Variables of the environment take precedence over what is written in a file. They are looked at one
after another, and each that is set overwrites what it is about; so it matters that the variable for
the whole address comes after those for its parts, and of the two variables for the log the general
one after the particular one. A value that is no number of the right size changes nothing.
-/

namespace AvControl

/-- The variables of an environment. -/
abbrev Environment := SortedMap String String

namespace Settings

/-- The value of decimal digits, provided that there is at least one and nothing else. -/
def digitsOnly? (digits : List Char) : Option Nat :=
  if digits.isEmpty || !digits.all Char.isDigit then none
  else some (digits.foldl (fun value digit => value * 10 + (digit.toNat - '0'.toNat)) 0)

/-- A natural number up to a bound, written in decimal; a plus sign may precede it. -/
def natUpTo? (greatest : Nat) (text : String) : Option Nat :=
  let digits := match text.toList with
    | '+' :: digits => digits
    | digits => digits
  (digitsOnly? digits).filter (· ≤ greatest)

/-- A port. -/
def port? (text : String) : Option UInt16 := (natUpTo? (UInt16.size - 1) text).map UInt16.ofNat

/-- A number of seconds. -/
def seconds? (text : String) : Option UInt64 := (natUpTo? (UInt64.size - 1) text).map UInt64.ofNat

/-- The parts of a text before and after its last colon. -/
def splitAtLastColon? (text : String) : Option (String × String) :=
  let backwards := text.toList.reverse
  match backwards.dropWhile (· ≠ ':') with
  | [] => none
  | _ :: host =>
    some (String.ofList host.reverse, String.ofList (backwards.takeWhile (· ≠ ':')).reverse)

/-! ### What the text of a variable changes -/

def withHost (host : String) (settings : Settings) : Settings :=
  { settings with server.host := host }

def withPort (text : String) (settings : Settings) : Settings :=
  match port? text with
  | some port => { settings with server.port := port }
  | none => settings

/-- The host is taken from an address even if no port can be. -/
def withAddress (text : String) (settings : Settings) : Settings :=
  match splitAtLastColon? text with
  | some (host, port) => withPort port (withHost host settings)
  | none => settings

def withTimeout (text : String) (settings : Settings) : Settings :=
  match seconds? text with
  | some seconds => { settings with server.timeoutSeconds := seconds }
  | none => settings

def withFilter (filter : String) (settings : Settings) : Settings :=
  { settings with logging.filter := filter }

/-- The settings after one variable was looked at. -/
def heed (environment : Environment) (variableName : String)
    (change : String → Settings → Settings) (settings : Settings) : Settings :=
  match environment.get? variableName with
  | some text => change text settings
  | none => settings

/-- The settings under an environment. -/
def override (environment : Environment) (settings : Settings) : Settings :=
  settings
    |> heed environment "ROOMCTL_HOST" withHost
    |> heed environment "ROOMCTL_PORT" withPort
    |> heed environment "ROOMCTL_BIND" withAddress
    |> heed environment "ROOMCTL_REQUEST_TIMEOUT_SECS" withTimeout
    |> heed environment "ROOMCTL_LOG" withFilter
    |> heed environment "RUST_LOG" withFilter

end Settings

end AvControl

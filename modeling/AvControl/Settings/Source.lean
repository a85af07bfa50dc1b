import AvControl.Settings.Environment
import AvControl.Toml.Document
import AvControl.Wire.Room

/-!
# Reading settings

Settings are written in a TOML file, or given as a JSON value of the same shape. Everything has a
default, so that there need not be a file at all, and what is unknown is ignored. What a driver is
told is left to the driver, but it has to be expressible in TOML: there is no null in it, and an
integer fits 64 bits with its sign. A number that is not finite becomes null.
-/

namespace AvControl

open Json (Decoder Document)
open Json.Decoder (FieldOf)

namespace ServerSettings

/-- Server settings whose fields are being read. -/
structure Draft where
  host : Option String := none
  port : Option UInt16 := none
  timeoutSeconds : Option UInt64 := none

/-- Read a port. -/
def portDecoder : Decoder UInt16 :=
  (Decoder.integer 0 (UInt16.size - 1)).map fun value => UInt16.ofNat value.toNat

/-- Read a number of seconds. -/
def secondsDecoder : Decoder UInt64 :=
  (Decoder.integer 0 (UInt64.size - 1)).map fun value => UInt64.ofNat value.toNat

/-- Read server settings. -/
def decoder : Decoder ServerSettings :=
  Decoder.record
    [ FieldOf.of "host" Draft.host ({ · with host := some · }) Decoder.text,
      FieldOf.of "port" Draft.port ({ · with port := some · }) portDecoder,
      FieldOf.of "request_timeout_secs" Draft.timeoutSeconds
        ({ · with timeoutSeconds := some · }) secondsDecoder ]
    {}
    fun draft =>
      let defaults : ServerSettings := {}
      some
        { host := draft.host.getD defaults.host
          port := draft.port.getD defaults.port
          timeoutSeconds := draft.timeoutSeconds.getD defaults.timeoutSeconds }

end ServerSettings

namespace LoggingSettings

/-- Read log settings. -/
def decoder : Decoder LoggingSettings :=
  Decoder.record [FieldOf.of "filter" id (fun _ filter => some filter) Decoder.text] none
    fun filter =>
      let defaults : LoggingSettings := {}
      some { filter := filter.getD defaults.filter }

end LoggingSettings

namespace RoomSection

/-- A room whose fields are being read. -/
structure Draft where
  id : Option (Option String) := none
  proxy : Option (Option String) := none
  devices : Option (SortedMap String DeviceConfig) := none

/-- Read a room. -/
def decoder : Decoder RoomSection :=
  Decoder.record
    [ FieldOf.of "id" Draft.id ({ · with id := some · }) Decoder.text.optional,
      FieldOf.of "proxy" Draft.proxy ({ · with proxy := some · }) Decoder.text.optional,
      FieldOf.of "devices" Draft.devices ({ · with devices := some · })
        (Decoder.table (fun name => name) DeviceConfig.decoder) ]
    {}
    fun draft => some
      { id := draft.id.join
        proxy := draft.proxy.join
        devices := draft.devices.getD SortedMap.empty }

end RoomSection

namespace DriverTable

/-- The value of a date or time that is written as the only member of an object. -/
def datetime (rest : List (Option String × Document)) :
    Document → Except Json.DecodeFault Json
  | .text (some text) =>
    match Toml.readDatetime? text.toList, rest with
    | some (usual, []), [] => .ok (.object [(Toml.datetimeName, .string usual)])
    | _, _ => .error .mismatched
  | _ => .error .mismatched

mutual

/-- Read a value inside the table of a driver. -/
def value : Decoder Json
  | _, .bool value => .ok (.bool value)
  | _, .number none => .ok .null
  | _, .number (some (.integer value)) =>
    if value ≤ Int64.maxValue.toInt then .ok (Json.ofInt value) else .error .mismatched
  | _, .number (some value) => .ok (.number value)
  | _, .text (some value) => .ok (.string value)
  | depth + 1, .array listed _ => (items depth listed).map .array
  | depth + 1, .object ((some name, first) :: rest) _ =>
    if name = Toml.datetimeName then datetime rest first
    else (members depth ((some name, first) :: rest)).map Json.ofMembers
  | _, .object [] _ => .ok (.object [])
  | _, .null | _, .text none | _, .malformed | 0, .array _ _ | _, .object _ _ =>
    .error .mismatched

/-- Read a row of values. -/
def items : Nat → List Document → Except Json.DecodeFault (List Json)
  | _, [] => .ok []
  | depth, item :: rest => do
    let item ← value depth item
    let rest ← items depth rest
    pure (item :: rest)

/-- Read the members of a table. -/
def members : Nat → List (Option String × Document) →
    Except Json.DecodeFault (List (String × Json))
  | _, [] => .ok []
  | depth, (name, document) :: rest => do
    let name ← Decoder.name name
    let member ← value depth document
    let rest ← members depth rest
    pure ((name, member) :: rest)

end

/-- Read the table of a driver. -/
def decoder : Decoder Json
  | depth + 1, .object listed _ => (members depth listed).map Json.ofMembers
  | _, _ => .error .mismatched

end DriverTable

namespace Settings

/-- Settings whose fields are being read. -/
structure Draft where
  server : Option ServerSettings := none
  logging : Option LoggingSettings := none
  drivers : Option (SortedMap String Json) := none
  rooms : Option (SortedMap String RoomSection) := none

/-- Read settings. -/
def decoder : Decoder Settings :=
  Decoder.record
    [ FieldOf.of "server" Draft.server ({ · with server := some · }) ServerSettings.decoder,
      FieldOf.of "logging" Draft.logging ({ · with logging := some · }) LoggingSettings.decoder,
      FieldOf.of "drivers" Draft.drivers ({ · with drivers := some · })
        (Decoder.table id DriverTable.decoder),
      FieldOf.of "rooms" Draft.rooms ({ · with rooms := some · })
        (Decoder.table id RoomSection.decoder) ]
    {}
    fun draft => some
      { server := draft.server.getD {}
        logging := draft.logging.getD {}
        drivers := draft.drivers.getD SortedMap.empty
        rooms := draft.rooms.getD SortedMap.empty }

/-- More levels than a document has. -/
def depth : Nat := 1000

/-- The settings in a JSON value. -/
def ofJson (value : Json) : Except Json.DecodeFault Settings := decoder depth (.ofJson value)

/-- The settings in a TOML text. -/
def ofToml (text : String) : Except SettingsError Settings :=
  match Toml.read? text with
  | none => .error .parse
  | some members =>
    (decoder depth (.object (Toml.memberDocuments members) .closed)).mapError fun _ => .parse

end Settings

/-- What is found at the place of the settings file. -/
inductive SettingsFile
  | missing
  | unreadable
  | content (bytes : ByteArray)

namespace Settings

/-- The settings in a file. A file that is missing leaves everything to the defaults. -/
def ofFile : SettingsFile → Except SettingsError Settings
  | .missing => .ok {}
  | .unreadable => .error .io
  | .content bytes =>
    match String.fromUTF8? bytes with
    | some text => ofToml text
    | none => .error .io

/-- The settings in a file under an environment, provided that they are valid. -/
def load (file : SettingsFile) (environment : Environment) : Except SettingsError Settings := do
  let settings := (← ofFile file).override environment
  settings.validate
  pure settings

end Settings

end AvControl

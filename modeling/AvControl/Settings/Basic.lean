import AvControl.Json.Value
import AvControl.Room

/-!
# Settings

The settings of a server: where it listens, how long a request may take, what is logged, what the
drivers are told, and the rooms that it serves. Rooms are given by tables under their identifiers,
and a table may repeat the identifier, but not contradict it.
-/

namespace AvControl

/-- Where the server listens and how long one request may take. -/
structure ServerSettings where
  host : String := "0.0.0.0"
  port : UInt16 := 3000
  timeoutSeconds : UInt64 := 10
deriving DecidableEq, Repr, Inhabited

/-- What is logged. -/
structure LoggingSettings where
  filter : String := "roomctld=info,roomctl_app=info,tower_http=debug"
deriving DecidableEq, Repr, Inhabited

/-- One room as it is given. -/
structure RoomSection where
  id : Option String := none
  proxy : Option String := none
  devices : SortedMap String DeviceConfig := SortedMap.empty
deriving DecidableEq, Repr, Inhabited

/-- The settings of a server. -/
structure Settings where
  server : ServerSettings := {}
  logging : LoggingSettings := {}
  /-- What each driver is told, by its name. -/
  drivers : SortedMap String Json := SortedMap.empty
  /-- The rooms by their identifiers. -/
  rooms : SortedMap String RoomSection := SortedMap.empty
deriving DecidableEq, Repr, Inhabited

/-- Why there are no usable settings. -/
inductive SettingsError
  | parse
  | io
  | validation (message : String)
  | room (key : String) (error : RequestError)
deriving DecidableEq, Repr

namespace SettingsError

/-- The text of a settings error. -/
def message : SettingsError → String
  | parse => "failed to parse config file"
  | io => "failed to read config file"
  | validation message => "invalid configuration: " ++ message
  | room key _ => "invalid room " ++ Text.quoted key

/-- The messages of the causes. -/
def causes : SettingsError → List String
  | room _ error => error.message :: error.causes
  | _ => []

end SettingsError

namespace RoomSection

/-- The devices under their identifiers. -/
def namedDevices (devices : List (String × DeviceConfig)) :
    Except ValidationError (List (DeviceId × DeviceConfig)) :=
  devices.mapM fun device => do
    let id ← DeviceId.parse device.1
    pure (id, device.2)

/-- The room of a table under its identifier: first the identifier is checked, then the devices. -/
def build (table : RoomSection) (key : String) : Except RequestError RoomConfig :=
  match RoomId.parse key with
  | .error error => .error (.validation error)
  | .ok id =>
    match namedDevices table.devices.entries with
    | .error error => .error (.validation error)
    | .ok devices => RoomConfig.build id table.proxy devices

/-- The room of a table, unless the table contradicts its identifier. -/
def room (table : RoomSection) (key : String) : Except SettingsError RoomConfig :=
  match table.id with
  | some explicit =>
    if explicit = key then (table.build key).mapError (.room key)
    else
      .error (.validation ("rooms." ++ key ++ ": id " ++ Text.quoted explicit ++
        " does not match the table key"))
  | none => (table.build key).mapError (.room key)

end RoomSection

namespace Settings

/-- All rooms in the order of their identifiers. -/
def roomConfigs (settings : Settings) : Except SettingsError (List RoomConfig) :=
  settings.rooms.entries.mapM fun entry => entry.2.room entry.1

/-- Let only settings pass with a port, a time for requests and good rooms. -/
def validate (settings : Settings) : Except SettingsError Unit :=
  if settings.server.port = 0 then .error (.validation "port must be non-zero")
  else if settings.server.timeoutSeconds = 0 then
    .error (.validation "request timeout must be non-zero")
  else settings.roomConfigs.map fun _ => ()

/-- The address to listen at, as host and port. -/
def bindAddress (settings : Settings) : String :=
  settings.server.host ++ ":" ++ toString settings.server.port.toNat

end Settings

end AvControl

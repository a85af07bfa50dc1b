import AvControl.Error

/-!
# Rooms

A room is a snapshot of the devices installed in it: where each device is reached, which driver
speaks to it, and which named ports it declares. Ports of the kinds `volume` and `mute` are the
blocks whose level or mute flag can be addressed.
-/

namespace AvControl

/-- A named part of a device. -/
structure Port where
  name : String
  kind : String
deriving DecidableEq, Repr, Inhabited

namespace Port

/-- The kind of the ports that have a level. -/
def volumeKind : String := "volume"

/-- The kind of the ports that have a mute flag. -/
def muteKind : String := "mute"

end Port

/-- How one device is reached and what it declares. -/
structure DeviceConfig where
  address : String
  /-- The registered name of the driver. -/
  driver : String
  ports : List Port := []
deriving DecidableEq, Repr, Inhabited

namespace DeviceConfig

/-- Whether a port of the given name and kind is declared. -/
def hasPort (config : DeviceConfig) (name kind : String) : Bool :=
  config.ports.any fun port => port.name == name && port.kind == kind

/-- The names of the declared ports of one kind, in the order of their declaration. -/
def blocks (config : DeviceConfig) (kind : String) : List String :=
  (config.ports.filter fun port => port.kind == kind).map (·.name)

/-- Whether a block may be addressed: the empty block always, any other if it is declared. -/
def acceptsBlock (config : DeviceConfig) (block kind : String) : Bool :=
  block.isEmpty || config.hasPort block kind

end DeviceConfig

/-- The devices of one room. -/
structure RoomConfig where
  id : RoomId
  /-- The base address of the instance that owns the room, if it is another one. -/
  proxy : Option String := none
  devices : SortedMap DeviceId DeviceConfig := SortedMap.empty
deriving DecidableEq, Repr, Inhabited

namespace RoomConfig

/-- What is wrong with the configuration of one device. -/
def deviceFault? (device : DeviceId) (config : DeviceConfig) : Option ValidationError :=
  if config.driver.isEmpty then some (.emptyDriver device)
  else if config.address.isEmpty then some (.emptyAddress device)
  else none

/-- The fault of the first faulty device. -/
def fault? (room : RoomConfig) : Option ValidationError :=
  room.devices.entries.findSome? fun entry => deviceFault? entry.1 entry.2

/-- A room is valid when every device has a driver and an address. -/
def validate (room : RoomConfig) : Except RequestError Unit :=
  match room.fault? with
  | some fault => .error (.validation fault)
  | none => .ok ()

/-- The valid room of some devices, a later one replacing an earlier one of its name. -/
def build (id : RoomId) (proxy : Option String) (devices : List (DeviceId × DeviceConfig)) :
    Except RequestError RoomConfig := do
  let room : RoomConfig := { id, proxy, devices := SortedMap.ofList devices }
  room.validate
  pure room

end RoomConfig

end AvControl

import AvControl.Room
import AvControl.Wire.State

/-!
# The JSON form of rooms

Ports are left out where a device declares none, and the proxy where there is none. The identifiers
of a room and of its devices are taken as they are.
-/

namespace AvControl

open Json (Decoder)
open Json.Decoder (FieldOf)

namespace Port

/-- The JSON form of a port. -/
def toJson (port : Port) : Json :=
  .object [("name", .string port.name), ("type", .string port.kind)]

/-- A port whose fields are being read. -/
structure Draft where
  name : Option String := none
  kind : Option String := none

/-- Read a port. -/
def decoder : Decoder Port :=
  Decoder.record
    [ FieldOf.of "name" Draft.name ({ · with name := some · }) Decoder.text,
      FieldOf.of "type" Draft.kind ({ · with kind := some · }) Decoder.text ]
    {}
    fun draft => do pure ⟨← draft.name, ← draft.kind⟩

end Port

namespace DeviceConfig

/-- The JSON form of a device configuration. -/
def toJson (config : DeviceConfig) : Json :=
  .object <|
    [("address", .string config.address), ("driver", .string config.driver)] ++
    if config.ports.isEmpty then [] else [("ports", .array (config.ports.map Port.toJson))]

/-- A device configuration whose fields are being read. -/
structure Draft where
  address : Option String := none
  driver : Option String := none
  ports : Option (List Port) := none

/-- Read a device configuration. -/
def decoder : Decoder DeviceConfig :=
  Decoder.record
    [ FieldOf.of "address" Draft.address ({ · with address := some · }) Decoder.text,
      FieldOf.of "driver" Draft.driver ({ · with driver := some · }) Decoder.text,
      FieldOf.of "ports" Draft.ports ({ · with ports := some · }) (Decoder.list Port.decoder) ]
    {}
    fun draft => do pure ⟨← draft.address, ← draft.driver, draft.ports.getD []⟩

end DeviceConfig

namespace RoomConfig

/-- The JSON form of a room. -/
def toJson (room : RoomConfig) : Json :=
  .object <|
    [("id", .string room.id.text)] ++
    Json.member "proxy" .string room.proxy ++
    [("devices", Json.ofTable DeviceId.text DeviceConfig.toJson room.devices)]

/-- A room whose fields are being read. -/
structure Draft where
  id : Option String := none
  proxy : Option (Option String) := none
  devices : Option (SortedMap DeviceId DeviceConfig) := none

/-- Read a room. -/
def decoder : Decoder RoomConfig :=
  Decoder.record
    [ FieldOf.of "id" Draft.id ({ · with id := some · }) Decoder.text,
      FieldOf.of "proxy" Draft.proxy ({ · with proxy := some · }) Decoder.text.optional,
      FieldOf.of "devices" Draft.devices ({ · with devices := some · })
        (Decoder.table DeviceId.mk DeviceConfig.decoder) ]
    {}
    fun draft => do
      pure ⟨⟨← draft.id⟩, draft.proxy.join, draft.devices.getD SortedMap.empty⟩

end RoomConfig

end AvControl

import AvControl.Engine.Operation
import AvControl.Wire.Response

/-!
# The JSON form of answers

An answer to a room request is written like any response, with data of the kind that was asked for.
-/

namespace AvControl.Operation

/-- The JSON form of what a device contributes. -/
def dataToJson : (operation : Operation) → operation.Data → Json
  | get => DeviceState.toJson
  | set _ => DeviceState.toJson
  | health => DeviceHealth.toJson
  | info => fun info => info

/-- The JSON form of a response. -/
def responseToJson (operation : Operation) (response : RoomResponse operation.Data) : Json :=
  response.toJson operation.dataToJson

end AvControl.Operation

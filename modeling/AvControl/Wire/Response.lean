import AvControl.Response
import AvControl.Wire.State

/-!
# The JSON form of responses

The list of reports is left out where it is empty, and so is the value of a report that has none.
Data about devices are required, and a report given as an array has its value in the third place.
-/

namespace AvControl

open Json (Decoder)
open Json.Decoder (FieldOf)

namespace FieldReport

/-- The JSON form of a report. -/
def toJson (report : FieldReport) : Json :=
  .object <|
    [("id", .string report.device.text), ("field", .string report.field)] ++
    Json.member "value" id report.value ++
    [("error", .string report.error)]

/-- A report whose fields are being read. -/
structure Draft where
  device : Option String := none
  field : Option String := none
  value : Option (Option Json) := none
  error : Option String := none

/-- Read a report. -/
def decoder : Decoder FieldReport :=
  Decoder.record
    [ FieldOf.of "id" Draft.device ({ · with device := some · }) Decoder.text,
      FieldOf.of "field" Draft.field ({ · with field := some · }) Decoder.text,
      FieldOf.of "value" Draft.value ({ · with value := some · }) Decoder.any.optional,
      FieldOf.of "error" Draft.error ({ · with error := some · }) Decoder.text ]
    {}
    fun draft => do pure ⟨⟨← draft.device⟩, ← draft.field, draft.value.join, ← draft.error⟩

end FieldReport

namespace RoomResponse

variable {α : Type}

/-- The JSON form of a response, given that of its data. -/
def toJson (encode : α → Json) (response : RoomResponse α) : Json :=
  .object <|
    [("devices", Json.ofTable DeviceId.text encode response.devices)] ++
    if response.errors.isEmpty then []
    else [("errors", .array (response.errors.map FieldReport.toJson))]

/-- A response whose fields are being read. -/
structure Draft (α : Type) where
  devices : Option (SortedMap DeviceId α) := none
  errors : Option (List FieldReport) := none

/-- Read a response, given how to read its data. -/
def decoder (data : Decoder α) : Decoder (RoomResponse α) :=
  Decoder.record
    [ FieldOf.of "devices" Draft.devices ({ · with devices := some · })
        (Decoder.table DeviceId.mk data),
      FieldOf.of "errors" Draft.errors ({ · with errors := some · })
        (Decoder.list FieldReport.decoder) ]
    {}
    fun draft => do pure ⟨← draft.devices, draft.errors.getD []⟩

end RoomResponse

namespace DeviceHealth

/-- The JSON form of a health report. -/
def toJson (health : DeviceHealth) : Json :=
  .object <|
    [("healthy", .bool health.healthy)] ++
    if health.issues.isEmpty then [] else [("issues", Json.ofTexts health.issues)]

/-- A health report whose fields are being read. -/
structure Draft where
  healthy : Option Bool := none
  issues : Option (List String) := none

/-- Read a health report. -/
def decoder : Decoder DeviceHealth :=
  Decoder.record
    [ FieldOf.of "healthy" Draft.healthy ({ · with healthy := some · }) Decoder.bool,
      FieldOf.of "issues" Draft.issues ({ · with issues := some · }) (Decoder.list Decoder.text) ]
    {}
    fun draft => do pure ⟨← draft.healthy, draft.issues.getD []⟩

end DeviceHealth

end AvControl

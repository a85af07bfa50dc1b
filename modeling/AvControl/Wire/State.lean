import AvControl.DeviceState
import AvControl.Json.Decode
import AvControl.Json.Render

/-!
# The JSON form of states and requests

Fields appear in the order of their declaration and absent fields not at all; a map that is present
but empty does appear. Reading accepts fields in any order, ignores unknown ones, and takes null for
an absent field.
-/

namespace AvControl

open Json (Decoder)
open Json.Decoder (FieldOf)

/-- The member of a field, if the field is present. -/
def Json.member {α : Type} (name : String) (encode : α → Json) : Option α → List (String × Json)
  | some value => [(name, encode value)]
  | none => []

/-- The object of a map. -/
def Json.ofTable {κ α : Type} [OrderedKey κ] (name : κ → String) (encode : α → Json)
    (map : SortedMap κ α) : Json :=
  .object (map.entries.map fun entry => (name entry.1, encode entry.2))

namespace Feed

/-- The JSON form of a feed. -/
def toJson (feed : Feed) : Json :=
  .object <|
    Json.member "audioVideo" .string feed.audioVideo ++
    Json.member "audio" .string feed.audio ++
    Json.member "video" .string feed.video

/-- A feed whose fields are being read. -/
structure Draft where
  audioVideo : Option (Option String) := none
  audio : Option (Option String) := none
  video : Option (Option String) := none

/-- Read a feed. -/
def decoder : Decoder Feed :=
  Decoder.record
    [ FieldOf.of "audioVideo" Draft.audioVideo ({ · with audioVideo := some · })
        Decoder.text.optional,
      FieldOf.of "audio" Draft.audio ({ · with audio := some · }) Decoder.text.optional,
      FieldOf.of "video" Draft.video ({ · with video := some · }) Decoder.text.optional ]
    {}
    fun draft => some ⟨draft.audioVideo.join, draft.audio.join, draft.video.join⟩

end Feed

namespace DeviceState

/-- The JSON form of a level. -/
def levelToJson (level : Int32) : Json := Json.ofInt level.toInt

/-- Read a level, a signed 32-bit integer. -/
def levelDecoder : Decoder Int32 :=
  (Decoder.integer Int32.minValue.toInt Int32.maxValue.toInt).map Int32.ofInt

/-- The JSON form of a state. -/
def toJson (state : DeviceState) : Json :=
  .object <|
    Json.member "poweredOn" .bool state.poweredOn ++
    Json.member "blanked" .bool state.blanked ++
    Json.member "inputs" (Json.ofTable id Feed.toJson) state.inputs ++
    Json.member "volumes" (Json.ofTable id levelToJson) state.volumes ++
    Json.member "mutes" (Json.ofTable id .bool) state.mutes

/-- A state whose fields are being read. -/
structure Draft where
  poweredOn : Option (Option Bool) := none
  blanked : Option (Option Bool) := none
  inputs : Option (Option (SortedMap String Feed)) := none
  volumes : Option (Option (SortedMap String Int32)) := none
  mutes : Option (Option (SortedMap String Bool)) := none

/-- Read a state. -/
def decoder : Decoder DeviceState :=
  Decoder.record
    [ FieldOf.of "poweredOn" Draft.poweredOn ({ · with poweredOn := some · }) Decoder.bool.optional,
      FieldOf.of "blanked" Draft.blanked ({ · with blanked := some · }) Decoder.bool.optional,
      FieldOf.of "inputs" Draft.inputs ({ · with inputs := some · })
        (Decoder.table id Feed.decoder).optional,
      FieldOf.of "volumes" Draft.volumes ({ · with volumes := some · })
        (Decoder.table id levelDecoder).optional,
      FieldOf.of "mutes" Draft.mutes ({ · with mutes := some · })
        (Decoder.table id Decoder.bool).optional ]
    {}
    fun draft => some
      { poweredOn := draft.poweredOn.join
        blanked := draft.blanked.join
        inputs := draft.inputs.join
        volumes := draft.volumes.join
        mutes := draft.mutes.join }

end DeviceState

namespace StateRequest

/-- The JSON form of a request. -/
def toJson (request : StateRequest) : Json :=
  .object [("devices", Json.ofTable DeviceId.text DeviceState.toJson request.devices)]

/-- Read a request. -/
def decoder : Decoder StateRequest :=
  Decoder.record
    [ FieldOf.of "devices" id (fun _ devices => some devices)
        (Decoder.table DeviceId.mk DeviceState.decoder) ]
    none
    fun devices => some ⟨devices.getD SortedMap.empty⟩

end StateRequest

end AvControl

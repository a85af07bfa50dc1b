import AvControl.DeviceState
import AvControl.Error
import AvControl.Json.Render

/-!
# Responses to room requests

A response holds the data of the devices that have some, and a list of everything that went wrong.
The list has a canonical order, by device, field, error text and at last the text of the value, so
that a response does not tell in which order things happened.
-/

namespace AvControl

/-- One field that could not be read or applied. -/
structure FieldReport where
  device : DeviceId
  field : String
  /-- The value that was being applied, if there was one. -/
  value : Option Json := none
  error : String
deriving DecidableEq, Repr, Inhabited

namespace FieldReport

/-- The text by which values are told apart; that of an absent value is empty. -/
def renderedValue (report : FieldReport) : String :=
  match report.value with
  | some value => value.render
  | none => ""

/-- The order of two texts by their code points. -/
def compareText (a b : String) : Ordering :=
  if a < b then .lt else if a = b then .eq else .gt

/-- The canonical order of reports. -/
def compare (a b : FieldReport) : Ordering :=
  (compareText a.device.text b.device.text).then <|
    (compareText a.field b.field).then <|
      (compareText a.error b.error).then <|
        compareText a.renderedValue b.renderedValue

end FieldReport

/-- The data and the reports that one request to a room brought together. -/
structure RoomResponse (α : Type) where
  devices : SortedMap DeviceId α := SortedMap.empty
  errors : List FieldReport := []
deriving DecidableEq, Repr

namespace RoomResponse

variable {α : Type}

/-- Whether anything went wrong. -/
def hasErrors (response : RoomResponse α) : Bool := !response.errors.isEmpty

/-- The response with its reports in canonical order. -/
def sortErrors (response : RoomResponse α) : RoomResponse α :=
  { response with errors := response.errors.mergeSort fun a b => (a.compare b).isLE }

end RoomResponse

/-- What a device says about its own health. -/
structure DeviceHealth where
  healthy : Bool
  issues : List String := []
deriving DecidableEq, Repr, Inhabited

end AvControl

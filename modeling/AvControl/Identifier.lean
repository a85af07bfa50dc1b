import AvControl.SortedMap
import AvControl.Text.Quoted

/-!
# Identifiers of devices and rooms

A device is known inside its room by any text that is not empty. A room is known everywhere by the
name of its building and its own name with one hyphen between them. Identifiers that people type in
go through `parse`; identifiers that arrive inside a stored document are taken as they are, so the
parts of a room identifier are defined for every text.
-/

namespace AvControl

/-- The name of a device inside its room, such as `D1` or `DSP1`. -/
structure DeviceId where
  text : String
deriving DecidableEq, Repr, Inhabited

/-- The name of a room, such as `ITB-1101`. -/
structure RoomId where
  text : String
deriving DecidableEq, Repr, Inhabited

/-- What is wrong with a value that breaks a rule of the domain. -/
inductive ValidationError
  | emptyDeviceId
  | malformedRoomId (text : String)
  | emptyDriver (device : DeviceId)
  | emptyAddress (device : DeviceId)
deriving DecidableEq, Repr

namespace ValidationError

/-- The text shown for a broken rule. -/
def message : ValidationError → String
  | emptyDeviceId => "device id must not be empty"
  | malformedRoomId text => "room id " ++ Text.quoted text ++ " must be formatted as Building-Room"
  | emptyDriver device => device.text ++ ": device driver must not be empty"
  | emptyAddress device => device.text ++ ": device address must not be empty"

end ValidationError

namespace DeviceId

instance : OrderedKey DeviceId where
  lt a b := a.text < b.text
  decidableLt a b := inferInstanceAs (Decidable (a.text < b.text))
  lt_irrefl a := String.lt_irrefl a.text
  lt_trans := String.lt_trans
  lt_or_eq_or_lt a b := by
    rcases OrderedKey.lt_or_eq_or_lt a.text b.text with less | same | greater
    · exact Or.inl less
    · cases a
      cases b
      exact Or.inr (Or.inl (congrArg DeviceId.mk same))
    · exact Or.inr (Or.inr greater)

/-- Read a device identifier: any text but the empty one. -/
def parse (text : String) : Except ValidationError DeviceId :=
  if text.isEmpty then .error .emptyDeviceId else .ok ⟨text⟩

end DeviceId

namespace RoomId

instance : OrderedKey RoomId where
  lt a b := a.text < b.text
  decidableLt a b := inferInstanceAs (Decidable (a.text < b.text))
  lt_irrefl a := String.lt_irrefl a.text
  lt_trans := String.lt_trans
  lt_or_eq_or_lt a b := by
    rcases OrderedKey.lt_or_eq_or_lt a.text b.text with less | same | greater
    · exact Or.inl less
    · cases a
      cases b
      exact Or.inr (Or.inl (congrArg RoomId.mk same))
    · exact Or.inr (Or.inr greater)

/-- Everything before the first hyphen, or the whole text if there is none. -/
def building (id : RoomId) : String :=
  String.ofList (id.text.toList.takeWhile (· ≠ '-'))

/-- Everything after the first hyphen, or nothing if there is none. -/
def room (id : RoomId) : String :=
  String.ofList ((id.text.toList.dropWhile (· ≠ '-')).drop 1)

/-- Both parts hold something and the second holds no further hyphen. -/
def WellFormed (id : RoomId) : Prop :=
  id.building ≠ "" ∧ id.room ≠ "" ∧ '-' ∉ id.room.toList

instance (id : RoomId) : Decidable id.WellFormed :=
  inferInstanceAs (Decidable (_ ∧ _ ∧ _))

/-- Read a room identifier: two parts without hyphens, joined by one. -/
def parse (text : String) : Except ValidationError RoomId :=
  if WellFormed ⟨text⟩ then .ok ⟨text⟩ else .error (.malformedRoomId text)

end RoomId

end AvControl

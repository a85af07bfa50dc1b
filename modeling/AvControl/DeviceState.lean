import AvControl.Field
import AvControl.Identifier

/-!
# Sparse device states

A state says something about some fields of a device. As a request it holds what should change, as
a result it holds what was read or achieved; a field that is absent is neither. The same type serves
both, so a result can be laid over a state field by field.
-/

namespace AvControl

/-- What one output is fed from, for each kind of signal. -/
structure Feed where
  audioVideo : Option String := none
  audio : Option String := none
  video : Option String := none
deriving DecidableEq, Repr, Inhabited

namespace Feed

/-- The input for one kind of signal. -/
def slot (feed : Feed) : SignalKind → Option String
  | .audioVideo => feed.audioVideo
  | .audio => feed.audio
  | .video => feed.video

/-- The feed with a new input for one kind of signal. -/
def setSlot (feed : Feed) (kind : SignalKind) (input : String) : Feed :=
  match kind with
  | .audioVideo => { feed with audioVideo := some input }
  | .audio => { feed with audio := some input }
  | .video => { feed with video := some input }

@[simp]
theorem slot_setSlot (feed : Feed) (kind other : SignalKind) (input : String) :
    (feed.setSlot kind input).slot other =
      if other = kind then some input else feed.slot other := by
  cases kind <;> cases other <;> rfl

end Feed

/-- A requested, read or achieved state of one device. -/
structure DeviceState where
  poweredOn : Option Bool := none
  blanked : Option Bool := none
  /-- The feed of each output. -/
  inputs : Option (SortedMap String Feed) := none
  /-- The level of each block. -/
  volumes : Option (SortedMap String Int32) := none
  /-- The mute flag of each block. -/
  mutes : Option (SortedMap String Bool) := none
deriving DecidableEq, Repr, Inhabited

namespace DeviceState

/-- Whether an optional map holds nothing. -/
def holdsNothing {α : Type} : Option (SortedMap String α) → Bool
  | none => true
  | some map => map.isEmpty

/-- Whether the state names no field. An output without any feed counts as named. -/
def isEmpty (state : DeviceState) : Bool :=
  state.poweredOn.isNone && state.blanked.isNone && holdsNothing state.inputs &&
    holdsNothing state.volumes && holdsNothing state.mutes

/-- The state with one route. -/
def setInput (state : DeviceState) (output : String) (kind : SignalKind) (input : String) :
    DeviceState :=
  let inputs := state.inputs.getD SortedMap.empty
  let feed := (inputs.get? output).getD {}
  { state with inputs := some (inputs.insert output (feed.setSlot kind input)) }

/-- The state with the level of one block. -/
def setVolume (state : DeviceState) (block : String) (level : Int32) : DeviceState :=
  { state with volumes := some ((state.volumes.getD SortedMap.empty).insert block level) }

/-- The state with the mute flag of one block. -/
def setMute (state : DeviceState) (block : String) (muted : Bool) : DeviceState :=
  { state with mutes := some ((state.mutes.getD SortedMap.empty).insert block muted) }

/-- The entries of an optional map. -/
def entriesOf {α : Type} (map : Option (SortedMap String α)) : List (String × α) :=
  (map.getD SortedMap.empty).entries

/-- The outputs that have a route of one kind, in order, each with its input. -/
def routes (state : DeviceState) (kind : SignalKind) : List (String × String) :=
  (entriesOf state.inputs).filterMap fun entry =>
    (entry.2.slot kind).map fun input => (entry.1, input)

end DeviceState

/-- The states wanted for some of the devices of a room. -/
structure StateRequest where
  devices : SortedMap DeviceId DeviceState := SortedMap.empty
deriving DecidableEq, Repr, Inhabited

end AvControl

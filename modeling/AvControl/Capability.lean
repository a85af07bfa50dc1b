import AvControl.DeviceState
import AvControl.Response

/-!
# Capabilities and commands

A device offers some of nine small contracts. Its handle says which ones, and whoever works with
the device looks at nothing else. A command is one call of one contract; it determines the type of
its result and the field that a failure is reported under.
-/

namespace AvControl

/-- The contracts a device may offer. -/
inductive Capability
  | power
  | audioVideoInput
  | audioInput
  | videoInput
  | blank
  | volume
  | mute
  | health
  | info
deriving DecidableEq, Repr

namespace Capability

/-- All contracts in the order in which they are listed. -/
def all : List Capability :=
  [power, audioVideoInput, audioInput, videoInput, blank, volume, mute, health, info]

/-- The name of a contract. -/
def name : Capability → String
  | power => "power"
  | audioVideoInput => "audio_video_input"
  | audioInput => "audio_input"
  | videoInput => "video_input"
  | blank => "blank"
  | volume => "volume"
  | mute => "mute"
  | health => "health"
  | info => "info"

/-- The title of a contract in diagnostics. -/
def title : Capability → String
  | power => "Power"
  | audioVideoInput => "AudioVideoInput"
  | audioInput => "AudioInput"
  | videoInput => "VideoInput"
  | blank => "Blank"
  | volume => "Volume"
  | mute => "Mute"
  | health => "Health"
  | info => "Info"

/-- The contract that routes one kind of signal. -/
def input : SignalKind → Capability
  | .audioVideo => audioVideoInput
  | .audio => audioInput
  | .video => videoInput

end Capability

/-- An open session with a device, known by the contracts it offers. -/
structure Handle where
  capabilities : List Capability
deriving DecidableEq, Repr, Inhabited

namespace Handle

/-- A handle that offers every contract. -/
def full : Handle := ⟨Capability.all⟩

/-- Whether a contract is offered. -/
def supports (handle : Handle) (capability : Capability) : Bool :=
  handle.capabilities.contains capability

/-- The offered contracts in their usual order. -/
def listing (handle : Handle) : List Capability :=
  Capability.all.filter handle.supports

/-- The handle as shown in diagnostics. -/
def describe (handle : Handle) : String :=
  "DeviceHandle \x7b capabilities: [" ++
    ", ".intercalate (handle.listing.map Capability.title) ++ "] \x7d"

end Handle

/-- One call of one contract. -/
inductive Command
  | getPower
  | setPower (on : Bool)
  | getInputs (kind : SignalKind)
  | setInput (kind : SignalKind) (output input : String)
  | getBlank
  | setBlank (on : Bool)
  | getVolumes (blocks : List String)
  | setVolume (block : String) (level : Int32)
  | getMutes (blocks : List String)
  | setMute (block : String) (muted : Bool)
  | healthy
  | info
deriving DecidableEq, Repr

namespace Command

/-- What a successful call yields. -/
def Result : Command → Type
  | getPower | getBlank => Bool
  | getInputs _ => SortedMap String String
  | getVolumes _ => SortedMap String Int32
  | getMutes _ => SortedMap String Bool
  | healthy => DeviceHealth
  | info => Json
  | setPower _ | setInput _ _ _ | setBlank _ | setVolume _ _ | setMute _ _ => Unit

/-- The contract that a command belongs to. -/
def capability : Command → Capability
  | getPower | setPower _ => .power
  | getInputs kind | setInput kind _ _ => .input kind
  | getBlank | setBlank _ => .blank
  | getVolumes _ | setVolume _ _ => .volume
  | getMutes _ | setMute _ _ => .mute
  | healthy => .health
  | info => .info

/-- The field that a command reads or writes. -/
def field : Command → Field
  | getPower | setPower _ => .poweredOn
  | getInputs kind => .inputs kind
  | setInput kind output _ => .input output kind
  | getBlank | setBlank _ => .blanked
  | getVolumes _ => .volumes
  | setVolume block _ => .volume block
  | getMutes _ => .mutes
  | setMute block _ => .mute block
  | healthy => .healthy
  | info => .info

/-- The value that a command would write. -/
def requested : Command → Option Json
  | setPower on | setBlank on => some (.bool on)
  | setInput _ _ input => some (.string input)
  | setVolume _ level => some (Json.ofInt level.toInt)
  | setMute _ muted => some (.bool muted)
  | _ => none

/-- The report of a command that failed on a device. -/
def report (command : Command) (device : DeviceId) (error : FieldError) : FieldReport :=
  { device, field := command.field.path, value := command.requested, error := error.message }

/-- The name of a command and its arguments, as they are written into a log. -/
def words : Command → List String
  | getPower => ["get_power"]
  | setPower on => ["set_power", toString on]
  | getInputs .audioVideo => ["get_audio_video_inputs"]
  | getInputs .audio => ["get_audio_inputs"]
  | getInputs .video => ["get_video_inputs"]
  | setInput .audioVideo output input => ["set_audio_video_input", output, input]
  | setInput .audio output input => ["set_audio_input", output, input]
  | setInput .video output input => ["set_video_input", output, input]
  | getBlank => ["get_blank"]
  | setBlank on => ["set_blank", toString on]
  | getVolumes blocks => ["get_volumes", ",".intercalate blocks]
  | setVolume block level => ["set_volume", block, toString level.toInt]
  | getMutes blocks => ["get_mutes", ",".intercalate blocks]
  | setMute block muted => ["set_mute", block, toString muted]
  | healthy => ["healthy"]
  | info => ["info"]

end Command

/-- A command that succeeded, with its result. -/
structure Finding where
  command : Command
  result : command.Result

end AvControl

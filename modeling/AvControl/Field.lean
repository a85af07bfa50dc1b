/-!
# Fields of a device state

A report about one device says which of its fields it is about. A field is written as a dotted
path that follows the shape of the state document; the empty path stands for the device as a
whole. Names of blocks and outputs appear in a path exactly as they are.
-/

namespace AvControl

/-- Which signal a route carries. -/
inductive SignalKind
  | audioVideo
  | audio
  | video
deriving DecidableEq, Repr

namespace SignalKind

/-- The three kinds in the order in which they are handled. -/
def all : List SignalKind := [audioVideo, audio, video]

/-- The name of a kind in documents and paths. -/
def name : SignalKind → String
  | audioVideo => "audioVideo"
  | audio => "audio"
  | video => "video"

/-- The kind of the given name. -/
def ofName? (name : String) : Option SignalKind :=
  all.find? fun kind => kind.name = name

end SignalKind

/-- What a report entry can be about. -/
inductive Field
  /-- The device as a whole. -/
  | device
  | poweredOn
  | blanked
  | healthy
  | info
  /-- The levels of all blocks, where reading them failed. -/
  | volumes
  /-- The mute flags of all blocks, where reading them failed. -/
  | mutes
  /-- The routes of one kind, where reading them failed. -/
  | inputs (kind : SignalKind)
  | volume (block : String)
  | mute (block : String)
  /-- What one kind of signal at one output is routed from. -/
  | input (output : String) (kind : SignalKind)
deriving DecidableEq, Repr

namespace Field

/-- The dotted path of a field. -/
def path : Field → String
  | device => ""
  | poweredOn => "poweredOn"
  | blanked => "blanked"
  | healthy => "healthy"
  | info => "info"
  | volumes => "volumes"
  | mutes => "mutes"
  | inputs kind => "input." ++ kind.name
  | volume block => "volumes." ++ block
  | mute block => "mutes." ++ block
  | input output kind => "input." ++ output ++ "." ++ kind.name

end Field

end AvControl

import AvControl.Engine.Outcome
import AvControl.Room

/-!
# Plans

A plan says which commands a request means for one device, given the contracts that the device
offers, and in which order they have to be sent. Reading asks every contract at once. Applying a
desired state switches the power first and alone, since a device that is off usually rejects other
commands; after that the routes of one kind are sent one after another, and everything else side by
side. A block that the device does not declare is refused, and so is a field whose contract it does
not offer, without asking the device.
-/

namespace AvControl

/-- The work that a request means for one device. -/
inductive Work
  | read
  | apply (desired : DeviceState)
  | probeHealth
  | probeInfo
deriving DecidableEq, Repr

/-- The commands for one device and what is refused beforehand. -/
structure Plan where
  refused : List FieldReport := []
  /-- The commands that have to be over before all others begin. -/
  lead : List Command := []
  /-- Rows of commands side by side, each row in its order. -/
  lanes : List (List Command) := []

namespace Plan

/-- The commands that read every field of a state. -/
def readings (config : DeviceConfig) : List Command :=
  [.getPower] ++ SignalKind.all.map .getInputs ++
    [.getBlank, .getVolumes (config.blocks Port.volumeKind),
      .getMutes (config.blocks Port.muteKind)]

/-- The commands that change the power. -/
def powerChanges (desired : DeviceState) : List Command :=
  desired.poweredOn.toList.map .setPower

/-- The commands that feed outputs, one row for each kind of signal. -/
def routings (desired : DeviceState) : List (List Command) :=
  SignalKind.all.map fun kind =>
    (desired.routes kind).map fun route => .setInput kind route.1 route.2

/-- The commands that blank the picture or show it. -/
def blankChanges (desired : DeviceState) : List Command :=
  desired.blanked.toList.map .setBlank

/-- The commands that set levels. -/
def volumeChanges (desired : DeviceState) : List Command :=
  (DeviceState.entriesOf desired.volumes).map fun entry => .setVolume entry.1 entry.2

/-- The commands that set mute flags. -/
def muteChanges (desired : DeviceState) : List Command :=
  (DeviceState.entriesOf desired.mutes).map fun entry => .setMute entry.1 entry.2

/-- Whether the block that a command writes to, if any, is one that the device declares. -/
def acceptsBlock (config : DeviceConfig) : Command → Bool
  | .setVolume block _ => config.acceptsBlock block Port.volumeKind
  | .setMute block _ => config.acceptsBlock block Port.muteKind
  | _ => true

/-- The rows of commands that change everything but the power. -/
def changes (desired : DeviceState) : List (List Command) :=
  routings desired ++
    (blankChanges desired ++ volumeChanges desired ++ muteChanges desired).map fun command =>
      [command]

/-- Why a command is not sent to a device, if it is not. -/
def refusal? (config : DeviceConfig) (handle : Handle) (command : Command) : Option FieldError :=
  if !acceptsBlock config command then some .invalidBlock
  else if !handle.supports command.capability then some .notCapable
  else none

/-- The reports of the commands that are not sent. -/
def refusals (device : DeviceId) (config : DeviceConfig) (handle : Handle)
    (commands : List Command) : List FieldReport :=
  commands.filterMap fun command =>
    (refusal? config handle command).map fun error => command.report device error

/-- The commands that are sent. -/
def accepted (config : DeviceConfig) (handle : Handle) (commands : List Command) : List Command :=
  commands.filter fun command => (refusal? config handle command).isNone

/-- The commands whose contracts a device offers, side by side. -/
def offered (handle : Handle) (commands : List Command) : Plan where
  lanes := (commands.filter fun command => handle.supports command.capability).map fun command =>
    [command]

end Plan

namespace Work

/-- The plan for the work on one device. -/
def plan (work : Work) (device : DeviceId) (config : DeviceConfig) (handle : Handle) : Plan :=
  match work with
  | read => Plan.offered handle (Plan.readings config)
  | probeHealth => Plan.offered handle [.healthy]
  | probeInfo => Plan.offered handle [.info]
  | apply desired =>
    let commands := Plan.powerChanges desired ++ (Plan.changes desired).flatten
    { refused := Plan.refusals device config handle commands
      lead := Plan.accepted config handle (Plan.powerChanges desired)
      lanes := (Plan.changes desired).map (Plan.accepted config handle) }

/-- A bound on the number of commands that the work can take. -/
def size : Work → Nat
  | read => 7
  | probeHealth | probeInfo => 1
  | apply desired => (Plan.powerChanges desired ++ (Plan.changes desired).flatten).length

end Work

end AvControl

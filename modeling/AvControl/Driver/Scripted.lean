import AvControl.Driver.Basic

/-!
# Scripted drivers

A scripted driver does what a script says: how long every call takes, which calls fail, break down
or never end, and what its devices hold at first. It pays no attention to request contexts, except
that a rule may cancel the one it is called with. Rules for opening a device are found by its
address and may be limited to the first few attempts there; rules for a call are found by the name
of the command together with its first argument, or else by the name alone.
-/

namespace AvControl

namespace Script

/-- What happens to one call before it is obeyed. -/
structure Rule where
  cancels : Bool := false
  hangs : Bool := false
  delay : Nat := 0
  crashes : Bool := false
  fails : Option String := none
  /-- How many attempts the rule is for; without it, for all. -/
  times : Option Nat := none
deriving DecidableEq, Repr, Inhabited

namespace Rule

/-- How a driver under the rule goes about a call. -/
def reaction (rule : Rule) : Reaction :=
  { wait := if rule.hangs then .forever else .ms rule.delay, cancels := rule.cancels }

/-- What the rule makes of a call in place of obeying it, if it does. -/
def refusal? {α : Type} (rule : Rule) : Option (Reply α) :=
  if rule.crashes then some .crash
  else rule.fails.map fun message => .error { message := message }

end Rule

/-- What a scripted device holds. -/
structure Memory where
  power : Bool := false
  blanked : Bool := false
  audioVideo : SortedMap String String := SortedMap.empty
  audio : SortedMap String String := SortedMap.empty
  video : SortedMap String String := SortedMap.empty
  volumes : SortedMap String Int32 := SortedMap.empty
  mutes : SortedMap String Bool := SortedMap.empty
deriving DecidableEq, Repr, Inhabited

namespace Memory

/-- The routes of one kind. -/
def routes (memory : Memory) : SignalKind → SortedMap String String
  | .audioVideo => memory.audioVideo
  | .audio => memory.audio
  | .video => memory.video

/-- The memory with one more route. -/
def route (memory : Memory) (output input : String) : SignalKind → Memory
  | .audioVideo => { memory with audioVideo := memory.audioVideo.insert output input }
  | .audio => { memory with audio := memory.audio.insert output input }
  | .video => { memory with video := memory.video.insert output input }

end Memory

/-- What a script says about the device at one address. -/
structure Device where
  capabilities : List Capability := Capability.all
  initial : Memory := {}
  rules : SortedMap String Rule := SortedMap.empty
  health : DeviceHealth := { healthy := true }
  info : Json := .object [("model", .string "script")]
deriving Inhabited

namespace Device

/-- The rule for a command. -/
def ruleFor (device : Device) (command : Command) : Rule :=
  match command.words with
  | [] => {}
  | name :: arguments =>
    let particular := name ++ ":" ++ arguments.headD ""
    ((device.rules.get? particular).orElse fun _ => device.rules.get? name).getD {}

/-- Obey a command. Readings tell everything there is, whatever blocks they ask for. -/
def obey (device : Device) (memory : Memory) : (command : Command) → Memory × command.Result
  | .getPower => (memory, memory.power)
  | .setPower on => ({ memory with power := on }, ())
  | .getInputs kind => (memory, memory.routes kind)
  | .setInput kind output input => (memory.route output input kind, ())
  | .getBlank => (memory, memory.blanked)
  | .setBlank on => ({ memory with blanked := on }, ())
  | .getVolumes _ => (memory, memory.volumes)
  | .setVolume block level => ({ memory with volumes := memory.volumes.insert block level }, ())
  | .getMutes _ => (memory, memory.mutes)
  | .setMute block muted => ({ memory with mutes := memory.mutes.insert block muted }, ())
  | .healthy => (memory, device.health)
  | .info => (memory, device.info)

end Device

end Script

/-- A script for a driver. -/
structure Script where
  /-- The rule for opening the device at each address. -/
  openRules : SortedMap String Script.Rule := SortedMap.empty
  devices : SortedMap String Script.Device := SortedMap.empty
  /-- Whether anything but an object is refused as a configuration. -/
  strict : Bool := false
deriving Inhabited

namespace Script

/-- The device at an address; one that the script is silent about has no peculiarities. -/
def device (script : Script) (address : String) : Device := (script.devices.get? address).getD {}

end Script

/-- A driver that follows a script. -/
structure ScriptedDriver where
  script : Script
  /-- How often the device at each address has been opened or tried to. -/
  attempts : SortedMap String Nat := SortedMap.empty
  memories : SortedMap String Script.Memory := SortedMap.empty
deriving Inhabited

namespace ScriptedDriver

open Script

/-- How often the device at an address has been opened or tried to. -/
def attemptsAt (driver : ScriptedDriver) (address : String) : Nat :=
  (driver.attempts.get? address).getD 0

/-- The rule for the latest attempt to open the device at an address. -/
def openRule (driver : ScriptedDriver) (address : String) : Rule :=
  match driver.script.openRules.get? address with
  | none => {}
  | some rule =>
    match rule.times with
    | none => rule
    | some times => if driver.attemptsAt address ≤ times then rule else {}

/-- Count one more attempt to open the device at an address. -/
def countAttempt (driver : ScriptedDriver) (address : String) : ScriptedDriver :=
  { driver with attempts := driver.attempts.insert address (driver.attemptsAt address + 1) }

/-- The driver with what the device at an address holds. -/
def setMemory (driver : ScriptedDriver) (address : String) (memory : Memory) : ScriptedDriver :=
  { driver with memories := driver.memories.insert address memory }

instance : Driver ScriptedDriver where
  configure driver configuration :=
    match driver.script.strict, configuration with
    | false, _ | true, .object _ => .ok driver
    | true, _ => .error { message := "config must be a table" }
  beginOpen driver address :=
    let driver := driver.countAttempt address
    (driver, (driver.openRule address).reaction)
  finishOpen driver address :=
    match (driver.openRule address).refusal? with
    | some refusal => (driver, refusal)
    | none =>
      let device := driver.script.device address
      (driver.setMemory address device.initial, .ok ⟨device.capabilities⟩)
  beginCall driver address command :=
    (driver, ((driver.script.device address).ruleFor command).reaction)
  finishCall driver address command :=
    let device := driver.script.device address
    match (device.ruleFor command).refusal? with
    | some refusal => (driver, refusal)
    | none =>
      let memory := (driver.memories.get? address).getD device.initial
      let (memory, result) := device.obey memory command
      (driver.setMemory address memory, .ok result)

end ScriptedDriver

end AvControl

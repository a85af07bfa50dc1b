import AvControl.Capability

/-!
# Outcomes

What the work on one device has brought so far: the commands that succeeded with their results, and
the reports of those that did not. Laid over each other, the findings make up a state, a health
report or an info, whichever the request was for.
-/

namespace AvControl

/-- What the work on one device has brought. -/
structure Outcome where
  findings : List Finding := []
  reports : List FieldReport := []

namespace Outcome

/-- Add a command that succeeded. -/
def find (outcome : Outcome) (command : Command) (result : command.Result) : Outcome :=
  { outcome with findings := outcome.findings ++ [⟨command, result⟩] }

/-- Add a report. -/
def report (outcome : Outcome) (report : FieldReport) : Outcome :=
  { outcome with reports := outcome.reports ++ [report] }

/-- The outcome of a device about which there is nothing to say but one thing about the whole. -/
def ofDevice (device : DeviceId) (error : String) : Outcome :=
  { reports := [{ device, field := Field.device.path, error }] }

end Outcome

namespace DeviceState

/-- The state with what a command has read or achieved. -/
def learn (state : DeviceState) : Finding → DeviceState
  | ⟨.getPower, on⟩ | ⟨.setPower on, _⟩ => { state with poweredOn := some on }
  | ⟨.getInputs kind, routes⟩ =>
    routes.entries.foldl (fun state route => state.setInput route.1 kind route.2) state
  | ⟨.setInput kind output input, _⟩ => state.setInput output kind input
  | ⟨.getBlank, on⟩ | ⟨.setBlank on, _⟩ => { state with blanked := some on }
  | ⟨.getVolumes _, levels⟩ =>
    levels.entries.foldl (fun state level => state.setVolume level.1 level.2) state
  | ⟨.setVolume block level, _⟩ => state.setVolume block level
  | ⟨.getMutes _, flags⟩ =>
    flags.entries.foldl (fun state flag => state.setMute flag.1 flag.2) state
  | ⟨.setMute block muted, _⟩ => state.setMute block muted
  | ⟨.healthy, _⟩ | ⟨.info, _⟩ => state

/-- The state that some findings make up, unless it is empty. -/
def ofFindings? (findings : List Finding) : Option DeviceState :=
  let state := findings.foldl learn {}
  if state.isEmpty then none else some state

end DeviceState

namespace DeviceHealth

/-- The health report among some findings. -/
def ofFindings? (findings : List Finding) : Option DeviceHealth :=
  findings.findSome? fun
    | ⟨.healthy, health⟩ => some health
    | _ => none

end DeviceHealth

/-- What a device tells about itself. -/
abbrev DeviceInfo := Json

namespace DeviceInfo

/-- The info among some findings. -/
def ofFindings? (findings : List Finding) : Option DeviceInfo :=
  findings.findSome? fun
    | ⟨.info, info⟩ => some info
    | _ => none

end DeviceInfo

end AvControl

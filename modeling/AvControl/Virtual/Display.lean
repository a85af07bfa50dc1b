import AvControl.Virtual.Level

/-!
# Virtual display

A display has one output, which has no name, four inputs and built-in speakers. Like most panels it
obeys nothing but power commands while it is off; reading works all the same. A command is checked
against the names and ranges first and against the power last.
-/

namespace AvControl.Virtual

/-- The state of a display. -/
structure Display where
  poweredOn : Bool := false
  input : String := "hdmi1"
  blanked : Bool := false
  level : Int32 := 30
  muted : Bool := false
deriving DecidableEq, Repr, Inhabited

namespace Display

/-- The inputs of a display. -/
def inputs : List String := ["hdmi1", "hdmi2", "hdmi3", "hdmi4"]

/-- The contracts of a display. -/
def capabilities : List Capability :=
  [.power, .audioVideoInput, .blank, .volume, .mute, .health, .info]

/-- A display that was changed, provided that it is on. -/
def whenOn (display changed : Display) : Except DriverError (Display × Unit) :=
  if display.poweredOn then .ok (changed, ()) else .error { message := "display is powered off" }

/-- Let only the block or output without a name pass. -/
def checkUnnamed (what name : String) : Except DriverError Unit :=
  if name = "" then .ok () else .error (unknown what name)

/-- Obey one command. -/
def perform (display : Display) (address : String) :
    (command : Command) → Except DriverError (Display × command.Result)
  | .getPower => .ok (display, display.poweredOn)
  | .setPower on => .ok ({ display with poweredOn := on }, ())
  | .getInputs .audioVideo => .ok (display, SortedMap.empty.insert "" display.input)
  | .setInput .audioVideo output input => do
    checkUnnamed "output" output
    if input ∈ inputs then display.whenOn { display with input }
    else .error (unknown "input" input)
  | .getBlank => .ok (display, display.blanked)
  | .setBlank on => display.whenOn { display with blanked := on }
  | .getVolumes _ => .ok (display, SortedMap.empty.insert "" display.level)
  | .setVolume block level => do
    checkUnnamed "block" block
    checkLevel level
    display.whenOn { display with level }
  | .getMutes _ => .ok (display, SortedMap.empty.insert "" display.muted)
  | .setMute block muted => do
    checkUnnamed "block" block
    display.whenOn { display with muted }
  | .healthy => .ok (display, { healthy := true })
  | .info => .ok (display, Json.ofMembers [
      ("model", .string "VD-1"), ("address", .string address), ("inputs", Json.ofTexts inputs)])
  | .getInputs _ | .setInput _ _ _ => .error notOffered

end Display

end AvControl.Virtual

import AvControl.Virtual.Level

/-!
# Virtual switcher

A switcher has four inputs and four outputs, and one matrix for sound and one for pictures, which
know nothing of each other. At first every output is fed from the input of the same number.
-/

namespace AvControl.Virtual

/-- The numbers of the inputs and outputs of a switcher. -/
def switcherPorts : List String := ["1", "2", "3", "4"]

/-- Which input feeds each output. -/
abbrev Matrix := SortedMap String String

namespace Matrix

/-- The matrix that feeds every output from the input of the same number. -/
def straight : Matrix := SortedMap.ofList (switcherPorts.map fun port => (port, port))

/-- Feed an output from an input. -/
def route (matrix : Matrix) (output input : String) : Except DriverError Matrix :=
  if input ∉ switcherPorts then .error (unknown "input" input)
  else if matrix.contains output then .ok (matrix.insert output input)
  else .error (unknown "output" output)

end Matrix

/-- The state of a switcher. -/
structure Switcher where
  audio : Matrix := Matrix.straight
  video : Matrix := Matrix.straight
deriving DecidableEq, Repr, Inhabited

namespace Switcher

/-- The contracts of a switcher. -/
def capabilities : List Capability := [.audioInput, .videoInput, .health, .info]

/-- Obey one command. -/
def perform (switcher : Switcher) (address : String) :
    (command : Command) → Except DriverError (Switcher × command.Result)
  | .getInputs .audio => .ok (switcher, switcher.audio)
  | .getInputs .video => .ok (switcher, switcher.video)
  | .setInput .audio output input => do
    let audio ← switcher.audio.route output input
    pure ({ switcher with audio }, ())
  | .setInput .video output input => do
    let video ← switcher.video.route output input
    pure ({ switcher with video }, ())
  | .healthy => .ok (switcher, { healthy := true })
  | .info => .ok (switcher, Json.ofMembers [
      ("model", .string "VS-44"), ("address", .string address),
      ("inputs", Json.ofTexts switcherPorts), ("outputs", Json.ofTexts switcherPorts)])
  | _ => .error notOffered

end Switcher

end AvControl.Virtual

import AvControl.Virtual.Level

/-!
# Virtual sound processor

A sound processor has any number of gain blocks, known by name. A block comes into being when it is
first read or written, with the same level every time and not muted. Whoever asks for no block in
particular asks for the block without a name.
-/

namespace AvControl.Virtual

/-- The state of one gain block. -/
structure GainBlock where
  level : Int32 := 50
  muted : Bool := false
deriving DecidableEq, Repr, Inhabited

/-- The state of a sound processor. -/
structure Dsp where
  blocks : SortedMap String GainBlock := SortedMap.empty
deriving DecidableEq, Repr, Inhabited

namespace Dsp

/-- The contracts of a sound processor. -/
def capabilities : List Capability := [.volume, .mute, .health, .info]

/-- A block as it is now, or as it would come into being. -/
def block (dsp : Dsp) (name : String) : GainBlock := (dsp.blocks.get? name).getD {}

/-- The processor with the state of one block. -/
def setBlock (dsp : Dsp) (name : String) (block : GainBlock) : Dsp :=
  ⟨dsp.blocks.insert name block⟩

/-- The blocks that a reading is about. -/
def namesToRead (names : List String) : List String := if names.isEmpty then [""] else names

/-- Let the named blocks come into being. -/
def touch (dsp : Dsp) (names : List String) : Dsp :=
  names.foldl (fun dsp name => dsp.setBlock name (dsp.block name)) dsp

/-- Read something off each named block. -/
def read {α : Type} (dsp : Dsp) (names : List String) (pick : GainBlock → α) :
    SortedMap String α :=
  SortedMap.ofList (names.map fun name => (name, pick (dsp.block name)))

/-- Obey one command. -/
def perform (dsp : Dsp) (address : String) :
    (command : Command) → Except DriverError (Dsp × command.Result)
  | .getVolumes names =>
    .ok (dsp.touch (namesToRead names), dsp.read (namesToRead names) GainBlock.level)
  | .setVolume name level => do
    checkLevel level
    pure (dsp.setBlock name { dsp.block name with level }, ())
  | .getMutes names =>
    .ok (dsp.touch (namesToRead names), dsp.read (namesToRead names) GainBlock.muted)
  | .setMute name muted => .ok (dsp.setBlock name { dsp.block name with muted }, ())
  | .healthy => .ok (dsp, { healthy := true })
  | .info => .ok (dsp, Json.ofMembers [
      ("model", .string "VDSP-8"), ("address", .string address),
      ("blocks", Json.ofTexts dsp.blocks.keys)])
  | _ => .error notOffered

end Dsp

end AvControl.Virtual

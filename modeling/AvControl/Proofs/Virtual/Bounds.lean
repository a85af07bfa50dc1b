import AvControl.Proofs.Virtual.Readings

/-!
# What virtual devices can be set to

A virtual device never holds a setting that it would not offer: its levels are on the scale, its
outputs are fed from inputs that it has, and it loses no output and gains none. A write that fails
leaves the device as it is, and what is read are its settings.
-/

namespace AvControl.Virtual

/-! ### Displays -/

/-- A level on the common scale. -/
def OnScale (level : Int32) : Prop := 0 ≤ level.toInt ∧ level.toInt ≤ 100

/-- A level that has been checked is on the scale. -/
theorem onScale_of_checkLevel_bind {α : Type} {level : Int32} {goesOn : Except DriverError α}
    {done : α} (isDone : (do checkLevel level; goesOn) = .ok done) : OnScale level := by
  by_cases onScale : OnScale level
  · exact onScale
  · simp [checkLevel, show ¬(0 ≤ level.toInt ∧ level.toInt ≤ 100) from onScale, bind,
      Except.bind] at isDone

namespace Display

/-- A display shows one of its four inputs, and its level is on the scale. -/
structure InRange (display : Display) : Prop where
  input : display.input ∈ ["hdmi1", "hdmi2", "hdmi3", "hdmi4"]
  level : OnScale display.level

theorem inRange_fresh : InRange {} := ⟨by simp, by decide, by decide⟩

theorem InRange.perform {display : Display} {address : String} {command : Command}
    {done : Display × command.Result} (inRange : display.InRange)
    (isDone : display.perform address command = .ok done) : done.1.InRange := by
  cases command with
  | getPower | getBlank | getVolumes | getMutes | healthy | info =>
      obtain rfl := Except.ok.inj isDone
      exact inRange
  | getInputs kind =>
      cases kind with
      | audio | video => cases isDone
      | audioVideo =>
          obtain rfl := Except.ok.inj isDone
          exact inRange
  | setPower on =>
      obtain rfl := Except.ok.inj isDone
      exact ⟨inRange.input, inRange.level⟩
  | setBlank on =>
      rw [whenOn_eq_ok isDone]
      exact ⟨inRange.input, inRange.level⟩
  | setVolume block level =>
      have isDone := (checkUnnamed_bind isDone).2
      rw [whenOn_eq_ok (checkLevel_bind isDone)]
      exact ⟨inRange.input, onScale_of_checkLevel_bind isDone⟩
  | setMute block muted =>
      rw [whenOn_eq_ok (checkUnnamed_bind isDone).2]
      exact ⟨inRange.input, inRange.level⟩
  | setInput kind output input =>
      cases kind with
      | audio | video => cases isDone
      | audioVideo =>
          have isDone := (checkUnnamed_bind isDone).2
          by_cases known : input ∈ inputs
          · rw [whenOn_eq_ok ((if_pos known).symm.trans isDone)]
            exact ⟨known, inRange.level⟩
          · cases (if_neg known).symm.trans isDone

theorem whenOn_of_off {display changed : Display} (off : display.poweredOn = false)
    {done : Display × Unit} : display.whenOn changed ≠ .ok done := by
  simp [whenOn, off]

/-- While a display is off it obeys no write but that of its power. -/
theorem power_of_off {display : Display} {address : String} {command : Command}
    {done : Display × command.Result} (off : display.poweredOn = false)
    (sets : command.setting?.isSome = true)
    (isDone : display.perform address command = .ok done) : ∃ on, command = .setPower on := by
  cases command with
  | getPower | getInputs | getBlank | getVolumes | getMutes | healthy | info => cases sets
  | setPower on => exact ⟨on, rfl⟩
  | setBlank on => exact absurd isDone (whenOn_of_off off)
  | setVolume block level =>
      exact absurd (checkLevel_bind (checkUnnamed_bind isDone).2) (whenOn_of_off off)
  | setMute block muted => exact absurd (checkUnnamed_bind isDone).2 (whenOn_of_off off)
  | setInput kind output input =>
      cases kind with
      | audio | video => cases isDone
      | audioVideo =>
          have isDone := (checkUnnamed_bind isDone).2
          by_cases known : input ∈ inputs
          · exact absurd ((if_pos known).symm.trans isDone) (whenOn_of_off off)
          · cases (if_neg known).symm.trans isDone

end Display

/-! ### Switchers -/

namespace Matrix

/-- A matrix has the four outputs and no other, and each is fed from one of the four inputs. -/
structure InRange (matrix : Matrix) : Prop where
  outputs : ∀ output, (matrix.get? output).isSome = true ↔ output ∈ ["1", "2", "3", "4"]
  inputs : ∀ output input, matrix.get? output = some input → input ∈ ["1", "2", "3", "4"]

theorem get?_straight (output : String) : Matrix.straight.get? output =
    if output ∈ switcherPorts then some output else none := by
  simp only [straight, switcherPorts, SortedMap.ofList, List.map_cons, List.map_nil,
    List.foldl_cons, List.foldl_nil, SortedMap.get?_insert, SortedMap.get?_empty]
  split
  · simp_all
  · split
    · simp_all
    · split
      · simp_all
      · split <;> simp_all

theorem inRange_straight : Matrix.straight.InRange where
  outputs output := by
    rw [get?_straight]
    split <;> simp_all [switcherPorts]
  inputs output input isRoute := by
    rw [get?_straight] at isRoute
    split at isRoute
    · obtain rfl := Option.some.inj isRoute
      assumption
    · cases isRoute

theorem InRange.insert {matrix : Matrix} (inRange : matrix.InRange) {output input : String}
    (known : (matrix.get? output).isSome = true) (isInput : input ∈ switcherPorts) :
    InRange (matrix.insert output input) where
  outputs other := by
    rw [SortedMap.get?_insert, ← inRange.outputs]
    split
    · rename_i same
      simp [same, known]
    · rfl
  inputs other input' isRoute := by
    rw [SortedMap.get?_insert] at isRoute
    split at isRoute
    · obtain rfl := Option.some.inj isRoute
      exact isInput
    · exact inRange.inputs other input' isRoute

end Matrix

namespace Switcher

/-- What feeds an output is an input of the switcher. -/
theorem input_of_route_bind {matrix : Matrix} {output input : String} {α : Type}
    {goesOn : Matrix → Except DriverError α} {done : α}
    (isDone : (matrix.route output input >>= goesOn) = .ok done) : input ∈ switcherPorts := by
  by_contra unknownInput
  simp [Matrix.route, unknownInput, bind, Except.bind] at isDone

/-- Both matrices of a switcher are in order. -/
structure InRange (switcher : Switcher) : Prop where
  audio : switcher.audio.InRange
  video : switcher.video.InRange

theorem inRange_fresh : InRange {} := ⟨Matrix.inRange_straight, Matrix.inRange_straight⟩

theorem InRange.perform {switcher : Switcher} {address : String} {command : Command}
    {done : Switcher × command.Result} (inRange : switcher.InRange)
    (isDone : switcher.perform address command = .ok done) : done.1.InRange := by
  cases command with
  | getPower | setPower | getBlank | setBlank | getVolumes | setVolume | getMutes | setMute =>
      cases isDone
  | healthy | info =>
      obtain rfl := Except.ok.inj isDone
      exact inRange
  | getInputs kind =>
      cases kind with
      | audioVideo => cases isDone
      | audio | video =>
          obtain rfl := Except.ok.inj isDone
          exact inRange
  | setInput kind output input =>
      cases kind with
      | audioVideo => cases isDone
      | audio =>
          have isInput := input_of_route_bind isDone
          rcases route_bind isDone with ⟨known, isDone⟩
          obtain rfl := Except.ok.inj isDone
          exact ⟨inRange.audio.insert known isInput, inRange.video⟩
      | video =>
          have isInput := input_of_route_bind isDone
          rcases route_bind isDone with ⟨known, isDone⟩
          obtain rfl := Except.ok.inj isDone
          exact ⟨inRange.audio, inRange.video.insert known isInput⟩

end Switcher

/-! ### Sound processors -/

namespace Dsp

/-- The levels of all blocks that have come into being are on the scale. -/
def InRange (dsp : Dsp) : Prop :=
  ∀ name block, dsp.blocks.get? name = some block → OnScale block.level

theorem inRange_fresh : InRange {} := by
  intro name block isBlock
  cases isBlock

variable {dsp : Dsp}

theorem InRange.block (inRange : dsp.InRange) (name : String) : OnScale (dsp.block name).level := by
  unfold Dsp.block
  cases isBlock : dsp.blocks.get? name with
  | none => exact ⟨by decide, by decide⟩
  | some block => exact inRange name block isBlock

theorem InRange.setBlock (inRange : dsp.InRange) (name : String) {block : GainBlock}
    (onScale : OnScale block.level) : (dsp.setBlock name block).InRange := by
  intro other block' isBlock
  rw [Dsp.setBlock, SortedMap.get?_insert] at isBlock
  split at isBlock
  · obtain rfl := Option.some.inj isBlock
    exact onScale
  · exact inRange other block' isBlock

theorem InRange.touch (names : List String) : ∀ {dsp : Dsp}, dsp.InRange →
    (dsp.touch names).InRange := by
  induction names with
  | nil => exact fun inRange => inRange
  | cons name rest ih => exact fun inRange => ih (inRange.setBlock name (inRange.block name))

theorem InRange.perform {address : String} {command : Command} {done : Dsp × command.Result}
    (inRange : dsp.InRange) (isDone : dsp.perform address command = .ok done) :
    done.1.InRange := by
  cases command with
  | getPower | setPower | getInputs | setInput | getBlank | setBlank => cases isDone
  | healthy | info =>
      obtain rfl := Except.ok.inj isDone
      exact inRange
  | getVolumes names | getMutes names =>
      obtain rfl := Except.ok.inj isDone
      exact InRange.touch _ inRange
  | setVolume name level =>
      obtain rfl := Except.ok.inj (Display.checkLevel_bind isDone)
      exact inRange.setBlock name (onScale_of_checkLevel_bind isDone)
  | setMute name muted =>
      obtain rfl := Except.ok.inj isDone
      exact inRange.setBlock name (inRange.block name)

/-- A write does not even bring other blocks into being. -/
theorem blocks_write {address : String} {command : Command} {done : Dsp × command.Result}
    (sets : command.setting?.isSome = true) (isDone : dsp.perform address command = .ok done)
    {other : String} (notLevel : command.field ≠ .volume other)
    (notMute : command.field ≠ .mute other) :
    done.1.blocks.get? other = dsp.blocks.get? other := by
  cases command with
  | getPower | getInputs | getBlank | getVolumes | getMutes | healthy | info => cases sets
  | setPower | setBlank | setInput => cases isDone
  | setVolume name level =>
      obtain rfl := Except.ok.inj (Display.checkLevel_bind isDone)
      have differs : other ≠ name := fun same => notLevel (by rw [same]; rfl)
      simp [setBlock, SortedMap.get?_insert, differs]
  | setMute name muted =>
      obtain rfl := Except.ok.inj isDone
      have differs : other ≠ name := fun same => notMute (by rw [same]; rfl)
      simp [setBlock, SortedMap.get?_insert, differs]

end Dsp

/-! ### All devices -/

namespace Hardware

/-- All settings of a device are within their ranges. -/
def InRange : Hardware → Prop
  | display state => state.InRange
  | switcher state => state.InRange
  | dsp state => state.InRange

theorem inRange_fresh (model : Model) : model.fresh.InRange := by
  cases model with
  | display => exact Display.inRange_fresh
  | switcher => exact Switcher.inRange_fresh
  | dsp => exact Dsp.inRange_fresh

/-- Whatever a device is asked to do, its settings stay within their ranges. -/
theorem InRange.after {hardware : Hardware} (inRange : hardware.InRange) (address : String)
    (command : Command) : (hardware.after address command).InRange := by
  cases replied : hardware.reply address command with
  | error error => rwa [after_of_error replied]
  | ok result =>
      have performed := perform_of_reply replied
      generalize hardware.after address command = changed at performed
      cases hardware with
      | display state =>
          rcases exists_of_map_eq_ok performed with ⟨done, isDone, same⟩
          rw [← (Prod.mk.inj same).1]
          exact Display.InRange.perform inRange isDone
      | switcher state =>
          rcases exists_of_map_eq_ok performed with ⟨done, isDone, same⟩
          rw [← (Prod.mk.inj same).1]
          exact Switcher.InRange.perform inRange isDone
      | dsp state =>
          rcases exists_of_map_eq_ok performed with ⟨done, isDone, same⟩
          rw [← (Prod.mk.inj same).1]
          exact Dsp.InRange.perform inRange isDone

theorem mem_routes {kind : SignalKind} {routes : SortedMap String String}
    {assignment : Assignment} : assignment ∈ Finding.assignments ⟨.getInputs kind, routes⟩ ↔
      ∃ output input, routes.get? output = some input ∧ .route kind output input = assignment := by
  simp [Finding.assignments, SortedMap.mem_entries_iff]

theorem mem_levels {names : List String} {levels : SortedMap String Int32}
    {assignment : Assignment} : assignment ∈ Finding.assignments ⟨.getVolumes names, levels⟩ ↔
      ∃ block level, levels.get? block = some level ∧ .level block level = assignment := by
  simp [Finding.assignments, SortedMap.mem_entries_iff]

theorem mem_flags {names : List String} {flags : SortedMap String Bool}
    {assignment : Assignment} : assignment ∈ Finding.assignments ⟨.getMutes names, flags⟩ ↔
      ∃ block muted, flags.get? block = some muted ∧ .mute block muted = assignment := by
  simp [Finding.assignments, SortedMap.mem_entries_iff]

/-- A map with one entry, for the name that is none. -/
theorem eq_of_lone {α : Type} {value found : α} {name : String}
    (isEntry : (SortedMap.empty.insert "" value).get? name = some found) :
    name = "" ∧ found = value := by
  rw [SortedMap.get?_insert] at isEntry
  split at isEntry
  · exact ⟨‹_›, (Option.some.inj isEntry).symm⟩
  · cases isEntry

/-- A reading reports nothing but the settings of the device. -/
theorem setting?_of_read {hardware : Hardware} {address : String} {command : Command}
    {result : command.Result} (reads : command.setting? = none)
    (replied : hardware.reply address command = .ok result) {assignment : Assignment}
    (reported : assignment ∈ Finding.assignments ⟨command, result⟩) :
    hardware.setting? assignment.field = some assignment.setting := by
  cases command with
  | setPower | setInput | setBlank | setVolume | setMute => cases reads
  | healthy | info => simp [Finding.assignments] at reported
  | getPower =>
      obtain rfl := List.mem_singleton.1 reported
      cases hardware with
      | switcher | dsp => cases replied
      | display state =>
          obtain rfl := Except.ok.inj replied
          rfl
  | getBlank =>
      obtain rfl := List.mem_singleton.1 reported
      cases hardware with
      | switcher | dsp => cases replied
      | display state =>
          obtain rfl := Except.ok.inj replied
          rfl
  | getInputs kind =>
      rcases mem_routes.1 reported with ⟨output, input, isRoute, rfl⟩
      cases hardware with
      | dsp => cases replied
      | display state =>
          cases kind with
          | audio | video => cases replied
          | audioVideo =>
              obtain rfl := Except.ok.inj replied
              rcases eq_of_lone isRoute with ⟨rfl, rfl⟩
              rfl
      | switcher state =>
          cases kind with
          | audioVideo => cases replied
          | audio | video =>
              obtain rfl := Except.ok.inj replied
              simp [setting?, Switcher.setting?, Switcher.matrix?, Assignment.field,
                Assignment.setting, isRoute]
  | getVolumes names =>
      rcases mem_levels.1 reported with ⟨block, level, isLevel, rfl⟩
      cases hardware with
      | switcher => cases replied
      | display state =>
          obtain rfl := Except.ok.inj replied
          rcases eq_of_lone isLevel with ⟨rfl, rfl⟩
          rfl
      | dsp state =>
          obtain rfl := Except.ok.inj replied
          rw [Dsp.get?_read, Option.ite_none_right_eq_some] at isLevel
          obtain rfl := Option.some.inj isLevel.2
          rfl
  | getMutes names =>
      rcases mem_flags.1 reported with ⟨block, muted, isFlag, rfl⟩
      cases hardware with
      | switcher => cases replied
      | display state =>
          obtain rfl := Except.ok.inj replied
          rcases eq_of_lone isFlag with ⟨rfl, rfl⟩
          rfl
      | dsp state =>
          obtain rfl := Except.ok.inj replied
          rw [Dsp.get?_read, Option.ite_none_right_eq_some] at isFlag
          obtain rfl := Option.some.inj isFlag.2
          rfl

end Hardware

end AvControl.Virtual

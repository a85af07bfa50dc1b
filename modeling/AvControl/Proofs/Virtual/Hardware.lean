import AvControl.Proofs.Setting
import AvControl.Virtual.Driver

/-!
# Virtual devices, setting by setting

To whoever reads and writes it a virtual device is a collection of settings, just as the states are
in which it is described. A write that succeeds sets its own field and leaves all others alone, a
write that fails and a reading leave everything as it is. Whether a write succeeds depends on which
fields the device has and on whether it is on, and not on what the fields are set to.
-/

namespace AvControl.Virtual

/-- What an atomic field of a display is set to, if the display has it. -/
def Display.setting? (display : Display) : Field → Option Setting
  | .poweredOn => some (.flag display.poweredOn)
  | .blanked => some (.flag display.blanked)
  | .input output kind =>
    if kind = .audioVideo ∧ output = "" then some (.source display.input) else none
  | .volume block => if block = "" then some (.level display.level) else none
  | .mute block => if block = "" then some (.flag display.muted) else none
  | _ => none

/-- The matrix of a switcher for one kind of signal. -/
def Switcher.matrix? (switcher : Switcher) : SignalKind → Option Matrix
  | .audio => some switcher.audio
  | .video => some switcher.video
  | .audioVideo => none

/-- What an atomic field of a switcher is set to, if the switcher has it. -/
def Switcher.setting? (switcher : Switcher) : Field → Option Setting
  | .input output kind =>
    ((switcher.matrix? kind).bind fun matrix => matrix.get? output).map .source
  | _ => none

/-- What an atomic field of a sound processor is set to, be the block there yet or not. -/
def Dsp.setting? (dsp : Dsp) : Field → Option Setting
  | .volume name => some (.level (dsp.block name).level)
  | .mute name => some (.flag (dsp.block name).muted)
  | _ => none

theorem exists_of_map_eq_ok {ε α β : Type} {result : Except ε α} {f : α → β} {changed : β}
    (isOk : result.map f = .ok changed) : ∃ value, result = .ok value ∧ f value = changed := by
  cases result with
  | error => cases isOk
  | ok value => exact ⟨value, rfl, Except.ok.inj isOk⟩

namespace Hardware

def model : Hardware → Model
  | display _ => .display
  | switcher _ => .switcher
  | dsp _ => .dsp

/-- What an atomic field of a device is set to, if the device has it. -/
def setting? : Hardware → Field → Option Setting
  | display state => state.setting?
  | switcher state => state.setting?
  | dsp state => state.setting?

/-- What a device replies to a command. -/
def reply (hardware : Hardware) (address : String) (command : Command) :
    Except DriverError command.Result :=
  (hardware.perform address command).map Prod.snd

/-- The device after a command; one that fails does nothing. -/
def after (hardware : Hardware) (address : String) (command : Command) : Hardware :=
  match hardware.perform address command with
  | .ok done => done.1
  | .error _ => hardware

variable {hardware other : Hardware} {address : String} {command : Command} {setting : Setting}

theorem after_of_error {error : DriverError}
    (failed : hardware.reply address command = .error error) :
    hardware.after address command = hardware := by
  unfold reply at failed
  unfold after
  cases performed : hardware.perform address command with
  | error => rfl
  | ok => simp [performed, Except.map] at failed

@[simp]
theorem model_after (hardware : Hardware) (address : String) (command : Command) :
    (hardware.after address command).model = hardware.model := by
  unfold after
  cases hardware with
  | display state =>
      simp only [perform]
      cases state.perform address command <;> rfl
  | switcher state =>
      simp only [perform]
      cases state.perform address command <;> rfl
  | dsp state =>
      simp only [perform]
      cases state.perform address command <;> rfl

end Hardware

/-! ### Blocks of a sound processor -/

namespace Dsp

theorem block_setBlock (dsp : Dsp) (name other : String) (block : GainBlock) :
    (dsp.setBlock name block).block other = if other = name then block else dsp.block other := by
  simp only [Dsp.block, setBlock, SortedMap.get?_insert]
  split <;> rfl

/-- A block that comes into being when it is read is as it would have been read before. -/
@[simp]
theorem block_touch (names : List String) (other : String) : ∀ dsp : Dsp,
    (dsp.touch names).block other = dsp.block other := by
  induction names with
  | nil => exact fun _ => rfl
  | cons name rest ih =>
      intro dsp
      change ((dsp.setBlock name (dsp.block name)).touch rest).block other = _
      rw [ih, block_setBlock]
      split
      · rename_i same
        rw [same]
      · rfl

theorem setting?_touch (dsp : Dsp) (names : List String) (field : Field) :
    (dsp.touch names).setting? field = dsp.setting? field := by
  cases field <;> simp [setting?]

end Dsp

/-! ### Writes -/

namespace Display

theorem whenOn_eq_ok {display changed : Display} {done : Display × Unit}
    (isDone : display.whenOn changed = .ok done) : done.1 = changed := by
  simp only [whenOn] at isDone
  split at isDone
  · rw [← Except.ok.inj isDone]
  · cases isDone

theorem checkUnnamed_bind {what name : String} {goesOn : Except DriverError (Display × Unit)}
    {done : Display × Unit} (isDone : (do checkUnnamed what name; goesOn) = .ok done) :
    name = "" ∧ goesOn = .ok done := by
  by_cases unnamed : name = ""
  · exact ⟨unnamed, by simpa [checkUnnamed, unnamed, bind, Except.bind] using isDone⟩
  · simp [checkUnnamed, unnamed, bind, Except.bind] at isDone

theorem checkLevel_bind {α : Type} {level : Int32} {goesOn : Except DriverError α} {done : α}
    (isDone : (do checkLevel level; goesOn) = .ok done) : goesOn = .ok done := by
  cases checked : checkLevel level with
  | error error => simp [checked, bind, Except.bind] at isDone
  | ok => simpa [checked, bind, Except.bind] using isDone

/-- A write that a display obeys sets a field that the display has, and no other. -/
theorem setting?_write {display : Display} {address : String} {command : Command}
    {setting : Setting} {done : Display × command.Result} (sets : command.setting? = some setting)
    (isDone : display.perform address command = .ok done) :
    (display.setting? command.field).isSome = true ∧ ∀ field, done.1.setting? field =
      if field = command.field then some setting else display.setting? field := by
  cases command with
  | getPower | getInputs | getBlank | getVolumes | getMutes | healthy | info => cases sets
  | setPower on =>
      cases sets
      obtain rfl := Except.ok.inj isDone
      refine ⟨rfl, fun field => ?_⟩
      cases field <;> simp [setting?, Command.field]
  | setBlank on =>
      cases sets
      have changed := whenOn_eq_ok isDone
      refine ⟨rfl, fun field => ?_⟩
      cases field <;> simp [changed, setting?, Command.field]
  | setVolume block level =>
      cases sets
      rcases checkUnnamed_bind isDone with ⟨rfl, isDone⟩
      have changed := whenOn_eq_ok (checkLevel_bind isDone)
      refine ⟨rfl, fun field => ?_⟩
      cases field <;> grind [setting?, Command.field]
  | setMute block muted =>
      cases sets
      rcases checkUnnamed_bind isDone with ⟨rfl, isDone⟩
      have changed := whenOn_eq_ok isDone
      refine ⟨rfl, fun field => ?_⟩
      cases field <;> grind [setting?, Command.field]
  | setInput kind output input =>
      cases sets
      cases kind with
      | audio | video => cases isDone
      | audioVideo =>
          rcases checkUnnamed_bind isDone with ⟨rfl, isDone⟩
          by_cases known : input ∈ inputs
          · have changed := whenOn_eq_ok ((if_pos known).symm.trans isDone)
            refine ⟨rfl, fun field => ?_⟩
            cases field <;> grind [setting?, Command.field]
          · cases (if_neg known).symm.trans isDone

/-- Whether a display obeys a write depends on nothing but whether it is on. -/
theorem reply_write {display other : Display} {command : Command}
    (sets : command.setting?.isSome = true) (samePower : display.poweredOn = other.poweredOn)
    (address : String) : (display.perform address command).map Prod.snd =
      (other.perform address command).map Prod.snd := by
  have whenOn : ∀ changed changed' : Display, (display.whenOn changed).map Prod.snd =
      (other.whenOn changed').map Prod.snd := by
    intro changed changed'
    simp only [Display.whenOn, samePower]
    split <;> rfl
  cases command with
  | getPower | getInputs | getBlank | getVolumes | getMutes | healthy | info => cases sets
  | setPower on => rfl
  | setBlank on => exact whenOn _ _
  | setVolume block level =>
      simp only [perform]
      cases checkUnnamed "block" block with
      | error error => rfl
      | ok => cases checkLevel level with
        | error error => rfl
        | ok => exact whenOn _ _
  | setMute block muted =>
      simp only [perform]
      cases checkUnnamed "block" block with
      | error error => rfl
      | ok => exact whenOn _ _
  | setInput kind output input =>
      cases kind with
      | audio | video => rfl
      | audioVideo =>
          simp only [perform]
          cases checkUnnamed "output" output with
          | error error => rfl
          | ok =>
              by_cases known : input ∈ inputs
              · simp only [known]
                exact whenOn _ _
              · simp only [known]
                rfl

end Display

namespace Switcher

theorem route_bind {matrix : Matrix} {output input : String} {α : Type}
    {goesOn : Matrix → Except DriverError α} {done : α}
    (isDone : (matrix.route output input >>= goesOn) = .ok done) :
    (matrix.get? output).isSome = true ∧ goesOn (matrix.insert output input) = .ok done := by
  simp only [Matrix.route] at isDone
  split at isDone
  · cases isDone
  · split at isDone
    · exact ⟨‹_›, isDone⟩
    · cases isDone

theorem setting?_write {switcher : Switcher} {address : String} {command : Command}
    {setting : Setting} {done : Switcher × command.Result}
    (sets : command.setting? = some setting)
    (isDone : switcher.perform address command = .ok done) :
    (switcher.setting? command.field).isSome = true ∧ ∀ field, done.1.setting? field =
      if field = command.field then some setting else switcher.setting? field := by
  cases command with
  | getPower | getInputs | getBlank | getVolumes | getMutes | healthy | info => cases sets
  | setPower | setBlank | setVolume | setMute => cases isDone
  | setInput kind output input =>
      cases sets
      cases kind with
      | audioVideo => cases isDone
      | audio | video =>
          rcases route_bind isDone with ⟨known, isDone⟩
          obtain rfl := Except.ok.inj isDone
          refine ⟨by simpa [setting?, matrix?, Command.field] using known, fun field => ?_⟩
          cases field with
          | input other kind =>
              by_cases same : other = output <;> cases kind <;>
                simp [setting?, matrix?, Command.field, same]
          | _ => simp [setting?, Command.field]

theorem route_congr {matrix other : Matrix} {output : String}
    (same : (matrix.get? output).isSome = (other.get? output).isSome) (input : String) :
    (matrix.route output input).map (fun _ => ()) =
      (other.route output input).map fun _ => () := by
  simp only [Matrix.route, SortedMap.contains, same]
  split
  · rfl
  · by_cases known : (other.get? output).isSome = true <;> simp [known, Except.map]

/-- Whether a switcher obeys a write depends on nothing but which outputs it has. -/
theorem reply_write {switcher other : Switcher} {command : Command}
    (sets : command.setting?.isSome = true)
    (sameFields : ∀ field, (switcher.setting? field).isSome = (other.setting? field).isSome)
    (address : String) : (switcher.perform address command).map Prod.snd =
      (other.perform address command).map Prod.snd := by
  cases command with
  | getPower | getInputs | getBlank | getVolumes | getMutes | healthy | info => cases sets
  | setPower | setBlank | setVolume | setMute => rfl
  | setInput kind output input =>
      have sameOutput := sameFields (.input output kind)
      cases kind with
      | audioVideo => rfl
      | audio | video =>
          simp only [setting?, matrix?, Option.bind_some, Option.isSome_map] at sameOutput
          have routed := route_congr sameOutput input
          simp only [perform]
          revert routed
          cases Matrix.route _ output input <;> cases Matrix.route _ output input <;>
            simp [Except.map, bind, Except.bind, pure, Except.pure]

end Switcher

namespace Dsp

theorem setting?_write {dsp : Dsp} {address : String} {command : Command} {setting : Setting}
    {done : Dsp × command.Result} (sets : command.setting? = some setting)
    (isDone : dsp.perform address command = .ok done) :
    (dsp.setting? command.field).isSome = true ∧ ∀ field, done.1.setting? field =
      if field = command.field then some setting else dsp.setting? field := by
  cases command with
  | getPower | getInputs | getBlank | getVolumes | getMutes | healthy | info => cases sets
  | setPower | setBlank | setInput => cases isDone
  | setVolume name level =>
      cases sets
      obtain rfl := Except.ok.inj (Display.checkLevel_bind isDone)
      refine ⟨rfl, fun field => ?_⟩
      cases field <;> grind [setting?, Command.field, block_setBlock]
  | setMute name muted =>
      cases sets
      obtain rfl := Except.ok.inj isDone
      refine ⟨rfl, fun field => ?_⟩
      cases field <;> grind [setting?, Command.field, block_setBlock]

theorem reply_write {command : Command} (sets : command.setting?.isSome = true) (dsp other : Dsp)
    (address : String) : (dsp.perform address command).map Prod.snd =
      (other.perform address command).map Prod.snd := by
  cases command with
  | getPower | getInputs | getBlank | getVolumes | getMutes | healthy | info => cases sets
  | setPower | setBlank | setInput | setMute => rfl
  | setVolume name level =>
      simp only [perform]
      cases checkLevel level <;> rfl

end Dsp

namespace Hardware

variable {hardware other : Hardware} {address : String} {command : Command} {setting : Setting}

theorem perform_of_reply {result : command.Result}
    (done : hardware.reply address command = .ok result) :
    hardware.perform address command = .ok (hardware.after address command, result) := by
  unfold reply at done
  unfold after
  cases performed : hardware.perform address command with
  | error => simp [performed, Except.map] at done
  | ok both =>
      rw [performed] at done
      rw [← Except.ok.inj done]

theorem setting?_write {result : command.Result} (sets : command.setting? = some setting)
    (done : hardware.reply address command = .ok result) :
    (hardware.setting? command.field).isSome = true ∧ ∀ field,
      (hardware.after address command).setting? field =
        if field = command.field then some setting else hardware.setting? field := by
  have performed := perform_of_reply done
  generalize hardware.after address command = changed at performed
  cases hardware with
  | display state =>
      rcases exists_of_map_eq_ok performed with ⟨done, isDone, same⟩
      rw [← (Prod.mk.inj same).1]
      exact Display.setting?_write sets isDone
  | switcher state =>
      rcases exists_of_map_eq_ok performed with ⟨done, isDone, same⟩
      rw [← (Prod.mk.inj same).1]
      exact Switcher.setting?_write sets isDone
  | dsp state =>
      rcases exists_of_map_eq_ok performed with ⟨done, isDone, same⟩
      rw [← (Prod.mk.inj same).1]
      exact Dsp.setting?_write sets isDone

theorem reply_display (state : Display) (address : String) (command : Command) :
    (display state).reply address command = (state.perform address command).map Prod.snd := by
  simp only [reply, perform]
  cases state.perform address command <;> rfl

theorem reply_switcher (state : Switcher) (address : String) (command : Command) :
    (switcher state).reply address command = (state.perform address command).map Prod.snd := by
  simp only [reply, perform]
  cases state.perform address command <;> rfl

theorem reply_dsp (state : Dsp) (address : String) (command : Command) :
    (dsp state).reply address command = (state.perform address command).map Prod.snd := by
  simp only [reply, perform]
  cases state.perform address command <;> rfl

/-- Two devices that obey the same writes, whatever they are set to. -/
structure ObeysAs (hardware other : Hardware) : Prop where
  model : hardware.model = other.model
  fields : ∀ field, (hardware.setting? field).isSome = (other.setting? field).isSome
  power : hardware.setting? .poweredOn = other.setting? .poweredOn

namespace ObeysAs

theorem refl (hardware : Hardware) : hardware.ObeysAs hardware := ⟨rfl, fun _ => rfl, rfl⟩

theorem trans {third : Hardware} (first : hardware.ObeysAs other) (second : other.ObeysAs third) :
    hardware.ObeysAs third :=
  ⟨first.model.trans second.model, fun field => (first.fields field).trans (second.fields field),
    first.power.trans second.power⟩

theorem reply (obeys : hardware.ObeysAs other) (sets : command.setting?.isSome = true)
    (address : String) : hardware.reply address command = other.reply address command := by
  rcases obeys with ⟨model, fields, power⟩
  cases hardware with
  | display state =>
      cases other with
      | switcher | dsp => cases model
      | display state' =>
          have samePower := Setting.flag.inj (Option.some.inj power)
          rw [reply_display, reply_display, Display.reply_write sets samePower]
  | switcher state =>
      cases other with
      | display | dsp => cases model
      | switcher state' => rw [reply_switcher, reply_switcher, Switcher.reply_write sets fields]
  | dsp state =>
      cases other with
      | display | switcher => cases model
      | dsp state' => rw [reply_dsp, reply_dsp, Dsp.reply_write sets state state']

end ObeysAs

/-- What a device is set to after a command: a write that it has obeyed counts. -/
theorem setting?_after_write (sets : command.setting? = some setting) (hardware : Hardware)
    (address : String) (field : Field) : (hardware.after address command).setting? field =
      if field = command.field ∧ (hardware.reply address command).toOption.isSome = true
      then some setting else hardware.setting? field := by
  cases replied : hardware.reply address command with
  | error error => simp [after_of_error replied, Except.toOption]
  | ok result => simpa [Except.toOption] using (setting?_write sets replied).2 field

/-- A write never adds or removes a field. -/
theorem isSome_after_write (sets : command.setting?.isSome = true) (hardware : Hardware)
    (address : String) (field : Field) :
    ((hardware.after address command).setting? field).isSome =
      (hardware.setting? field).isSome := by
  rcases Option.isSome_iff_exists.1 sets with ⟨setting, isSet⟩
  cases replied : hardware.reply address command with
  | error error => rw [after_of_error replied]
  | ok result =>
      rcases setting?_write isSet replied with ⟨known, settings⟩
      rw [settings]
      split
      · rename_i same
        rw [same, known]
        rfl
      · rfl

/-- A device with a field set obeys the same writes, unless it was switched on or off. -/
theorem obeysAs_after (sets : command.setting?.isSome = true)
    (notPower : command.field ≠ .poweredOn) (hardware : Hardware) (address : String) :
    (hardware.after address command).ObeysAs hardware := by
  refine ⟨model_after hardware address command, isSome_after_write sets hardware address, ?_⟩
  rcases Option.isSome_iff_exists.1 sets with ⟨setting, isSet⟩
  rw [setting?_after_write isSet, if_neg fun both => notPower both.1.symm]

/-! ### Readings -/

theorem setting?_after_read (reads : command.setting? = none) (hardware : Hardware)
    (address : String) (field : Field) :
    (hardware.after address command).setting? field = hardware.setting? field := by
  cases hardware with
  | display state =>
      cases command with
      | setPower | setInput | setBlank | setVolume | setMute => cases reads
      | getInputs kind => cases kind <;> rfl
      | getPower | getBlank | getVolumes | getMutes | healthy | info => rfl
  | switcher state =>
      cases command with
      | setPower | setInput | setBlank | setVolume | setMute => cases reads
      | getInputs kind => cases kind <;> rfl
      | getPower | getBlank | getVolumes | getMutes | healthy | info => rfl
  | dsp state =>
      cases command with
      | setPower | setInput | setBlank | setVolume | setMute => cases reads
      | getVolumes | getMutes => exact Dsp.setting?_touch state _ field
      | getPower | getInputs | getBlank | healthy | info => rfl

/-- Two devices of which the same is read. -/
structure ReadsAs (hardware other : Hardware) : Prop where
  model : hardware.model = other.model
  settings : ∀ field, hardware.setting? field = other.setting? field

namespace ReadsAs

theorem refl (hardware : Hardware) : hardware.ReadsAs hardware := ⟨rfl, fun _ => rfl⟩

theorem symm (reads : hardware.ReadsAs other) : other.ReadsAs hardware :=
  ⟨reads.model.symm, fun field => (reads.settings field).symm⟩

theorem trans {third : Hardware} (first : hardware.ReadsAs other) (second : other.ReadsAs third) :
    hardware.ReadsAs third :=
  ⟨first.model.trans second.model,
    fun field => (first.settings field).trans (second.settings field)⟩

theorem obeysAs (reads : hardware.ReadsAs other) : hardware.ObeysAs other :=
  ⟨reads.model, fun field => by rw [reads.settings], reads.settings .poweredOn⟩

/-- Displays of which the same is read are the same; so are switchers, and blocks of processors. -/
theorem cases (reads : hardware.ReadsAs other) : hardware = other ∨
    ∃ state state', hardware = dsp state ∧ other = dsp state' ∧
      ∀ name, state.block name = state'.block name := by
  rcases reads with ⟨model, settings⟩
  cases hardware with
  | display state =>
      cases other with
      | switcher | dsp => cases model
      | display state' =>
          have power := settings .poweredOn
          have blanked := settings .blanked
          have input := settings (.input "" .audioVideo)
          have level := settings (.volume "")
          have muted := settings (.mute "")
          cases state
          cases state'
          simp_all [setting?, Display.setting?]
  | switcher state =>
      cases other with
      | display | dsp => cases model
      | switcher state' =>
          have source : Function.Injective Setting.source := fun _ _ same => Setting.source.inj same
          have audio : state.audio = state'.audio := SortedMap.ext_get? fun output =>
            Option.map_injective source (settings (.input output .audio))
          have video : state.video = state'.video := SortedMap.ext_get? fun output =>
            Option.map_injective source (settings (.input output .video))
          cases state
          cases state'
          simp_all
  | dsp state =>
      cases other with
      | display | switcher => cases model
      | dsp state' =>
          refine Or.inr ⟨state, state', rfl, rfl, fun name => ?_⟩
          have level := settings (.volume name)
          have muted := settings (.mute name)
          simp only [setting?, Dsp.setting?, Option.some.injEq, Setting.flag.injEq,
            Setting.level.injEq] at level muted
          generalize state.block name = block at level muted
          generalize state'.block name = block' at level muted
          cases block
          cases block'
          simp_all

/-- Devices of which the same is read reply the same to everything but the question for an info. -/
theorem reply (reads : hardware.ReadsAs other) (notInfo : command ≠ .info) (address : String) :
    hardware.reply address command = other.reply address command := by
  rcases reads.cases with rfl | ⟨state, state', rfl, rfl, blocks⟩
  · rfl
  · by_cases sets : command.setting?.isSome = true
    · exact reads.obeysAs.reply sets address
    · cases command with
      | info => exact absurd rfl notInfo
      | setPower | setInput | setBlank | setVolume | setMute => exact absurd rfl sets
      | getPower | getInputs | getBlank | healthy => rfl
      | getVolumes | getMutes =>
          simp only [reply_dsp, Dsp.perform, Dsp.read, blocks]
          rfl

end ReadsAs

theorem readsAs_after (reads : command.setting? = none) (hardware : Hardware) (address : String) :
    (hardware.after address command).ReadsAs hardware :=
  ⟨model_after hardware address command, setting?_after_read reads hardware address⟩

end Hardware

end AvControl.Virtual

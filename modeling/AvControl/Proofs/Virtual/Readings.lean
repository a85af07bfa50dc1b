import AvControl.Proofs.Engine.Accord
import AvControl.Proofs.Overwriting
import AvControl.Proofs.Virtual.Hardware

/-!
# What is read off virtual devices

Asked for everything that it offers, a virtual device never fails to answer, and what it answers are
its settings. Only a sound processor keeps some to itself, because it answers for no more blocks
than it is asked for.
-/

namespace AvControl.Virtual

/-- Whether a field of a device of a model is left out when its state is read. -/
def Model.hides (model : Model) (config : DeviceConfig) : Field → Bool
  | .volume block =>
    model = dsp && block ∉ Dsp.namesToRead (config.blocks Port.volumeKind)
  | .mute block => model = dsp && block ∉ Dsp.namesToRead (config.blocks Port.muteKind)
  | _ => false

theorem get?_foldl_insert_map {α : Type} (value : String → α) (names : List String) :
    ∀ (map : SortedMap String α) (key : String),
      ((names.map fun name => (name, value name)).foldl
        (fun map entry => map.insert entry.1 entry.2) map).get? key =
          if key ∈ names then some (value key) else map.get? key := by
  induction names with
  | nil => exact fun _ _ => by simp
  | cons name rest ih =>
      intro map key
      rw [List.map_cons, List.foldl_cons, ih, SortedMap.get?_insert]
      by_cases inRest : key ∈ rest
      · simp [inRest]
      · by_cases same : key = name
        · simp [same]
        · simp [inRest, same]

theorem Dsp.get?_read {α : Type} (dsp : Dsp) (names : List String) (pick : GainBlock → α)
    (name : String) : (dsp.read names pick).get? name =
      if name ∈ names then some (pick (dsp.block name)) else none := by
  rw [Dsp.read, SortedMap.ofList, get?_foldl_insert_map fun name => pick (dsp.block name)]
  rfl

namespace Hardware

/-- What is read of a field of a device. -/
def shown? (hardware : Hardware) (config : DeviceConfig) (field : Field) : Option Setting :=
  if hardware.model.hides config field then none else hardware.setting? field

/-- A command of a device and what comes of it. -/
def deal (hardware : Hardware) (address : String) (command : Command) : Deal where
  command := command
  result := match hardware.reply address command with
    | .ok result => .ok result
    | .error error => .error (.driver error)

theorem finding?_deal {hardware : Hardware} {address : String} {command : Command}
    {result : command.Result} (done : hardware.reply address command = .ok result) :
    (hardware.deal address command).finding? = some ⟨command, result⟩ := by
  simp [deal, Deal.finding?, done]

variable {config : DeviceConfig} {command : Command}

/-- What a reading of a device has to say: it succeeds, and it sets its fields as they are shown. -/
def Tells (hardware : Hardware) (address : String) (config : DeviceConfig) (command : Command) :
    Prop :=
  ∃ result, hardware.reply address command = .ok result ∧ ∀ assignment : Assignment,
    assignment ∈ Finding.assignments ⟨command, result⟩ ↔ command.Writes assignment.field ∧
      hardware.shown? config assignment.field = some assignment.setting

namespace Tells

variable {hardware : Hardware} {address : String}

theorem power {on : Bool} (replied : hardware.reply address .getPower = .ok on)
    (shown : hardware.shown? config .poweredOn = some (.flag on)) :
    hardware.Tells address config .getPower := by
  refine ⟨on, replied, fun assignment => ?_⟩
  cases assignment <;>
    simp [Finding.assignments, Command.Writes, Assignment.field, Assignment.setting, shown, eq_comm]

theorem blank {on : Bool} (replied : hardware.reply address .getBlank = .ok on)
    (shown : hardware.shown? config .blanked = some (.flag on)) :
    hardware.Tells address config .getBlank := by
  refine ⟨on, replied, fun assignment => ?_⟩
  cases assignment <;>
    simp [Finding.assignments, Command.Writes, Assignment.field, Assignment.setting, shown, eq_comm]

theorem inputs {kind : SignalKind} {routes : SortedMap String String}
    (replied : hardware.reply address (.getInputs kind) = .ok routes)
    (shown : ∀ output, hardware.shown? config (.input output kind) =
      (routes.get? output).map .source) :
    hardware.Tells address config (.getInputs kind) := by
  refine ⟨routes, replied, fun assignment => ?_⟩
  simp only [Finding.assignments, List.mem_map, Prod.exists, SortedMap.mem_entries_iff]
  cases assignment with
  | route kind' output input =>
      by_cases same : kind' = kind
      · subst same
        simp [Command.Writes, Assignment.field, Assignment.setting, shown]
      · simp [Command.Writes, Assignment.field, same, Ne.symm same]
  | power | blank | level | mute => simp [Command.Writes, Assignment.field]

theorem volumes {names : List String} {levels : SortedMap String Int32}
    (replied : hardware.reply address (.getVolumes names) = .ok levels)
    (shown : ∀ block, hardware.shown? config (.volume block) = (levels.get? block).map .level) :
    hardware.Tells address config (.getVolumes names) := by
  refine ⟨levels, replied, fun assignment => ?_⟩
  simp only [Finding.assignments, List.mem_map, Prod.exists, SortedMap.mem_entries_iff]
  cases assignment <;> simp [Command.Writes, Assignment.field, Assignment.setting, shown]

theorem mutes {names : List String} {flags : SortedMap String Bool}
    (replied : hardware.reply address (.getMutes names) = .ok flags)
    (shown : ∀ block, hardware.shown? config (.mute block) = (flags.get? block).map .flag) :
    hardware.Tells address config (.getMutes names) := by
  refine ⟨flags, replied, fun assignment => ?_⟩
  simp only [Finding.assignments, List.mem_map, Prod.exists, SortedMap.mem_entries_iff]
  cases assignment <;> simp [Command.Writes, Assignment.field, Assignment.setting, shown]

end Tells

/-- Reading an offered contract succeeds, and sets the fields that it is about as they are shown. -/
theorem tells (hardware : Hardware) (address : String)
    (isReading : command ∈ Plan.readings config)
    (offered : hardware.model.handle.supports command.capability = true) :
    hardware.Tells address config command := by
  simp only [Plan.readings, SignalKind.all, List.map_cons, List.map_nil, List.cons_append,
    List.nil_append, List.mem_cons, List.not_mem_nil, or_false] at isReading
  cases hardware with
  | display state =>
      rcases isReading with rfl | rfl | rfl | rfl | rfl | rfl | rfl
      · exact .power rfl rfl
      · refine .inputs rfl fun output => ?_
        simp [shown?, Model.hides, setting?, Display.setting?, apply_ite]
      · cases offered
      · cases offered
      · exact .blank rfl rfl
      · refine .volumes rfl fun output => ?_
        simp [shown?, model, Model.hides, setting?, Display.setting?, apply_ite]
      · refine .mutes rfl fun output => ?_
        simp [shown?, model, Model.hides, setting?, Display.setting?, apply_ite]
  | switcher state =>
      rcases isReading with rfl | rfl | rfl | rfl | rfl | rfl | rfl
      · cases offered
      · cases offered
      · exact .inputs rfl fun output => rfl
      · exact .inputs rfl fun output => rfl
      · cases offered
      · cases offered
      · cases offered
  | dsp state =>
      rcases isReading with rfl | rfl | rfl | rfl | rfl | rfl | rfl
      · cases offered
      · cases offered
      · cases offered
      · cases offered
      · cases offered
      · refine .volumes rfl fun name => ?_
        simp [shown?, model, Model.hides, setting?, Dsp.setting?, Dsp.get?_read, apply_ite]
      · refine .mutes rfl fun name => ?_
        simp [shown?, model, Model.hides, setting?, Dsp.setting?, Dsp.get?_read, apply_ite]

/-- Every field that a device has is read by a contract that the device offers. -/
theorem exists_reading {hardware : Hardware} {field : Field} {setting : Setting}
    (isSet : hardware.setting? field = some setting) (config : DeviceConfig) :
    ∃ command ∈ Plan.readings config,
      hardware.model.handle.supports command.capability = true ∧ command.Writes field := by
  cases hardware with
  | display state =>
      cases field with
      | device | healthy | info | volumes | mutes | inputs => cases isSet
      | poweredOn => exact ⟨.getPower, by simp [Plan.readings], rfl, rfl⟩
      | blanked => exact ⟨.getBlank, by simp [Plan.readings], rfl, rfl⟩
      | volume block => exact
          ⟨.getVolumes (config.blocks Port.volumeKind), by simp [Plan.readings], rfl, block, rfl⟩
      | mute block => exact
          ⟨.getMutes (config.blocks Port.muteKind), by simp [Plan.readings], rfl, block, rfl⟩
      | input output kind =>
          cases kind with
          | audioVideo => exact
              ⟨.getInputs .audioVideo, by simp [Plan.readings, SignalKind.all], rfl, output, rfl⟩
          | audio | video => cases isSet
  | switcher state =>
      cases field with
      | device | healthy | info | volumes | mutes | inputs | poweredOn | blanked | volume | mute =>
          cases isSet
      | input output kind =>
          cases kind with
          | audioVideo => cases isSet
          | audio => exact
              ⟨.getInputs .audio, by simp [Plan.readings, SignalKind.all], rfl, output, rfl⟩
          | video => exact
              ⟨.getInputs .video, by simp [Plan.readings, SignalKind.all], rfl, output, rfl⟩
  | dsp state =>
      cases field with
      | device | healthy | info | volumes | mutes | inputs | poweredOn | blanked | input =>
          cases isSet
      | volume block => exact
          ⟨.getVolumes (config.blocks Port.volumeKind), by simp [Plan.readings], rfl, block, rfl⟩
      | mute block => exact
          ⟨.getMutes (config.blocks Port.muteKind), by simp [Plan.readings], rfl, block, rfl⟩

/-- What comes of asking a device for all that it offers to tell about its state. -/
def readout (hardware : Hardware) (address : String) (config : DeviceConfig) : List Deal :=
  ((Plan.readings config).filter fun command =>
    hardware.model.handle.supports command.capability).map (hardware.deal address)

variable {hardware : Hardware} {address : String}

theorem tells_of_readout {deal : Deal} (member : deal ∈ hardware.readout address config) :
    ∃ result, deal.finding? = some ⟨deal.command, result⟩ ∧ ∀ assignment : Assignment,
      assignment ∈ Finding.assignments ⟨deal.command, result⟩ ↔
        deal.command.Writes assignment.field ∧
          hardware.shown? config assignment.field = some assignment.setting := by
  rcases List.mem_map.1 member with ⟨command, isOffered, rfl⟩
  rcases List.mem_filter.1 isOffered with ⟨isReading, offered⟩
  rcases hardware.tells address isReading offered with ⟨result, replied, tells⟩
  exact ⟨result, finding?_deal replied, tells⟩

theorem report?_readout {deal : Deal} (member : deal ∈ hardware.readout address config)
    (device : DeviceId) : deal.report? device = none := by
  rcases tells_of_readout member with ⟨result, found, -⟩
  rcases deal with ⟨command, _ | _⟩
  · cases found
  · rfl

theorem distinct_readout (hardware : Hardware) (address : String) (config : DeviceConfig) :
    ((((hardware.readout address config).filterMap Deal.finding?).flatMap
      Finding.assignments).map Assignment.field).Nodup := by
  apply DeviceState.distinct_of_apart
  have apart : ((hardware.readout address config).map Deal.command).Pairwise Command.Apart := by
    rw [readout, List.map_map, show Deal.command ∘ hardware.deal address = id from rfl, List.map_id]
    exact (Plan.apart_readings config).filter _
  have all := (Deal.perm_commands (hardware.readout address config)).symm.pairwise apart
    Command.Apart.symm
  exact (List.pairwise_append.1 all).2.1

theorem exists_assignment {field : Field} {setting : Setting}
    (isSet : hardware.setting? field = some setting) :
    ∃ assignment : Assignment, assignment.field = field ∧ assignment.setting = setting := by
  cases hardware with
  | display state =>
      cases field with
      | device | healthy | info | volumes | mutes | inputs => cases isSet
      | poweredOn => exact ⟨.power _, rfl, Option.some.inj isSet⟩
      | blanked => exact ⟨.blank _, rfl, Option.some.inj isSet⟩
      | volume block =>
          simp only [setting?, Display.setting?, Option.ite_none_right_eq_some] at isSet
          exact ⟨.level block _, rfl, Option.some.inj isSet.2⟩
      | mute block =>
          simp only [setting?, Display.setting?, Option.ite_none_right_eq_some] at isSet
          exact ⟨.mute block _, rfl, Option.some.inj isSet.2⟩
      | input output kind =>
          simp only [setting?, Display.setting?, Option.ite_none_right_eq_some] at isSet
          exact ⟨.route kind output _, rfl, Option.some.inj isSet.2⟩
  | switcher state =>
      cases field with
      | device | healthy | info | volumes | mutes | inputs | poweredOn | blanked | volume | mute =>
          cases isSet
      | input output kind =>
          rcases Option.map_eq_some_iff.1 isSet with ⟨input, -, rfl⟩
          exact ⟨.route kind output input, rfl, rfl⟩
  | dsp state =>
      cases field with
      | device | healthy | info | volumes | mutes | inputs | poweredOn | blanked | input =>
          cases isSet
      | volume block => exact ⟨.level block _, rfl, Option.some.inj isSet⟩
      | mute block => exact ⟨.mute block _, rfl, Option.some.inj isSet⟩

/-- What is read of a device is what it shows. -/
theorem setting?_readout (hardware : Hardware) (address : String) (config : DeviceConfig)
    (field : Field) : (((hardware.readout address config).filterMap Deal.finding?).foldl
      DeviceState.learn {}).setting? field = hardware.shown? config field := by
  apply Option.ext
  intro setting
  rw [DeviceState.foldl_learn_eq,
    DeviceState.setting?_assigned (hardware.distinct_readout address config)]
  simp only [List.mem_flatMap, List.mem_filterMap]
  constructor
  · rintro ⟨assignment, ⟨finding, ⟨deal, member, found⟩, isAssignment⟩, rfl, rfl⟩
    rcases tells_of_readout member with ⟨result, found', tells⟩
    obtain rfl := Option.some.inj (found.symm.trans found')
    exact ((tells assignment).1 isAssignment).2
  · intro shown
    have isSet : hardware.setting? field = some setting := by
      simp only [shown?, Option.ite_none_left_eq_some] at shown
      exact shown.2
    rcases exists_reading isSet config with ⟨command, isReading, offered, writes⟩
    rcases exists_assignment isSet with ⟨assignment, rfl, rfl⟩
    have member : hardware.deal address command ∈ hardware.readout address config :=
      List.mem_map.2 ⟨command, List.mem_filter.2 ⟨isReading, offered⟩, rfl⟩
    rcases tells_of_readout member with ⟨result, found, tells⟩
    exact ⟨assignment, ⟨_, ⟨_, member, found⟩, (tells assignment).2 ⟨writes, shown⟩⟩, rfl, rfl⟩

theorem tidy_readout (hardware : Hardware) (address : String) (config : DeviceConfig) :
    (((hardware.readout address config).filterMap Deal.finding?).foldl
      DeviceState.learn {}).Tidy := by
  rw [DeviceState.foldl_learn_eq]
  exact DeviceState.tidy_empty.foldl_assign _

end Hardware

end AvControl.Virtual

import AvControl.Engine.Plan
import AvControl.Proofs.Field
import AvControl.Proofs.SortedMap
import Mathlib.Data.List.Pairwise

/-!
# States, setting by setting

A state is a collection of settings, each of one atomic field: the power, the picture, one route,
one level or one mute flag. A desired state is applied by one command for each of its settings, and
what commands have achieved adds up to a state setting by setting.
-/

namespace AvControl

/-- What one atomic field is set to. -/
inductive Setting
  | flag (on : Bool)
  | source (input : String)
  | level (value : Int32)
deriving DecidableEq, Repr

/-- A setting in a document. -/
def Setting.json : Setting → Json
  | flag on => .bool on
  | source input => .string input
  | level value => Json.ofInt value.toInt

namespace DeviceState

/-- What an atomic field is set to in a state, if the state says so. -/
def setting? (state : DeviceState) : Field → Option Setting
  | .poweredOn => state.poweredOn.map .flag
  | .blanked => state.blanked.map .flag
  | .input output kind =>
    ((state.inputs.bind fun inputs => inputs.get? output).bind fun feed => feed.slot kind).map
      .source
  | .volume block => (state.volumes.bind fun volumes => volumes.get? block).map .level
  | .mute block => (state.mutes.bind fun mutes => mutes.get? block).map .flag
  | _ => none

/-- No map of the state is empty, and no output is named without any feed. -/
structure Tidy (state : DeviceState) : Prop where
  inputs : ∀ inputs, state.inputs = some inputs → inputs.isEmpty = false ∧
    ∀ output feed, inputs.get? output = some feed → ∃ kind, (feed.slot kind).isSome
  volumes : ∀ volumes, state.volumes = some volumes → volumes.isEmpty = false
  mutes : ∀ mutes, state.mutes = some mutes → mutes.isEmpty = false

end DeviceState

namespace Command

/-- What a command sets its field to, if it is one that sets an atomic field. -/
def setting? : Command → Option Setting
  | setPower on | setBlank on => some (.flag on)
  | setInput _ _ input => some (.source input)
  | setVolume _ level => some (.level level)
  | setMute _ muted => some (.flag muted)
  | _ => none

theorem requested_eq (command : Command) :
    command.requested = command.setting?.map Setting.json := by
  cases command <;> rfl

end Command

namespace Field

/-- The fields that are set one by one. -/
def IsAtomic : Field → Prop
  | poweredOn | blanked | volume _ | mute _ | input _ _ => True
  | _ => False

theorem isAtomic_of_setting {state : DeviceState} {field : Field} {setting : Setting}
    (isSet : state.setting? field = some setting) : field.IsAtomic := by
  cases field <;> trivial

/-- No atomic field has the path of the device as a whole. -/
theorem path_ne_empty {field : Field} (atomic : field.IsAtomic) : field.path ≠ "" := by
  cases field with
  | device | healthy | info | volumes | mutes | inputs => exact atomic.elim
  | poweredOn | blanked | volume | mute | input => simp [path]

end Field

namespace DeviceState

theorem mem_entriesOf {α : Type} {map : Option (SortedMap String α)} {key : String} {value : α} :
    (key, value) ∈ entriesOf map ↔ (map.bind fun map => map.get? key) = some value := by
  cases map with
  | none => simp [entriesOf, SortedMap.empty]
  | some map => exact SortedMap.mem_entries_iff

theorem pairwise_entriesOf {α : Type} (map : Option (SortedMap String α)) :
    (entriesOf map).Pairwise fun a b => a.1 < b.1 := by
  cases map with
  | none => simp [entriesOf, SortedMap.empty]
  | some map => exact map.sorted

variable {state : DeviceState}

theorem mem_routes {kind : SignalKind} {output input : String} :
    (output, input) ∈ state.routes kind ↔
      state.setting? (.input output kind) = some (.source input) := by
  simp only [routes, List.mem_filterMap, Prod.exists, mem_entriesOf, Option.map_eq_some_iff,
    Prod.mk.injEq, setting?, Option.bind_eq_some_iff, Setting.source.injEq]
  constructor
  · rintro ⟨_, feed, isFeed, _, isSlot, rfl, rfl⟩
    exact ⟨_, ⟨feed, isFeed, isSlot⟩, rfl⟩
  · rintro ⟨_, ⟨feed, isFeed, isSlot⟩, rfl⟩
    exact ⟨output, feed, isFeed, _, isSlot, rfl, rfl⟩

theorem mem_volumes {block : String} {level : Int32} :
    (block, level) ∈ entriesOf state.volumes ↔
      state.setting? (.volume block) = some (.level level) := by
  simp only [mem_entriesOf, setting?, Option.map_eq_some_iff, Setting.level.injEq, exists_eq_right]

theorem mem_mutes {block : String} {muted : Bool} :
    (block, muted) ∈ entriesOf state.mutes ↔ state.setting? (.mute block) = some (.flag muted) := by
  simp only [mem_entriesOf, setting?, Option.map_eq_some_iff, Setting.flag.injEq, exists_eq_right]

/-- The routes of one kind stand in increasing order of their outputs. -/
theorem pairwise_routes (state : DeviceState) (kind : SignalKind) :
    (state.routes kind).Pairwise fun a b => a.1 < b.1 := by
  refine List.pairwise_filterMap.2 ((pairwise_entriesOf state.inputs).imp ?_)
  intro a b less a' isA b' isB
  rcases Option.map_eq_some_iff.1 isA with ⟨_, _, rfl⟩
  rcases Option.map_eq_some_iff.1 isB with ⟨_, _, rfl⟩
  exact less

/-- A command that succeeded sets its own field and leaves all others alone. -/
theorem setting?_learn (state : DeviceState) {command : Command} {setting : Setting}
    (sets : command.setting? = some setting) (result : command.Result) (field : Field) :
    (state.learn ⟨command, result⟩).setting? field =
      if field = command.field then some setting else state.setting? field := by
  cases command <;> cases sets <;> cases field <;>
    simp only [learn, setting?, setInput, setVolume, setMute, Command.field, reduceCtorEq, if_false,
      if_true, Option.map_some, Option.bind_some, SortedMap.get?_insert, Field.volume.injEq,
      Field.mute.injEq, Field.input.injEq]
  case setInput.refl.input kind output input output' kind' =>
      by_cases sameOutput : output' = output
      · subst sameOutput
        cases state.inputs with
        | none => cases kind <;> cases kind' <;> simp [Feed.setSlot, Feed.slot]
        | some inputs =>
            cases found : inputs.get? output' with
            | none => cases kind <;> cases kind' <;> simp [Feed.setSlot, Feed.slot, found]
            | some feed => by_cases same : kind' = kind <;> simp [found, same]
      · cases state.inputs <;> simp [sameOutput]
  case setVolume.refl.volume block level block' =>
      by_cases same : block' = block <;> cases state.volumes <;> simp [same]
  case setMute.refl.mute block muted block' =>
      by_cases same : block' = block <;> cases state.mutes <;> simp [same]

end DeviceState

namespace Plan

variable {desired : DeviceState} {command : Command}

/-- All commands that are sent. -/
def commands (plan : Plan) : List Command := plan.lead ++ plan.lanes.flatten

/-- The commands that apply a desired state. -/
def wanted (desired : DeviceState) : List Command :=
  powerChanges desired ++ (changes desired).flatten

theorem flatten_changes (desired : DeviceState) : (changes desired).flatten =
    (routings desired).flatten ++
      (blankChanges desired ++ volumeChanges desired ++ muteChanges desired) := by
  rw [changes, List.flatten_append, ← List.flatMap_def, List.flatMap_singleton']

theorem commands_plan (desired : DeviceState) (device : DeviceId) (config : DeviceConfig)
    (handle : Handle) : ((Work.apply desired).plan device config handle).commands =
      accepted config handle (wanted desired) := by
  simp only [Work.plan, commands, wanted, accepted, List.filter_append, List.filter_flatten]
  rfl

theorem commands_offered (handle : Handle) (commands : List Command) :
    (offered handle commands).commands =
      commands.filter fun command => handle.supports command.capability := by
  simp only [offered, Plan.commands, List.nil_append, ← List.flatMap_def, List.flatMap_singleton']

/-- Reading asks for the power, the routes of every kind, the picture, the levels and the mute
flags. -/
theorem mem_readings_iff {config : DeviceConfig} : command ∈ readings config ↔
    command = .getPower ∨ (∃ kind, command = .getInputs kind) ∨ command = .getBlank ∨
      command = .getVolumes (config.blocks Port.volumeKind) ∨
      command = .getMutes (config.blocks Port.muteKind) := by
  cases command with
  | getInputs kind => cases kind <;> simp [readings, SignalKind.all]
  | getPower | setPower | setInput | getBlank | setBlank | getVolumes | setVolume | getMutes
  | setMute | healthy | info => simp [readings, SignalKind.all]

theorem mem_powerChanges : command ∈ powerChanges desired ↔
    ∃ on, command = .setPower on ∧ desired.setting? .poweredOn = some (.flag on) := by
  simp [powerChanges, DeviceState.setting?, and_comm, eq_comm]

theorem mem_blankChanges : command ∈ blankChanges desired ↔
    ∃ on, command = .setBlank on ∧ desired.setting? .blanked = some (.flag on) := by
  simp [blankChanges, DeviceState.setting?, and_comm, eq_comm]

theorem mem_routings : command ∈ (routings desired).flatten ↔
    ∃ kind output input, command = .setInput kind output input ∧
      desired.setting? (.input output kind) = some (.source input) := by
  simp only [routings, List.mem_flatten, List.mem_map, ← DeviceState.mem_routes]
  constructor
  · rintro ⟨_, ⟨kind, _, rfl⟩, isRoute⟩
    rcases List.mem_map.1 isRoute with ⟨⟨output, input⟩, route, rfl⟩
    exact ⟨kind, output, input, rfl, route⟩
  · rintro ⟨kind, output, input, rfl, route⟩
    refine ⟨_, ⟨kind, ?_, rfl⟩, List.mem_map.2 ⟨_, route, rfl⟩⟩
    cases kind <;> simp [SignalKind.all]

theorem mem_volumeChanges : command ∈ volumeChanges desired ↔
    ∃ block level, command = .setVolume block level ∧
      desired.setting? (.volume block) = some (.level level) := by
  simp only [volumeChanges, List.mem_map, Prod.exists, DeviceState.mem_volumes]
  simp only [and_comm, eq_comm]

theorem mem_muteChanges : command ∈ muteChanges desired ↔
    ∃ block muted, command = .setMute block muted ∧
      desired.setting? (.mute block) = some (.flag muted) := by
  simp only [muteChanges, List.mem_map, Prod.exists, DeviceState.mem_mutes]
  simp only [and_comm, eq_comm]

/-- There is a command for every setting of the desired state, and no other. -/
theorem mem_wanted : command ∈ wanted desired ↔ ∃ setting, command.setting? = some setting ∧
    desired.setting? command.field = some setting := by
  simp only [wanted, flatten_changes, List.mem_append, mem_powerChanges, mem_routings,
    mem_blankChanges, mem_volumeChanges, mem_muteChanges]
  constructor
  · rintro (⟨on, rfl, wanted⟩ | ⟨kind, output, input, rfl, wanted⟩ |
      (⟨on, rfl, wanted⟩ | ⟨block, level, rfl, wanted⟩) | ⟨block, muted, rfl, wanted⟩)
    all_goals exact ⟨_, rfl, wanted⟩
  · rintro ⟨setting, sets, wanted⟩
    cases command with
    | setPower on =>
        cases sets
        exact Or.inl ⟨on, rfl, wanted⟩
    | setInput kind output input =>
        cases sets
        exact Or.inr (Or.inl ⟨kind, output, input, rfl, wanted⟩)
    | setBlank on =>
        cases sets
        exact Or.inr (Or.inr (Or.inl (Or.inl ⟨on, rfl, wanted⟩)))
    | setVolume block level =>
        cases sets
        exact Or.inr (Or.inr (Or.inl (Or.inr ⟨block, level, rfl, wanted⟩)))
    | setMute block muted =>
        cases sets
        exact Or.inr (Or.inr (Or.inr ⟨block, muted, rfl, wanted⟩))
    | getPower | getInputs | getBlank | getVolumes | getMutes | healthy | info => cases sets

theorem exists_wanted {field : Field} {setting : Setting}
    (isSet : desired.setting? field = some setting) :
    ∃ command : Command, command.field = field ∧ command.setting? = some setting := by
  cases field with
  | device | healthy | info | volumes | mutes | inputs => cases isSet
  | poweredOn =>
      rcases Option.map_eq_some_iff.1 isSet with ⟨on, _, rfl⟩
      exact ⟨.setPower on, rfl, rfl⟩
  | blanked =>
      rcases Option.map_eq_some_iff.1 isSet with ⟨on, _, rfl⟩
      exact ⟨.setBlank on, rfl, rfl⟩
  | volume block =>
      rcases Option.map_eq_some_iff.1 isSet with ⟨level, _, rfl⟩
      exact ⟨.setVolume block level, rfl, rfl⟩
  | mute block =>
      rcases Option.map_eq_some_iff.1 isSet with ⟨muted, _, rfl⟩
      exact ⟨.setMute block muted, rfl, rfl⟩
  | input output kind =>
      rcases Option.map_eq_some_iff.1 isSet with ⟨input, _, rfl⟩
      exact ⟨.setInput kind output input, rfl, rfl⟩

theorem distinct_routings (desired : DeviceState) :
    (routings desired).flatten.Pairwise fun a b => a.field ≠ b.field := by
  refine List.pairwise_flatten.2 ⟨fun row member => ?_, List.pairwise_map.2 ?_⟩
  · rcases List.mem_map.1 member with ⟨kind, _, rfl⟩
    refine List.pairwise_map.2 ((desired.pairwise_routes kind).imp fun less same => ?_)
    simp only [Command.field, Field.input.injEq] at same
    exact SortedMap.ne_of_lt less same.1
  · have kinds : SignalKind.all.Pairwise fun a b => a ≠ b := by simp [SignalKind.all]
    refine kinds.imp fun differ a isA b isB same => ?_
    rcases List.mem_map.1 isA with ⟨_, _, rfl⟩
    rcases List.mem_map.1 isB with ⟨_, _, rfl⟩
    simp only [Command.field, Field.input.injEq] at same
    exact differ same.2

/-- No field is set twice. -/
theorem distinct_wanted (desired : DeviceState) : ((wanted desired).map Command.field).Nodup := by
  have volumes : (volumeChanges desired).Pairwise fun a b => a.field ≠ b.field := by
    refine List.pairwise_map.2 ((DeviceState.pairwise_entriesOf _).imp fun less same => ?_)
    exact SortedMap.ne_of_lt less (Field.volume.inj same)
  have mutes : (muteChanges desired).Pairwise fun a b => a.field ≠ b.field := by
    refine List.pairwise_map.2 ((DeviceState.pairwise_entriesOf _).imp fun less same => ?_)
    exact SortedMap.ne_of_lt less (Field.mute.inj same)
  have power : (powerChanges desired).Pairwise fun a b => a.field ≠ b.field := by
    cases on : desired.poweredOn <;> simp [powerChanges, on]
  have blank : (blankChanges desired).Pairwise fun a b => a.field ≠ b.field := by
    cases on : desired.blanked <;> simp [blankChanges, on]
  rw [wanted, flatten_changes]
  refine List.pairwise_map.2 ?_
  simp only [List.pairwise_append, List.mem_append, mem_powerChanges, mem_routings,
    mem_blankChanges, mem_volumeChanges, mem_muteChanges]
  refine ⟨power, ⟨distinct_routings desired, ⟨⟨blank, volumes, ?_⟩, mutes, ?_⟩, ?_⟩, ?_⟩
  · rintro _ ⟨on, rfl, -⟩ _ ⟨block, level, rfl, -⟩
    simp [Command.field]
  · rintro _ (⟨on, rfl, -⟩ | ⟨block, level, rfl, -⟩) _ ⟨block', muted, rfl, -⟩ <;>
      simp [Command.field]
  · rintro _ ⟨kind, output, input, rfl, -⟩ _
      ((⟨on, rfl, -⟩ | ⟨block, level, rfl, -⟩) | ⟨block, muted, rfl, -⟩) <;> simp [Command.field]
  · rintro _ ⟨on, rfl, -⟩ _ (⟨kind, output, input, rfl, -⟩ |
      (⟨on', rfl, -⟩ | ⟨block, level, rfl, -⟩) | ⟨block, muted, rfl, -⟩) <;> simp [Command.field]

end Plan

namespace DeviceState

/-- Commands that set different fields add up to their settings. -/
theorem setting?_foldl_learn (findings : List Finding)
    (sets : ∀ finding ∈ findings, finding.command.setting?.isSome = true)
    (distinct : (findings.map fun finding => finding.command.field).Nodup) :
    ∀ (state : DeviceState) (field : Field), (findings.foldl learn state).setting? field =
      ((findings.find? fun finding => finding.command.field = field).bind
        fun finding => finding.command.setting?).or (state.setting? field) := by
  induction findings with
  | nil => simp
  | cons head rest ih =>
      intro state field
      rcases head with ⟨command, result⟩
      rcases Option.isSome_iff_exists.1 (sets _ List.mem_cons_self) with ⟨setting, isSet⟩
      rcases List.nodup_cons.1 distinct with ⟨fresh, others⟩
      have setsRest := fun finding member => sets finding (List.mem_cons_of_mem _ member)
      rw [List.foldl_cons, ih setsRest others, setting?_learn state isSet]
      by_cases same : field = command.field
      · subst same
        have absent : rest.find? (fun finding => finding.command.field = command.field) = none := by
          refine List.find?_eq_none.2 fun finding member same => fresh ?_
          exact List.mem_map.2 ⟨finding, member, by simpa using same⟩
        have isSet' : command.setting? = some setting := isSet
        simp [absent, isSet']
      · simp [same, eq_comm]

/-- What commands that set different fields have achieved together. -/
theorem setting?_achieved {findings : List Finding}
    (sets : ∀ finding ∈ findings, finding.command.setting?.isSome = true)
    (distinct : (findings.map fun finding => finding.command.field).Nodup) {field : Field}
    {setting : Setting} : (findings.foldl learn {}).setting? field = some setting ↔
      ∃ finding ∈ findings, finding.command.field = field ∧
        finding.command.setting? = some setting := by
  have nothing : ({} : DeviceState).setting? field = none := by cases field <;> rfl
  rw [setting?_foldl_learn findings sets distinct, nothing, Option.or_none,
    Option.bind_eq_some_iff]
  constructor
  · rintro ⟨finding, found, isSet⟩
    exact ⟨finding, List.mem_of_find?_eq_some found,
      by simpa using List.find?_some found, isSet⟩
  · rintro ⟨finding, member, rfl, isSet⟩
    cases found : findings.find? fun other => other.command.field = finding.command.field with
    | none => simpa using List.find?_eq_none.1 found finding member
    | some other =>
        have sameField : other.command.field = finding.command.field := by
          simpa using List.find?_some found
        have same : other = finding :=
          List.inj_on_of_nodup_map distinct (List.mem_of_find?_eq_some found) member sameField
        exact ⟨other, rfl, same ▸ isSet⟩

theorem tidy_empty : Tidy {} := ⟨by simp, by simp, by simp⟩

theorem Tidy.learn {state : DeviceState} (tidy : state.Tidy) {command : Command}
    (sets : command.setting?.isSome = true) (result : command.Result) :
    (state.learn ⟨command, result⟩).Tidy := by
  cases command with
  | getPower | getInputs | getBlank | getVolumes | getMutes | healthy | info => cases sets
  | setPower | setBlank => exact ⟨tidy.inputs, tidy.volumes, tidy.mutes⟩
  | setVolume block level =>
      refine ⟨tidy.inputs, fun volumes isVolumes => ?_, tidy.mutes⟩
      obtain rfl := Option.some.inj isVolumes
      exact SortedMap.isEmpty_insert _ _ _
  | setMute block muted =>
      refine ⟨tidy.inputs, tidy.volumes, fun mutes isMutes => ?_⟩
      obtain rfl := Option.some.inj isMutes
      exact SortedMap.isEmpty_insert _ _ _
  | setInput kind output input =>
      refine ⟨fun inputs isInputs => ?_, tidy.volumes, tidy.mutes⟩
      obtain rfl := Option.some.inj isInputs
      refine ⟨SortedMap.isEmpty_insert _ _ _, fun output' feed isFeed => ?_⟩
      rw [SortedMap.get?_insert] at isFeed
      split at isFeed
      · obtain rfl := Option.some.inj isFeed
        exact ⟨kind, by simp⟩
      · cases before : state.inputs with
        | none => simp [before] at isFeed
        | some inputs =>
            simp only [before, Option.getD_some] at isFeed
            exact (tidy.inputs inputs before).2 output' feed isFeed

theorem Tidy.foldl_learn (findings : List Finding)
    (sets : ∀ finding ∈ findings, finding.command.setting?.isSome = true) :
    ∀ {state : DeviceState}, state.Tidy → (findings.foldl DeviceState.learn state).Tidy := by
  induction findings with
  | nil => exact fun tidy => tidy
  | cons head rest ih =>
      intro state tidy
      exact ih (fun finding member => sets finding (List.mem_cons_of_mem _ member))
        (tidy.learn (sets head List.mem_cons_self) head.result)

theorem holdsNothing_iff {α : Type} {map : Option (SortedMap String α)} :
    holdsNothing map = true ↔ ∀ key, (map.bind fun map => map.get? key) = none := by
  cases map with
  | none => simp [holdsNothing]
  | some map => exact SortedMap.isEmpty_iff

theorem setting?_of_isEmpty {state : DeviceState} (empty : state.isEmpty = true) (field : Field) :
    state.setting? field = none := by
  simp only [isEmpty, Bool.and_eq_true, Option.isNone_iff_eq_none, holdsNothing_iff] at empty
  rcases empty with ⟨⟨⟨⟨power, blank⟩, inputs⟩, volumes⟩, mutes⟩
  cases field <;> simp [setting?, power, blank, inputs, volumes, mutes]

/-- A state is empty when it has no settings and does not even name an output. -/
theorem isEmpty_iff {state : DeviceState} : state.isEmpty = true ↔
    (∀ field, state.setting? field = none) ∧
      ∀ output, (state.inputs.bind fun inputs => inputs.get? output) = none := by
  constructor
  · intro empty
    refine ⟨setting?_of_isEmpty empty, ?_⟩
    simp only [isEmpty, Bool.and_eq_true] at empty
    exact holdsNothing_iff.1 empty.1.1.2
  · rintro ⟨nothing, noOutput⟩
    have power := Option.map_eq_none_iff.1 (nothing .poweredOn)
    have blank := Option.map_eq_none_iff.1 (nothing .blanked)
    have volumes : holdsNothing state.volumes = true :=
      holdsNothing_iff.2 fun block => Option.map_eq_none_iff.1 (nothing (.volume block))
    have mutes : holdsNothing state.mutes = true :=
      holdsNothing_iff.2 fun block => Option.map_eq_none_iff.1 (nothing (.mute block))
    simp [isEmpty, power, blank, holdsNothing_iff.2 noOutput, volumes, mutes]

/-- A tidy state is empty exactly when it has no settings. -/
theorem Tidy.isEmpty_iff {state : DeviceState} (tidy : state.Tidy) :
    state.isEmpty = true ↔ ∀ field, state.setting? field = none := by
  refine DeviceState.isEmpty_iff.trans ⟨And.left, fun nothing => ⟨nothing, fun output => ?_⟩⟩
  apply Option.eq_none_iff_forall_ne_some.2
  intro feed isFeed
  rcases Option.bind_eq_some_iff.1 isFeed with ⟨inputs, isInputs, found⟩
  rcases (tidy.inputs inputs isInputs).2 output feed found with ⟨kind, isSlot⟩
  have noSlot := nothing (.input output kind)
  simp only [setting?, isFeed, Option.bind_some, Option.map_eq_none_iff] at noSlot
  simp [noSlot] at isSlot

end DeviceState

end AvControl

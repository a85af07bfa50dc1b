import AvControl.Proofs.Findings

/-!
# States laid over states

A state can be laid over another one: whatever it says then holds, and where it says nothing the
other one does. Tidy states are known by their settings, so what comes of it is known, too.
-/

namespace AvControl

namespace Assignment

/-- What the field is set to. -/
def setting : Assignment → Setting
  | power on | blank on | mute _ on => .flag on
  | route _ _ input => .source input
  | level _ value => .level value

/-- The command that would make the setting. -/
def command : Assignment → Command
  | power on => .setPower on
  | blank on => .setBlank on
  | route kind output input => .setInput kind output input
  | level block value => .setVolume block value
  | mute block muted => .setMute block muted

@[simp]
theorem field_command (assignment : Assignment) : assignment.command.field = assignment.field := by
  cases assignment <;> rfl

@[simp]
theorem setting?_command (assignment : Assignment) :
    assignment.command.setting? = some assignment.setting := by
  cases assignment <;> rfl

/-- An assignment as something that was found. -/
def finding : Assignment → Finding
  | power on => ⟨.setPower on, ()⟩
  | blank on => ⟨.setBlank on, ()⟩
  | route kind output input => ⟨.setInput kind output input, ()⟩
  | level block value => ⟨.setVolume block value, ()⟩
  | mute block muted => ⟨.setMute block muted, ()⟩

@[simp]
theorem command_finding (assignment : Assignment) :
    assignment.finding.command = assignment.command := by
  cases assignment <;> rfl

end Assignment

namespace DeviceState

theorem learn_finding (state : DeviceState) (assignment : Assignment) :
    state.learn assignment.finding = state.assign assignment := by
  cases assignment <;> rfl

theorem foldl_learn_finding (assignments : List Assignment) (state : DeviceState) :
    (assignments.map Assignment.finding).foldl learn state = assignments.foldl assign state := by
  simp only [List.foldl_map, learn_finding]

theorem setting?_empty (field : Field) : ({} : DeviceState).setting? field = none := by
  cases field <;> rfl

variable {assignments : List Assignment}

theorem sets_findings (assignments : List Assignment) :
    ∀ finding ∈ assignments.map Assignment.finding, finding.command.setting?.isSome = true := by
  intro finding member
  rcases List.mem_map.1 member with ⟨assignment, -, rfl⟩
  simp

/-- Assignments to different fields add up to their settings. -/
theorem setting?_foldl_assign (distinct : (assignments.map Assignment.field).Nodup)
    (state : DeviceState) (field : Field) : (assignments.foldl assign state).setting? field =
      ((assignments.find? fun assignment => assignment.field = field).map
        Assignment.setting).or (state.setting? field) := by
  rw [← foldl_learn_finding, setting?_foldl_learn _ (sets_findings assignments)
    (by simpa [Function.comp_def] using distinct), List.find?_map, Option.bind_map]
  simp only [Function.comp_def, Assignment.command_finding, Assignment.field_command,
    Assignment.setting?_command]
  cases assignments.find? fun assignment => assignment.field = field <;> rfl

theorem setting?_assigned (distinct : (assignments.map Assignment.field).Nodup) {field : Field}
    {setting : Setting} : (assignments.foldl assign {}).setting? field = some setting ↔
      ∃ assignment ∈ assignments, assignment.field = field ∧ assignment.setting = setting := by
  rw [← foldl_learn_finding, setting?_achieved (sets_findings assignments)
    (by simpa [Function.comp_def] using distinct)]
  simp

theorem Tidy.foldl_assign {state : DeviceState} (tidy : state.Tidy)
    (assignments : List Assignment) : (assignments.foldl assign state).Tidy := by
  rw [← foldl_learn_finding]
  exact Tidy.foldl_learn _ (sets_findings assignments) tidy

/-! ### The settings of a state -/

/-- The settings of a state, in the order in which they are applied. -/
def settings (state : DeviceState) : List Assignment :=
  state.poweredOn.toList.map .power ++
    (SignalKind.all.flatMap fun kind => (state.routes kind).map fun route =>
      .route kind route.1 route.2) ++
    (state.blanked.toList.map .blank ++
      (entriesOf state.volumes).map (fun entry => .level entry.1 entry.2) ++
      (entriesOf state.mutes).map fun entry => .mute entry.1 entry.2)

theorem command_settings (state : DeviceState) :
    state.settings.map Assignment.command = Plan.wanted state := by
  simp only [settings, Plan.wanted, Plan.flatten_changes, Plan.powerChanges, Plan.routings,
    Plan.blankChanges, Plan.volumeChanges, Plan.muteChanges, List.map_append, List.map_map,
    List.map_flatten, List.flatMap_def, List.append_assoc, Function.comp_def, Assignment.command]

theorem distinct_settings (state : DeviceState) :
    (state.settings.map Assignment.field).Nodup := by
  have distinct := Plan.distinct_wanted state
  rw [← command_settings, List.map_map] at distinct
  simpa [Function.comp_def] using distinct

theorem mem_settings {state : DeviceState} {assignment : Assignment} :
    assignment ∈ state.settings ↔
      state.setting? assignment.field = some assignment.setting := by
  have injective : Function.Injective Assignment.command := by
    intro a b same
    cases a <;> cases b <;> cases same <;> rfl
  rw [← List.mem_map_of_injective injective, command_settings, Plan.mem_wanted]
  simp

theorem exists_mem_settings {state : DeviceState} {field : Field} {setting : Setting}
    (isSet : state.setting? field = some setting) :
    ∃ assignment ∈ state.settings, assignment.field = field := by
  rcases Plan.exists_wanted isSet with ⟨command, rfl, sets⟩
  have wanted := Plan.mem_wanted.2 ⟨setting, sets, isSet⟩
  rw [← command_settings] at wanted
  rcases List.mem_map.1 wanted with ⟨assignment, member, rfl⟩
  exact ⟨assignment, member, assignment.field_command.symm⟩

/-- The state with the settings of another one laid over it, as far as they can be seen. -/
def overwrite (state layer : DeviceState) (visible : Field → Bool) : DeviceState :=
  (layer.settings.filter fun assignment => visible assignment.field).foldl assign state

theorem setting?_overwrite (state layer : DeviceState) (visible : Field → Bool) (field : Field) :
    (state.overwrite layer visible).setting? field =
      if visible field then (layer.setting? field).or (state.setting? field)
      else state.setting? field := by
  have distinct : ((layer.settings.filter fun assignment => visible assignment.field).map
      Assignment.field).Nodup := layer.distinct_settings.sublist (List.filter_sublist.map _)
  rw [overwrite, setting?_foldl_assign distinct]
  cases found : (layer.settings.filter fun assignment => visible assignment.field).find?
      fun assignment => assignment.field = field with
  | some assignment =>
      rcases List.mem_filter.1 (List.mem_of_find?_eq_some found) with ⟨member, isVisible⟩
      obtain rfl : assignment.field = field := by simpa using List.find?_some found
      rw [if_pos isVisible, mem_settings.1 member]
      rfl
  | none =>
      split
      · rename_i isVisible
        have absent : layer.setting? field = none := by
          apply Option.eq_none_iff_forall_ne_some.2
          intro setting isSet
          rcases exists_mem_settings isSet with ⟨assignment, member, rfl⟩
          exact List.find?_eq_none.1 found assignment (List.mem_filter.2 ⟨member, isVisible⟩)
            (by simp)
        rw [absent]
        rfl
      · rfl

theorem Tidy.overwrite {state : DeviceState} (tidy : state.Tidy) (layer : DeviceState)
    (visible : Field → Bool) : (state.overwrite layer visible).Tidy := tidy.foldl_assign _

/-! ### Tidy states -/

/-- Maps that are not empty are the same, or both not there, when they answer alike. -/
theorem eq_of_tidy {α : Type} {map other : Option (SortedMap String α)}
    (tidy : ∀ entries, map = some entries → entries.isEmpty = false)
    (tidy' : ∀ entries, other = some entries → entries.isEmpty = false)
    (same : ∀ key, (map.bind fun map => map.get? key) = other.bind fun map => map.get? key) :
    map = other := by
  have absent : ∀ {map : Option (SortedMap String α)},
      (∀ entries, map = some entries → entries.isEmpty = false) →
      (∀ key, (map.bind fun map => map.get? key) = none) → map = none := by
    intro map tidy nothing
    cases map with
    | none => rfl
    | some entries =>
        rcases SortedMap.isEmpty_eq_false_iff.1 (tidy entries rfl) with ⟨key, value, found⟩
        cases found.symm.trans (nothing key)
  cases map with
  | none => exact (absent tidy' fun key => (same key).symm).symm
  | some entries =>
      cases other with
      | none => exact absurd (absent tidy same) (by simp)
      | some entries' => exact congrArg some (SortedMap.ext_get? same)

/-- Feeds that feed something are the same, or both not there, when they feed the same. -/
theorem eq_of_fed {feed other : Option Feed}
    (fed : ∀ found, feed = some found → ∃ kind, (found.slot kind).isSome)
    (fed' : ∀ found, other = some found → ∃ kind, (found.slot kind).isSome)
    (same : ∀ kind, (feed.bind fun feed => feed.slot kind) =
      other.bind fun feed => feed.slot kind) : feed = other := by
  have absent : ∀ {feed : Option Feed},
      (∀ found, feed = some found → ∃ kind, (found.slot kind).isSome) →
      (∀ kind, (feed.bind fun feed => feed.slot kind) = none) → feed = none := by
    intro feed fed nothing
    cases feed with
    | none => rfl
    | some found =>
        rcases fed found rfl with ⟨kind, isFed⟩
        rw [show found.slot kind = none from nothing kind] at isFed
        cases isFed
  cases feed with
  | none => exact (absent fed' fun kind => (same kind).symm).symm
  | some found =>
      cases other with
      | none => exact absurd (absent fed same) (by simp)
      | some found' =>
          have audioVideo : found.audioVideo = found'.audioVideo := same .audioVideo
          have audio : found.audio = found'.audio := same .audio
          have video : found.video = found'.video := same .video
          cases found
          cases found'
          simp_all

/-- A tidy state is known by its settings. -/
theorem Tidy.eq_of_settings {state other : DeviceState} (tidy : state.Tidy) (tidy' : other.Tidy)
    (same : ∀ field, state.setting? field = other.setting? field) : state = other := by
  have flag : Function.Injective Setting.flag := fun _ _ same => Setting.flag.inj same
  have source : Function.Injective Setting.source := fun _ _ same => Setting.source.inj same
  have level : Function.Injective Setting.level := fun _ _ same => Setting.level.inj same
  have power : state.poweredOn = other.poweredOn := Option.map_injective flag (same .poweredOn)
  have blanked : state.blanked = other.blanked := Option.map_injective flag (same .blanked)
  have volumes : state.volumes = other.volumes := eq_of_tidy tidy.volumes tidy'.volumes
    fun block => Option.map_injective level (same (.volume block))
  have mutes : state.mutes = other.mutes := eq_of_tidy tidy.mutes tidy'.mutes
    fun block => Option.map_injective flag (same (.mute block))
  have inputs : state.inputs = other.inputs := by
    refine eq_of_tidy (fun inputs isInputs => (tidy.inputs inputs isInputs).1)
      (fun inputs isInputs => (tidy'.inputs inputs isInputs).1) fun output => ?_
    refine eq_of_fed (fun feed isFeed => ?_) (fun feed isFeed => ?_)
      fun kind => Option.map_injective source (same (.input output kind))
    · rcases Option.bind_eq_some_iff.1 isFeed with ⟨inputs, isInputs, found⟩
      exact (tidy.inputs inputs isInputs).2 output feed found
    · rcases Option.bind_eq_some_iff.1 isFeed with ⟨inputs, isInputs, found⟩
      exact (tidy'.inputs inputs isInputs).2 output feed found
  cases state
  cases other
  simp_all

end DeviceState

end AvControl

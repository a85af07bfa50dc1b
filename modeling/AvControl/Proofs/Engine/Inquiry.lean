import AvControl.Driver.Scripted
import AvControl.Proofs.Engine.Accord
import AvControl.Proofs.Engine.Completion
import AvControl.Proofs.Engine.Refusal
import AvControl.Proofs.Overwriting

/-!
# What is read of a device

A request for the state of a room asks each device once for every contract that the device offers.
What the getters return is what the answer holds: routes of all kinds are merged output by output,
levels and mute flags are taken over as they are, and an empty map counts as nothing. A getter that
fails is reported once, under the path of all that it would have read.
-/

namespace AvControl

namespace Command

/-- What a device is to be asked, given the contracts that it offers. -/
def IsGetter (config : DeviceConfig) (handle : Handle) : Command → Prop
  | getPower => handle.supports .power = true
  | getInputs kind => handle.supports (.input kind) = true
  | getBlank => handle.supports .blank = true
  | getVolumes blocks => handle.supports .volume = true ∧
      blocks = (config.ports.filter fun port => port.kind = "volume").map Port.name
  | getMutes blocks => handle.supports .mute = true ∧
      blocks = (config.ports.filter fun port => port.kind = "mute").map Port.name
  | _ => False

/-- The path of all that a getter reads. -/
def family : Command → String
  | getPower => "poweredOn"
  | getBlank => "blanked"
  | getInputs .audioVideo => "input.audioVideo"
  | getInputs .audio => "input.audio"
  | getInputs .video => "input.video"
  | getVolumes _ => "volumes"
  | getMutes _ => "mutes"
  | _ => ""

/-- A getter that returns an empty map has read nothing. -/
def ReadsNothing : (command : Command) → command.Result → Prop
  | getInputs _, routes => routes.isEmpty = true
  | getVolumes _, levels => levels.isEmpty = true
  | getMutes _, flags => flags.isEmpty = true
  | _, _ => False

end Command

namespace Utterance

/-- What a call has returned, among other things that were said. -/
def Returns (utterances : List Utterance) (command : Command) (result : command.Result) : Prop :=
  ∃ address, replied address command (.ok result) ∈ utterances

/-- The report of a getter that has failed. -/
def failure? (device : DeviceId) : Utterance → Option FieldReport
  | replied _ command (.error error) =>
    some { device, field := command.family, value := none, error := error.message }
  | _ => none

end Utterance

/-- A map that is not empty where it is there is what was returned, unless that was empty. -/
theorem eq_some_iff_of_returned {α : Type} {map : Option (SortedMap String α)}
    {returned : SortedMap String α → Prop}
    (tidy : ∀ entries, map = some entries → entries.isEmpty = false)
    (unique : ∀ a b, returned a → returned b → a = b)
    (same : ∀ key value, (map.bind fun map => map.get? key) = some value ↔
      ∃ entries, returned entries ∧ entries.get? key = some value)
    (entries : SortedMap String α) :
    map = some entries ↔ entries.isEmpty = false ∧ returned entries := by
  have isReturned : ∀ entries, map = some entries → returned entries := by
    rintro entries rfl
    rcases SortedMap.isEmpty_eq_false_iff.1 (tidy entries rfl) with ⟨key, value, found⟩
    rcases (same key value).1 found with ⟨other, isOther, -⟩
    have equal : entries = other := by
      refine SortedMap.ext_get? fun key => Option.ext fun value => (same key value).trans ?_
      constructor
      · rintro ⟨third, isThird, found⟩
        rwa [unique other third isOther isThird]
      · exact fun found => ⟨other, isOther, found⟩
    rwa [equal]
  constructor
  · exact fun isMap => ⟨tidy entries isMap, isReturned entries isMap⟩
  · rintro ⟨notEmpty, returns⟩
    rcases SortedMap.isEmpty_eq_false_iff.1 notEmpty with ⟨key, value, found⟩
    have isSome := (same key value).2 ⟨entries, returns, found⟩
    rcases Option.bind_eq_some_iff.1 isSome with ⟨other, isMap, -⟩
    rw [isMap, unique other entries (isReturned other isMap) returns]

/-- All that was said is about the getters of a device, each of which was called once. -/
structure Inquires (config : DeviceConfig) (handle : Handle) (utterances : List Utterance) :
    Prop where
  address : ∀ utterance ∈ utterances, utterance.address = config.address
  once : ∀ command : Command, command.IsGetter config handle → ∃ reaction reply,
    (utterances.filter fun utterance => utterance.command = command) =
      [.began config.address command reaction, .replied config.address command reply]
  nothingElse : ∀ utterance ∈ utterances, utterance.command.IsGetter config handle

/-- A state holds what getters returned, and nothing else. -/
structure DeviceState.Relates (state : DeviceState) (utterances : List Utterance) : Prop where
  power : ∀ on, state.poweredOn = some on ↔ Utterance.Returns utterances .getPower on
  blank : ∀ on, state.blanked = some on ↔ Utterance.Returns utterances .getBlank on
  routes : ∀ kind output input, (∃ inputs feed, state.inputs = some inputs ∧
      inputs.get? output = some feed ∧ feed.slot kind = some input) ↔
    ∃ routes : SortedMap String String, Utterance.Returns utterances (.getInputs kind) routes ∧
      routes.get? output = some input
  volumes : ∀ levels, state.volumes = some levels ↔
    levels.isEmpty = false ∧ ∃ blocks, Utterance.Returns utterances (.getVolumes blocks) levels
  mutes : ∀ flags, state.mutes = some flags ↔
    flags.isEmpty = false ∧ ∃ blocks, Utterance.Returns utterances (.getMutes blocks) flags
  /-- No map is empty, and no output is named without any feed. -/
  tidy : state.Tidy

/-- A response holds of a device what its getters returned, and reports those that failed. -/
structure RoomResponse.Relates (response : RoomResponse DeviceState) (device : DeviceId)
    (utterances : List Utterance) : Prop where
  state : ((response.devices.get? device).getD {}).Relates utterances
  missing : response.devices.get? device = none ↔ ∀ command result,
    Utterance.Returns utterances command result → command.ReadsNothing result
  failures : (response.errors.filter fun report => report.device = device).Perm
    (utterances.filterMap (Utterance.failure? device))

namespace Plan

variable {config : DeviceConfig} {handle : Handle}

/-- The commands of a plan to read are the getters. -/
theorem mem_readings {command : Command} {device : DeviceId} :
    command ∈ (Work.read.plan device config handle).commands ↔ command.IsGetter config handle := by
  have blocks : ∀ kind, config.blocks kind =
      (config.ports.filter fun port => port.kind = kind).map Port.name := by
    intro kind
    simp [DeviceConfig.blocks, beq_eq_decide]
  have volumes := blocks "volume"
  have mutes := blocks "mute"
  simp only [Work.plan, commands_offered, List.mem_filter, readings, SignalKind.all, List.map_cons,
    List.map_nil, List.cons_append, List.nil_append, List.mem_cons, List.not_mem_nil, or_false,
    Port.volumeKind, Port.muteKind, volumes, mutes]
  cases command with
  | getInputs kind => cases kind <;> simp [Command.IsGetter, Command.capability]
  | _ => simp [Command.IsGetter, Command.capability, and_comm]

theorem nodup_readings (config : DeviceConfig) (handle : Handle) (device : DeviceId) :
    (Work.read.plan device config handle).commands.Nodup := by
  simp only [Work.plan, commands_offered]
  exact (distinct_readings config).of_map.filter _

end Plan

namespace Utterance

variable {utterances : List Utterance}

/-- What was taken down are the results of calls. -/
theorem mem_findings {finding : Finding} :
    finding ∈ (utterances.filterMap deal?).filterMap Deal.finding? ↔
      Returns utterances finding.command finding.result := by
  simp only [List.mem_filterMap]
  constructor
  · rintro ⟨deal, ⟨utterance, member, isDeal⟩, found⟩
    cases utterance with
    | began => cases isDeal
    | replied address command reply =>
        cases reply with
        | crash => cases isDeal
        | error =>
            obtain rfl := Option.some.inj isDeal
            cases found
        | ok result =>
            obtain rfl := Option.some.inj isDeal
            obtain rfl := Option.some.inj found
            exact ⟨address, member⟩
  · rintro ⟨address, member⟩
    exact ⟨⟨finding.command, .ok finding.result⟩, ⟨_, member, rfl⟩, rfl⟩

/-- Whoever is asked for a row of calls is asked one after another. -/
theorem eq_of_beats {command : Command}
    (same : utterances.map beat = [.began command, .ended command]) :
    ∃ address reaction other reply,
      utterances = [began address command reaction, replied other command reply] := by
  rcases utterances with _ | ⟨first, _ | ⟨second, _ | ⟨third, rest⟩⟩⟩
  · cases same
  · simp at same
  · cases first <;> cases second <;> cases same
    exact ⟨_, _, _, _, rfl⟩
  · simp at same

end Utterance

namespace Command

variable {config : DeviceConfig} {handle : Handle} {command : Command}

theorem path_of_getter (getter : command.IsGetter config handle) :
    command.field.path = command.family := by
  cases command with
  | getPower | getBlank | getVolumes | getMutes => rfl
  | getInputs kind => cases kind <;> rfl
  | setPower | setInput | setBlank | setVolume | setMute | healthy | info => exact getter.elim

theorem requested_of_getter (getter : command.IsGetter config handle) :
    command.requested = none := by
  cases command with
  | getPower | getInputs | getBlank | getVolumes | getMutes => rfl
  | setPower | setInput | setBlank | setVolume | setMute | healthy | info => exact getter.elim

/-- A getter sets no field exactly when it has read nothing. -/
theorem assignments_of_getter (getter : command.IsGetter config handle)
    (result : command.Result) :
    Finding.assignments ⟨command, result⟩ = [] ↔ command.ReadsNothing result := by
  cases command with
  | getPower | getBlank => simp [Finding.assignments, ReadsNothing]
  | getInputs | getVolumes | getMutes =>
      simp [Finding.assignments, ReadsNothing, SortedMap.isEmpty]
  | setPower | setInput | setBlank | setVolume | setMute | healthy | info => exact getter.elim

end Command

namespace Inquires

variable {config : DeviceConfig} {handle : Handle} {utterances : List Utterance}

/-- To play a plan to read is to inquire. -/
theorem of_plays {device : DeviceId}
    (address : ∀ utterance ∈ utterances, utterance.address = config.address)
    (plays : Plays [{ rest := (Work.read.plan device config handle).lead }]
      (Work.read.plan device config handle).lanes (utterances.map Utterance.beat)) :
    Inquires config handle utterances := by
  refine ⟨address, fun command getter => ?_, fun utterance member => ?_⟩
  · have once := plays.once (Plan.nodup_readings config handle device)
      (Plan.mem_readings.2 getter)
    rw [List.filter_map] at once
    simp only [Function.comp_def, Utterance.command_beat] at once
    rcases Utterance.eq_of_beats once with ⟨_, reaction, _, reply, same⟩
    have here : ∀ utterance ∈ utterances.filter (fun utterance => utterance.command = command),
        utterance.address = config.address :=
      fun utterance member => address utterance (List.mem_of_mem_filter member)
    rw [same] at here
    obtain rfl := here _ List.mem_cons_self
    obtain rfl := here _ (List.mem_cons_of_mem _ List.mem_cons_self)
    exact ⟨reaction, reply, same⟩
  · have inPlan := plays.mem_commands (List.mem_map_of_mem member)
    rw [Utterance.command_beat] at inPlan
    exact Plan.mem_readings.1 inPlan

variable (inquires : Inquires config handle utterances)

include inquires

theorem getter {command : Command} {result : command.Result}
    (returns : Utterance.Returns utterances command result) : command.IsGetter config handle := by
  rcases returns with ⟨address, member⟩
  exact inquires.nothingElse _ member

/-- A getter returns once. -/
theorem unique {command : Command} {result other : command.Result}
    (returns : Utterance.Returns utterances command result)
    (returns' : Utterance.Returns utterances command other) : result = other := by
  rcases inquires.once command (inquires.getter returns) with ⟨reaction, reply, same⟩
  have isReply : ∀ {result : command.Result}, Utterance.Returns utterances command result →
      reply = .ok result := by
    rintro result ⟨address, member⟩
    have inFilter : .replied address command (.ok result) ∈ utterances.filter
        fun utterance => utterance.command = command :=
      List.mem_filter.2 ⟨member, decide_eq_true rfl⟩
    rw [same] at inFilter
    simp only [List.mem_cons, reduceCtorEq, List.not_mem_nil, or_false, false_or] at inFilter
    cases inFilter
    rfl
  exact Reply.ok.inj ((isReply returns).symm.trans (isReply returns'))

/-! ### What the getters have set -/

/-- A field is set by what has been returned. -/
def Sets (utterances : List Utterance) (field : Field) (setting : Setting) : Prop :=
  ∃ command result, Utterance.Returns utterances command result ∧
    ∃ assignment ∈ Finding.assignments ⟨command, result⟩,
      assignment.field = field ∧ assignment.setting = setting

/-- What has set a field is a getter that writes this field. -/
theorem origin {field : Field} {setting : Setting} (sets : Sets utterances field setting) :
    ∃ command result, command.IsGetter config handle ∧ command.Writes field ∧
      Utterance.Returns utterances command result ∧
        ∃ assignment ∈ Finding.assignments ⟨command, result⟩,
          assignment.field = field ∧ assignment.setting = setting := by
  rcases sets with ⟨command, result, returns, assignment, member, rfl, rfl⟩
  exact ⟨command, result, inquires.getter returns, Finding.writes_of_mem member, returns,
    assignment, member, rfl, rfl⟩

theorem sets_power {on : Bool} :
    Sets utterances .poweredOn (.flag on) ↔ Utterance.Returns utterances .getPower on := by
  constructor
  · intro sets
    rcases inquires.origin sets with ⟨command, result, getter, writes, returns, assigned⟩
    cases command with
    | getPower =>
        rcases assigned with ⟨assignment, member, -, isSetting⟩
        obtain rfl := List.mem_singleton.1 member
        obtain rfl := Setting.flag.inj isSetting
        exact returns
    | setPower => exact getter.elim
    | _ => simp [Command.Writes] at writes
  · intro returns
    exact ⟨.getPower, on, returns, .power on, List.mem_singleton_self _, rfl, rfl⟩

theorem sets_blank {on : Bool} :
    Sets utterances .blanked (.flag on) ↔ Utterance.Returns utterances .getBlank on := by
  constructor
  · intro sets
    rcases inquires.origin sets with ⟨command, result, getter, writes, returns, assigned⟩
    cases command with
    | getBlank =>
        rcases assigned with ⟨assignment, member, -, isSetting⟩
        obtain rfl := List.mem_singleton.1 member
        obtain rfl := Setting.flag.inj isSetting
        exact returns
    | setBlank => exact getter.elim
    | _ => simp [Command.Writes] at writes
  · intro returns
    exact ⟨.getBlank, on, returns, .blank on, List.mem_singleton_self _, rfl, rfl⟩

theorem sets_route {kind : SignalKind} {output input : String} :
    Sets utterances (.input output kind) (.source input) ↔
      ∃ routes : SortedMap String String, Utterance.Returns utterances (.getInputs kind) routes ∧
        routes.get? output = some input := by
  constructor
  · intro sets
    rcases inquires.origin sets with ⟨command, result, getter, writes, returns, assigned⟩
    cases command with
    | getInputs kind' =>
        rcases assigned with ⟨assignment, member, isField, isSetting⟩
        rcases List.mem_map.1 member with ⟨⟨output', input'⟩, isEntry, rfl⟩
        obtain ⟨rfl, rfl⟩ := Field.input.inj isField
        obtain rfl := Setting.source.inj isSetting
        exact ⟨result, returns, SortedMap.mem_entries_iff.1 isEntry⟩
    | setInput => exact getter.elim
    | _ => simp [Command.Writes] at writes
  · rintro ⟨routes, returns, found⟩
    refine ⟨.getInputs kind, routes, returns, .route kind output input, ?_, rfl, rfl⟩
    exact List.mem_map.2 ⟨_, SortedMap.mem_entries_iff.2 found, rfl⟩

theorem sets_level {block : String} {value : Int32} :
    Sets utterances (.volume block) (.level value) ↔
      ∃ levels : SortedMap String Int32,
        (∃ blocks, Utterance.Returns utterances (.getVolumes blocks) levels) ∧
          levels.get? block = some value := by
  constructor
  · intro sets
    rcases inquires.origin sets with ⟨command, result, getter, writes, returns, assigned⟩
    cases command with
    | getVolumes blocks =>
        rcases assigned with ⟨assignment, member, isField, isSetting⟩
        rcases List.mem_map.1 member with ⟨⟨block', value'⟩, isEntry, rfl⟩
        obtain rfl := Field.volume.inj isField
        obtain rfl := Setting.level.inj isSetting
        exact ⟨result, ⟨blocks, returns⟩, SortedMap.mem_entries_iff.1 isEntry⟩
    | setVolume => exact getter.elim
    | _ => simp [Command.Writes] at writes
  · rintro ⟨levels, ⟨blocks, returns⟩, found⟩
    refine ⟨.getVolumes blocks, levels, returns, .level block value, ?_, rfl, rfl⟩
    exact List.mem_map.2 ⟨_, SortedMap.mem_entries_iff.2 found, rfl⟩

theorem sets_mute {block : String} {muted : Bool} :
    Sets utterances (.mute block) (.flag muted) ↔
      ∃ flags : SortedMap String Bool,
        (∃ blocks, Utterance.Returns utterances (.getMutes blocks) flags) ∧
          flags.get? block = some muted := by
  constructor
  · intro sets
    rcases inquires.origin sets with ⟨command, result, getter, writes, returns, assigned⟩
    cases command with
    | getMutes blocks =>
        rcases assigned with ⟨assignment, member, isField, isSetting⟩
        rcases List.mem_map.1 member with ⟨⟨block', muted'⟩, isEntry, rfl⟩
        obtain rfl := Field.mute.inj isField
        obtain rfl := Setting.flag.inj isSetting
        exact ⟨result, ⟨blocks, returns⟩, SortedMap.mem_entries_iff.1 isEntry⟩
    | setMute => exact getter.elim
    | _ => simp [Command.Writes] at writes
  · rintro ⟨flags, ⟨blocks, returns⟩, found⟩
    refine ⟨.getMutes blocks, flags, returns, .mute block muted, ?_, rfl, rfl⟩
    exact List.mem_map.2 ⟨_, SortedMap.mem_entries_iff.2 found, rfl⟩

/-- A state that holds what has been set relates what was returned. -/
theorem relates {state : DeviceState} (tidy : state.Tidy)
    (sets : ∀ {field setting}, state.setting? field = some setting ↔
      Sets utterances field setting) : state.Relates utterances where
  power on := by
    rw [← inquires.sets_power, ← sets]
    simp [DeviceState.setting?]
  blank on := by
    rw [← inquires.sets_blank, ← sets]
    simp [DeviceState.setting?]
  routes kind output input := by
    rw [← inquires.sets_route, ← sets]
    simp only [DeviceState.setting?, Option.map_eq_some_iff, Setting.source.injEq,
      exists_eq_right, Option.bind_eq_some_iff]
    constructor
    · rintro ⟨inputs, feed, isInputs, isFeed, isSlot⟩
      exact ⟨feed, ⟨inputs, isInputs, isFeed⟩, isSlot⟩
    · rintro ⟨feed, ⟨inputs, isInputs, isFeed⟩, isSlot⟩
      exact ⟨inputs, feed, isInputs, isFeed, isSlot⟩
  volumes := by
    refine eq_some_iff_of_returned tidy.volumes ?_ fun block value => ?_
    · rintro a b ⟨blocks, first⟩ ⟨blocks', second⟩
      obtain rfl : blocks = blocks' :=
        (inquires.getter first).2.trans (inquires.getter second).2.symm
      exact inquires.unique first second
    · rw [← inquires.sets_level, ← sets]
      simp only [DeviceState.setting?, Option.map_eq_some_iff, Setting.level.injEq, exists_eq_right]
  mutes := by
    refine eq_some_iff_of_returned tidy.mutes ?_ fun block muted => ?_
    · rintro a b ⟨blocks, first⟩ ⟨blocks', second⟩
      obtain rfl : blocks = blocks' :=
        (inquires.getter first).2.trans (inquires.getter second).2.symm
      exact inquires.unique first second
    · rw [← inquires.sets_mute, ← sets]
      simp only [DeviceState.setting?, Option.map_eq_some_iff, Setting.flag.injEq, exists_eq_right]
  tidy := tidy

/-- Nothing is set exactly when nothing has been read. -/
theorem sets_nothing : (∀ field setting, ¬Sets utterances field setting) ↔ ∀ command result,
    Utterance.Returns utterances command result → command.ReadsNothing result := by
  constructor
  · intro nothing command result returns
    rw [← Command.assignments_of_getter (inquires.getter returns)]
    refine List.eq_nil_iff_forall_not_mem.2 fun assignment member => ?_
    exact nothing _ _ ⟨command, result, returns, assignment, member, rfl, rfl⟩
  · rintro silent field setting ⟨command, result, returns, assignment, member, -, -⟩
    have nothing := silent command result returns
    rw [← Command.assignments_of_getter (inquires.getter returns)] at nothing
    rw [nothing] at member
    cases member

/-- What was said to have failed is reported. -/
theorem reports_eq (device : DeviceId) :
    ((utterances.filterMap Utterance.deal?).filterMap fun deal => deal.report? device) =
      utterances.filterMap (Utterance.failure? device) := by
  rw [List.filterMap_filterMap]
  refine List.filterMap_congr fun utterance member => ?_
  have getter := inquires.nothingElse utterance member
  cases utterance with
  | began => rfl
  | replied address command reply =>
      cases reply with
      | ok | crash => rfl
      | error error =>
          have getter : command.IsGetter config handle := getter
          have report : command.report device (.driver error) =
              { device, field := command.family, value := none, error := error.message } := by
            rw [Command.report, Command.path_of_getter getter, Command.requested_of_getter getter]
            rfl
          exact congrArg some report

omit inquires in
/-- Findings make up what they set. -/
theorem setting?_learnt {findings : List Finding}
    (found : (utterances.filterMap Utterance.deal?).filterMap Deal.finding? = findings)
    (apart : (findings.map Finding.command).Pairwise Command.Apart) {field : Field}
    {setting : Setting} : (findings.foldl DeviceState.learn {}).setting? field = some setting ↔
      Sets utterances field setting := by
  rw [DeviceState.foldl_learn_eq,
    DeviceState.setting?_assigned (DeviceState.distinct_of_apart apart)]
  constructor
  · rintro ⟨assignment, member, isField, isSetting⟩
    rcases List.mem_flatMap.1 member with ⟨finding, isFinding, isAssignment⟩
    rw [← found] at isFinding
    exact ⟨finding.command, finding.result, Utterance.mem_findings.1 isFinding, assignment,
      isAssignment, isField, isSetting⟩
  · rintro ⟨command, result, returns, assignment, member, isField, isSetting⟩
    refine ⟨assignment, List.mem_flatMap.2 ⟨⟨command, result⟩, ?_, member⟩, isField, isSetting⟩
    rw [← found]
    exact Utterance.mem_findings.2 returns

/-- A response that says of a device what was taken down relates what was returned. -/
theorem relates_response {response : RoomResponse DeviceState} {device : DeviceId}
    {outcome : Outcome}
    (findings : outcome.findings =
      (utterances.filterMap Utterance.deal?).filterMap Deal.finding?)
    (reports : outcome.reports =
      (utterances.filterMap Utterance.deal?).filterMap fun deal => deal.report? device)
    (apart : (outcome.findings.map Finding.command).Pairwise Command.Apart)
    (tells : Answer.Tells ⟨.get, response⟩ device outcome) :
    response.Relates device utterances := by
  have sets := @setting?_learnt utterances _ findings.symm apart
  have tidy : (outcome.findings.foldl DeviceState.learn {}).Tidy := by
    rw [DeviceState.foldl_learn_eq]
    exact DeviceState.tidy_empty.foldl_assign _
  rcases Prod.mk.inj tells with ⟨data, errors⟩
  have data : response.devices.get? device =
      DeviceState.ofFindings? outcome.findings := data
  rw [DeviceState.ofFindings?] at data
  generalize outcome.findings.foldl DeviceState.learn {} = state at sets tidy data
  refine ⟨?_, ?_, ?_⟩
  · have shown : (response.devices.get? device).getD {} = state := by
      rw [data]
      split
      · rename_i empty
        refine DeviceState.tidy_empty.eq_of_settings tidy fun field => ?_
        rw [DeviceState.setting?_empty, DeviceState.setting?_of_isEmpty empty]
      · rfl
    rw [shown]
    exact inquires.relates tidy sets
  · have missing : response.devices.get? device = none ↔ state.isEmpty = true := by simp [data]
    rw [missing, tidy.isEmpty_iff, ← inquires.sets_nothing]
    simp only [Option.eq_none_iff_forall_ne_some, ne_eq, sets]
  · rw [← inquires.reports_eq, ← reports]
    have isSorted : (response.errors.filter fun report => report.device = device) =
        outcome.reports.mergeSort fun a b => (a.compare b).isLE := errors
    rw [isSorted]
    exact List.mergeSort_perm _ _

end Inquires

namespace World

variable {δ : Type} [Driver δ]

/--
Whatever other requests and devices do, and whatever getters return: a request for the state of a
room is answered, unless its context ends or somebody hangs or breaks down. Every device whose
opening succeeds was asked by then for each contract that it offers, once, and the answer holds what
was returned and what has failed.
-/
theorem get_reports {world : World (Transcribed δ)} {requests : List RoomRequest}
    {request : RoomRequest} {session : Session} {i : Nat}
    (prepared : world.prepare request = .ok session)
    (isSession : (world.engage requests).sessions[i]? = some session)
    (isGet : request.operation = .get)
    (live : (world.engage requests).LiveUntilAnswered i request.context)
    (unhindered : ∀ device ∈ request.room.devices.keys,
      (world.engage requests).Unhindered i device) :
    ∃ response : RoomResponse DeviceState,
      (world.engage requests).answer? i (world.engage requests).bound = some ⟨.get, response⟩ ∧
      ∀ device config handle, request.room.devices.get? device = some config →
        (world.engage requests).openedWith i device = some handle →
          Inquires config handle ((world.engage requests).utterances i device) ∧
            response.Relates device ((world.engage requests).utterances i device) := by
  have ready := ready_of_prepare prepared
  have unhinderedTasks : ∀ task ∈ session.tasks, (world.engage requests).Unhindered i
      task.device := by
    intro task member
    have isTarget := ready.targets member
    rw [ready.operation, isGet] at isTarget
    rcases List.mem_map.1 isTarget with ⟨device, isDevice, same⟩
    rw [← (Prod.mk.inj same).1]
    exact unhindered device isDevice
  rcases ready.answers isSession live unhinderedTasks with
    ⟨⟨operation, response⟩, isAnswer, isOperation, tells⟩
  obtain rfl : operation = .get := isOperation.trans isGet
  refine ⟨response, isAnswer, fun device config handle isConfig opens => ?_⟩
  have isTarget : (device, Work.read) ∈ request.operation.targets request.room := by
    rw [isGet]
    exact List.mem_map.2 ⟨device, SortedMap.mem_keys_iff.2 ⟨config, isConfig⟩, rfl⟩
  rcases ready.task isTarget with ⟨task, member, assigned⟩
  obtain rfl : task.device = device := assigned.device
  obtain rfl : task.config = config := Option.some.inj (assigned.config.symm.trans isConfig)
  rcases tells task member with ⟨outcome, concludes, settled, tells⟩
  rcases concludes with ⟨address, reports⟩
  rw [ready.fresh member] at reports
  rcases reports handle opens with ⟨plays, isOutcome⟩
  obtain rfl := List.singleton_inj.1 isOutcome
  rw [assigned.work] at plays
  have inquires := Inquires.of_plays address plays
  refine ⟨inquires, inquires.relates_response (Task.findings_takeDown ..) ?_ settled.apart tells⟩
  rw [Task.reports_takeDown, assigned.work]
  rfl

/-- A lab whose display has a level, that of a microphone. -/
def labWithMic : RoomConfig where
  id := ⟨"LAB-2"⟩
  devices := SortedMap.empty.insert ⟨"D1"⟩
    { address := "lab", driver := "display", ports := [{ name := "mic", kind := "volume" }] }

/-- A script by which the device in the lab takes its time and does not know what it shows. -/
def labReadings : Script where
  devices := SortedMap.empty.insert "lab"
    { initial :=
        { power := true
          audioVideo := SortedMap.empty.insert "" "hdmi2"
          audio := SortedMap.empty.insert "" "pc"
          volumes := SortedMap.empty.insert "mic" 40 }
      rules := (SortedMap.empty.insert "get_power" { delay := 3 }).insert
        "get_video_inputs" { fails := some "no signal" } }

theorem get_reports_lab :
    let request : RoomRequest :=
      { operation := .get, room := labWithMic, context := { deadline := some 9, token := 0 } }
    let world := labWorld ({ driver := { script := labReadings } } : Transcribed ScriptedDriver)
    ∃ session config handle response, world.prepare request = .ok session ∧
      (world.engage [request]).sessions[0]? = some session ∧
      (world.engage [request]).LiveUntilAnswered 0 request.context ∧
      (∀ device ∈ labWithMic.devices.keys, (world.engage [request]).Unhindered 0 device) ∧
      labWithMic.devices.get? ⟨"D1"⟩ = some config ∧
      (world.engage [request]).openedWith 0 ⟨"D1"⟩ = some handle ∧
      (world.engage [request]).answer? 0 (world.engage [request]).bound =
        some ⟨.get, response⟩ ∧
      Inquires config handle ((world.engage [request]).utterances 0 ⟨"D1"⟩) ∧
      response.Relates ⟨"D1"⟩ ((world.engage [request]).utterances 0 ⟨"D1"⟩) := by
  intro request world
  have isOk : (world.prepare request).toOption.isSome = true := by decide +kernel
  have isOpen : ((world.engage [request]).openedWith 0 ⟨"D1"⟩).isSome = true := by decide +kernel
  have liveAtEnd : ((world.engage [request]).complete none).world.interruption? request.context =
      none := by decide +kernel
  have unhindered : ∀ device ∈ labWithMic.devices.keys,
      (∃ look ∈ (world.engage [request]).looks 0 device, look.opening?.isSome = true) ∧
        ∀ utterance ∈ (world.engage [request]).utterances 0 device, utterance.EndsWell := by
    decide +kernel
  rcases exists_of_isSome isOk with ⟨session, prepared⟩
  rcases Option.isSome_iff_exists.1 isOpen with ⟨handle, opens⟩
  have isSession : (world.engage [request]).sessions[0]? = some session := by
    simp [engage, prepared, Except.toOption]
  have live := Run.liveUntilAnswered_of_complete (world.complete_ends [request] none) liveAtEnd 0
  have free := fun device isDevice => Run.Unhindered.mk (unhindered device isDevice).1
    (unhindered device isDevice).2
  rcases get_reports prepared isSession rfl live free with ⟨response, isAnswer, reports⟩
  exact ⟨session, _, handle, response, prepared, isSession, live, free, rfl, opens, isAnswer,
    reports ⟨"D1"⟩ _ handle rfl opens⟩

end World

end AvControl

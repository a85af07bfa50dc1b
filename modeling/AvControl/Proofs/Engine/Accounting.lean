import AvControl.Proofs.Engine.Preparation
import AvControl.Proofs.Engine.Settlement
import AvControl.Proofs.Setting
import AvControl.Virtual.Driver

/-!
# The account of a desired state

Applying a state to a device leaves nothing out and says nothing twice: either the device as a whole
is reported once, or every setting that was wanted is echoed exactly as it was wanted or reported
with its path and its value, and nothing else is.
-/

namespace AvControl

namespace Deal

/-- The command of a deal and its error, if it failed. -/
def failure? (deal : Deal) : Option (Command × FieldError) :=
  match deal.result with
  | .ok _ => none
  | .error error => some (deal.command, error)

theorem report?_eq (deal : Deal) (device : DeviceId) :
    deal.report? device = deal.failure?.map fun failure => failure.1.report device failure.2 := by
  rcases deal with ⟨command, _ | _⟩ <;> rfl

/-- Every deal is a failure or a finding. -/
theorem perm_commands (deals : List Deal) :
    ((deals.filterMap failure?).map Prod.fst ++ (deals.filterMap finding?).map Finding.command).Perm
      (deals.map command) := by
  induction deals with
  | nil => simp
  | cons deal rest ih =>
      rcases deal with ⟨command, error | result⟩
      · exact ih.cons command
      · exact List.perm_middle.trans (ih.cons command)

end Deal

namespace Plan

/-- A command is refused beforehand or sent. -/
theorem perm_accepted (config : DeviceConfig) (handle : Handle) (commands : List Command) :
    ((commands.filterMap fun command => (refusal? config handle command).map (command, ·)).map
      Prod.fst ++ accepted config handle commands).Perm commands := by
  induction commands with
  | nil => simp [accepted]
  | cons command rest ih =>
      cases refused : refusal? config handle command with
      | some error => simpa [accepted, refused] using ih
      | none =>
          have sent : accepted config handle (command :: rest) =
              command :: accepted config handle rest := by simp [accepted, refused]
          rw [sent, List.filterMap_cons_none (by simp [refused])]
          exact List.perm_middle.trans (ih.cons command)

end Plan

namespace Task

/--
The account of a settled task that applies a state: every command that is wanted has failed or
succeeded.
-/
theorem Settled.split {task : Task} {outcome : Outcome} {desired : DeviceState}
    (settled : task.Settled outcome) (applies : task.work = .apply desired) :
    (∃ text, outcome = .ofDevice task.device text) ∨ ∃ failures : List (Command × FieldError),
      outcome.reports = failures.map (fun failure => failure.1.report task.device failure.2) ∧
      (failures.map Prod.fst ++ outcome.findings.map Finding.command).Perm
        (Plan.wanted desired) := by
  rcases settled with ⟨excuse, rfl⟩ | ⟨handle, deals, findings, reports, all⟩
  · exact Or.inl ⟨excuse.text, rfl⟩
  · refine Or.inr ⟨(Plan.wanted desired).filterMap (fun command =>
      (Plan.refusal? task.config handle command).map (command, ·)) ++
        deals.filterMap Deal.failure?, ?_, ?_⟩
    · have refused : (task.work.plan task.device task.config handle).refused =
          Plan.refusals task.device task.config handle (Plan.wanted desired) := by
        rw [applies]
        rfl
      rw [reports, refused, Plan.refusals, List.map_append, List.map_filterMap,
        List.map_filterMap]
      simp only [Deal.report?_eq, Option.map_map, Function.comp_def]
    · rw [applies, Plan.commands_plan, List.append_nil] at all
      rw [findings, List.map_append, List.append_assoc]
      exact (((Deal.perm_commands deals).trans all).append_left _).trans
        (Plan.perm_accepted task.config handle _)

end Task

/-- Nothing is said about a device but one thing about the whole. -/
def LeftOut {α : Type} (data : Option α) (errors : List FieldReport) : Prop :=
  data = none ∧ ∃ error, errors = [error] ∧ error.field = ""

/-- Every setting that was wanted of a device is either echoed or reported, and nothing else is. -/
structure Accounted (desired : DeviceState) (data : Option DeviceState)
    (errors : List FieldReport) : Prop where
  once : ∀ field setting, desired.setting? field = some setting →
    Xor
      ((data.getD {}).setting? field = some setting ∧ ∀ error ∈ errors, error.field ≠ field.path)
      ((data.getD {}).setting? field = none ∧
        ∃ error, (errors.filter fun error => error.field = field.path) = [error] ∧
          error.value = some setting.json)
  echoed : ∀ field setting, (data.getD {}).setting? field = some setting →
    desired.setting? field = some setting
  reported : ∀ error ∈ errors, ∃ field setting, desired.setting? field = some setting ∧
    error.field = field.path
  silent : data = none ↔ ∀ field, (data.getD {}).setting? field = none
  tidy : ∀ state, data = some state → state.Tidy

theorem not_leftOut_of_accounted {desired : DeviceState} {data : Option DeviceState}
    {errors : List FieldReport} (accounted : Accounted desired data errors) :
    ¬LeftOut data errors := by
  rintro ⟨-, error, rfl, noField⟩
  rcases accounted.reported error (by simp) with ⟨field, setting, isSet, isPath⟩
  exact Field.path_ne_empty (Field.isAtomic_of_setting isSet) (isPath.symm.trans noField)

theorem setting?_ofFindings (findings : List Finding) (field : Field) :
    ((DeviceState.ofFindings? findings).getD {}).setting? field =
      (findings.foldl DeviceState.learn {}).setting? field := by
  simp only [DeviceState.ofFindings?]
  split
  · rename_i empty
    rw [DeviceState.setting?_of_isEmpty empty]
    cases field <;> rfl
  · rfl

/-- Commands that have failed or succeeded, one for each wanted setting. -/
structure Dealt (desired : DeviceState) (failures : List (Command × FieldError))
    (findings : List Finding) : Prop where
  wanted : ∀ command, command ∈ failures.map Prod.fst ++ findings.map Finding.command ↔
    ∃ setting, command.setting? = some setting ∧ desired.setting? command.field = some setting
  distinctFailures : (failures.map fun failure => failure.1.field).Nodup
  distinctFindings : (findings.map fun finding => finding.command.field).Nodup
  apart : ∀ failure ∈ failures, ∀ finding ∈ findings, failure.1.field ≠ finding.command.field

namespace Dealt

variable {desired : DeviceState} {failures : List (Command × FieldError)} {findings : List Finding}

theorem of_perm
    (all : (failures.map Prod.fst ++ findings.map Finding.command).Perm (Plan.wanted desired)) :
    Dealt desired failures findings := by
  have distinct := (all.map Command.field).nodup_iff.2 (Plan.distinct_wanted desired)
  rw [List.map_append, List.map_map, List.map_map, List.nodup_append] at distinct
  rcases distinct with ⟨distinctFailures, distinctFindings, apart⟩
  refine ⟨?_, distinctFailures, distinctFindings, ?_⟩
  · intro command
    exact all.mem_iff.trans Plan.mem_wanted
  · intro failure isFailure finding isFinding
    exact apart _ (List.mem_map.2 ⟨failure, isFailure, rfl⟩) _
      (List.mem_map.2 ⟨finding, isFinding, rfl⟩)

theorem failed (dealt : Dealt desired failures findings) {failure : Command × FieldError}
    (member : failure ∈ failures) : ∃ setting, failure.1.setting? = some setting ∧
      desired.setting? failure.1.field = some setting :=
  (dealt.wanted failure.1).1 (List.mem_append_left _ (List.mem_map.2 ⟨failure, member, rfl⟩))

theorem found (dealt : Dealt desired failures findings) {finding : Finding}
    (member : finding ∈ findings) : ∃ setting, finding.command.setting? = some setting ∧
      desired.setting? finding.command.field = some setting :=
  (dealt.wanted finding.command).1
    (List.mem_append_right _ (List.mem_map.2 ⟨finding, member, rfl⟩))

theorem sets (dealt : Dealt desired failures findings) :
    ∀ finding ∈ findings, finding.command.setting?.isSome = true := by
  intro finding member
  rcases dealt.found member with ⟨setting, isSet, -⟩
  simp [isSet]

/-- The settings that are echoed are those of the commands that have succeeded. -/
theorem achieved (dealt : Dealt desired failures findings) {field : Field} {setting : Setting} :
    ((DeviceState.ofFindings? findings).getD {}).setting? field = some setting ↔
      ∃ finding ∈ findings, finding.command.field = field ∧
        finding.command.setting? = some setting := by
  rw [setting?_ofFindings]
  exact DeviceState.setting?_achieved dealt.sets dealt.distinctFindings

theorem notEchoed (dealt : Dealt desired failures findings) {failure : Command × FieldError}
    (isFailure : failure ∈ failures) :
    ((DeviceState.ofFindings? findings).getD {}).setting? failure.1.field = none := by
  apply Option.eq_none_iff_forall_ne_some.2
  intro setting isEchoed
  rcases dealt.achieved.1 isEchoed with ⟨finding, isFinding, sameField, -⟩
  exact dealt.apart failure isFailure finding isFinding sameField.symm

variable {device : DeviceId} {errors : List FieldReport}

/-- A command that has failed is reported once. -/
theorem reportedOnce (dealt : Dealt desired failures findings)
    (reports : errors.Perm (failures.map fun failure => failure.1.report device failure.2))
    {failure : Command × FieldError} (isFailure : failure ∈ failures) :
    (errors.filter fun error => error.field = failure.1.field.path) =
      [failure.1.report device failure.2] := by
  have samePath : ∀ other ∈ failures,
      decide ((other.1.report device other.2).field = failure.1.field.path) =
        decide (other.1.field = failure.1.field) :=
    fun _ _ => decide_eq_decide.2 Field.path_injective.eq_iff
  apply List.perm_singleton.1
  refine (reports.filter _).trans ?_
  rw [List.filter_map, Function.comp_def, List.filter_congr samePath,
    filter_eq_singleton (fun failure => failure.1.field) dealt.distinctFailures isFailure]
  exact .refl _

/-- A command that has succeeded is not reported. -/
theorem notReported (dealt : Dealt desired failures findings)
    (reports : errors.Perm (failures.map fun failure => failure.1.report device failure.2))
    {finding : Finding} (isFinding : finding ∈ findings) :
    ∀ error ∈ errors, error.field ≠ finding.command.field.path := by
  intro error member samePath
  rcases List.mem_map.1 (reports.mem_iff.1 member) with ⟨failure, isFailure, rfl⟩
  exact dealt.apart failure isFailure finding isFinding (Field.path_injective samePath)

theorem tidy (dealt : Dealt desired failures findings) :
    (findings.foldl DeviceState.learn {}).Tidy :=
  DeviceState.tidy_empty.foldl_learn findings dealt.sets

/-- What has been echoed and reported of the commands accounts for all that was wanted. -/
theorem accounted (dealt : Dealt desired failures findings)
    (reports : errors.Perm (failures.map fun failure => failure.1.report device failure.2)) :
    Accounted desired (DeviceState.ofFindings? findings) errors := by
  constructor
  · intro field setting isWanted
    rcases Plan.exists_wanted isWanted with ⟨command, rfl, isSet⟩
    rcases List.mem_append.1 ((dealt.wanted command).2 ⟨setting, isSet, isWanted⟩) with
      hasFailed | hasSucceeded
    · rcases List.mem_map.1 hasFailed with ⟨failure, isFailure, rfl⟩
      have notEchoed := dealt.notEchoed isFailure
      refine Or.inr ⟨⟨notEchoed, _, dealt.reportedOnce reports isFailure, ?_⟩, fun echoed => ?_⟩
      · simp [Command.report, Command.requested_eq, isSet]
      · simp [notEchoed] at echoed
    · rcases List.mem_map.1 hasSucceeded with ⟨finding, isFinding, rfl⟩
      have isEchoed := dealt.achieved.2 ⟨finding, isFinding, rfl, isSet⟩
      refine Or.inl ⟨⟨isEchoed, dealt.notReported reports isFinding⟩, fun notEchoed => ?_⟩
      simp [isEchoed] at notEchoed
  · intro field setting isEchoed
    rcases dealt.achieved.1 isEchoed with ⟨finding, member, rfl, isSet⟩
    rcases dealt.found member with ⟨other, isOther, isWanted⟩
    rw [isSet, Option.some.injEq] at isOther
    rwa [isOther]
  · intro error member
    rcases List.mem_map.1 (reports.mem_iff.1 member) with ⟨failure, isFailure, rfl⟩
    rcases dealt.failed isFailure with ⟨setting, -, isWanted⟩
    exact ⟨_, setting, isWanted, rfl⟩
  · simp only [setting?_ofFindings, ← dealt.tidy.isEmpty_iff]
    simp [DeviceState.ofFindings?]
  · intro state isState
    simp only [DeviceState.ofFindings?] at isState
    split at isState
    · cases isState
    · exact (Option.some.inj isState) ▸ dealt.tidy

end Dealt

theorem accounted_of_settled {task : Task} {outcome : Outcome} {desired : DeviceState}
    {data : Option DeviceState} {errors : List FieldReport} (settled : task.Settled outcome)
    (applies : task.work = .apply desired)
    (isData : data = DeviceState.ofFindings? outcome.findings)
    (isErrors : errors = outcome.reports.mergeSort fun a b => (a.compare b).isLE) :
    Xor (LeftOut data errors) (Accounted desired data errors) := by
  rcases settled.split applies with ⟨text, rfl⟩ | ⟨failures, reports, all⟩
  · have leftOut : LeftOut data errors := by
      refine ⟨isData, { device := task.device, field := Field.device.path, error := text }, ?_, rfl⟩
      rw [isErrors]
      exact List.mergeSort_singleton _
    exact Or.inl ⟨leftOut, fun accounted => not_leftOut_of_accounted accounted leftOut⟩
  · have accounted : Accounted desired data errors := by
      have sorted : errors.Perm outcome.reports := isErrors ▸ List.mergeSort_perm _ _
      rw [isData]
      exact (Dealt.of_perm all).accounted (reports ▸ sorted)
    exact Or.inr ⟨accounted, not_leftOut_of_accounted accounted⟩

namespace World

variable {δ : Type} [Driver δ]

/--
Whatever drivers do and whenever a context ends: an answered request to set states accounts for
every device with something wanted in one of two ways, and in only one of them.
-/
theorem set_accounts {world world' : World δ} {requests : List RoomRequest} {patience : Option Nat}
    {answers : List (Except RequestError Answer)} {i : Nat} {states : StateRequest}
    {room : RoomConfig} {context : RequestContext} {cancelAt : Option Nat}
    {response : RoomResponse DeviceState} {device : DeviceId} {desired : DeviceState}
    (served : world.serve requests patience = (world', some answers))
    (isRequest : requests[i]? = some { operation := .set states, room, context, cancelAt })
    (isAnswer : answers[i]? = some (.ok { operation := .set states, response }))
    (targeted : states.devices.get? device = some desired) (notEmpty : desired.isEmpty = false) :
    Xor
      (LeftOut (response.devices.get? device)
        (response.errors.filter fun error => error.device = device))
      (Accounted desired (response.devices.get? device)
        (response.errors.filter fun error => error.device = device)) := by
  have answers := getElem?_of_forall₂ (serve_answers served) isRequest isAnswer
  simp only [Answers] at answers
  split at answers
  · cases answers
  · rename_i session prepared
    rcases answers with ⟨session', ⟨reaches, finished⟩, same⟩
    have ready := ready_of_prepare prepared
    rcases ready.task (Operation.mem_targets_set targeted notEmpty) with ⟨task, member, assigned⟩
    rcases ready.outcome Task.settling ready.underWay (fun settled _ => settled.own) reaches
      finished (Except.ok.inj same) member with ⟨outcome, settled, tells⟩
    rw [assigned.device] at tells
    rcases Prod.mk.inj tells with ⟨data, errors⟩
    exact accounted_of_settled settled assigned.work data errors

/-- Whether the answers are one to a request to set some states. -/
def answersOne (states : StateRequest) : Option (List (Except RequestError Answer)) → Bool
  | some [.ok ⟨.set others, _⟩] => others = states
  | _ => false

omit [Driver δ] in
theorem exists_of_answersOne {states : StateRequest}
    {served : World δ × Option (List (Except RequestError Answer))}
    (isOne : answersOne states served.2 = true) : ∃ world' response,
      served = (world', some [.ok { operation := .set states, response }]) := by
  rcases served with ⟨world', answers⟩
  unfold answersOne at isOne
  split at isOne
  · rename_i others response isAnswer
    obtain rfl := of_decide_eq_true isOne
    exact ⟨world', response, Prod.ext rfl isAnswer⟩
  · cases isOne

/-- Switch a display on and mute a block that it does not have. -/
def labStates : StateRequest where
  devices := SortedMap.empty.insert ⟨"D1"⟩
    { poweredOn := some true, mutes := some (SortedMap.empty.insert "mic" true) }

theorem set_accounts_lab :
    let request : RoomRequest :=
      { operation := .set labStates, room := lab, context := { deadline := none, token := 0 } }
    ∃ world' response, (labWorld ({ model := .display } : VirtualDriver)).serve [request] none =
      (world', some [.ok { operation := .set labStates, response }]) ∧
    ∃ desired, labStates.devices.get? ⟨"D1"⟩ = some desired ∧ desired.isEmpty = false ∧
      Xor
        (LeftOut (response.devices.get? ⟨"D1"⟩)
          (response.errors.filter fun error => error.device = ⟨"D1"⟩))
        (Accounted desired (response.devices.get? ⟨"D1"⟩)
          (response.errors.filter fun error => error.device = ⟨"D1"⟩)) := by
  intro request
  have isOne : answersOne labStates
      ((labWorld ({ model := .display } : VirtualDriver)).serve [request] none).2 = true := by
    decide +kernel
  rcases exists_of_answersOne isOne with ⟨world', response, served⟩
  exact ⟨world', response, served, _, rfl, rfl, set_accounts (i := 0) served rfl rfl rfl rfl⟩

end World

end AvControl

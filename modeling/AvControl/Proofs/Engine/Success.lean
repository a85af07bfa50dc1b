import AvControl.Proofs.Engine.Accounting
import AvControl.Proofs.Engine.Refusal
import AvControl.Proofs.Engine.Reports
import AvControl.Proofs.Overwriting

/-!
# Complete success

A request to set states that is answered without a report has done everything that it asks for: the
answer echoes the request as it was made, but for what asks for nothing. Maps without entries,
outputs without a feed and devices of which nothing is wanted are pruned.
-/

namespace AvControl

namespace DeviceState

/-- A map that has entries. -/
def unlessEmpty {α : Type} (map : Option (SortedMap String α)) : Option (SortedMap String α) :=
  map.filter fun map => !map.isEmpty

/-- The state without maps that have no entries and without outputs that have no feed. -/
def pruned (state : DeviceState) : DeviceState :=
  { state with
    inputs := unlessEmpty (state.inputs.map fun inputs => inputs.filter fun _ feed => feed ≠ {})
    volumes := unlessEmpty state.volumes
    mutes := unlessEmpty state.mutes }

theorem isEmpty_of_unlessEmpty {α : Type} {map : Option (SortedMap String α)}
    {entries : SortedMap String α} (isMap : unlessEmpty map = some entries) :
    map = some entries ∧ entries.isEmpty = false := by
  simpa [unlessEmpty, Option.filter_eq_some_iff] using isMap

theorem get?_unlessEmpty {α : Type} (map : Option (SortedMap String α)) (key : String) :
    ((unlessEmpty map).bind fun map => map.get? key) = map.bind fun map => map.get? key := by
  cases map with
  | none => rfl
  | some map =>
      cases isEmpty : map.isEmpty with
      | false => simp [unlessEmpty, isEmpty, Option.filter]
      | true =>
          have holds : holdsNothing (some map) = true := isEmpty
          rw [holdsNothing_iff.1 holds]
          simp [unlessEmpty, isEmpty, Option.filter]

theorem slot_empty (kind : SignalKind) : ({} : Feed).slot kind = none := by cases kind <;> rfl

/-- Pruning takes no setting away. -/
theorem setting?_pruned (state : DeviceState) (field : Field) :
    state.pruned.setting? field = state.setting? field := by
  cases field with
  | device | poweredOn | blanked | healthy | info | volumes | mutes | inputs => rfl
  | volume block =>
      exact congrArg (Option.map Setting.level) (get?_unlessEmpty state.volumes block)
  | mute block => exact congrArg (Option.map Setting.flag) (get?_unlessEmpty state.mutes block)
  | input output kind =>
      refine congrArg (Option.map Setting.source) ?_
      rw [pruned, get?_unlessEmpty]
      cases state.inputs with
      | none => rfl
      | some inputs =>
          simp only [Option.map_some, Option.bind_some, SortedMap.get?_filter]
          cases inputs.get? output with
          | none => rfl
          | some feed =>
              by_cases isEmpty : feed = {}
              · simp [isEmpty, Option.filter, slot_empty]
              · simp [isEmpty, Option.filter]

theorem tidy_pruned (state : DeviceState) : state.pruned.Tidy := by
  refine ⟨fun inputs isInputs => ?_, fun volumes isVolumes => ?_, fun mutes isMutes => ?_⟩
  · rcases isEmpty_of_unlessEmpty isInputs with ⟨isFiltered, notEmpty⟩
    refine ⟨notEmpty, fun output feed isFeed => ?_⟩
    rcases Option.map_eq_some_iff.1 isFiltered with ⟨all, -, rfl⟩
    rw [SortedMap.get?_filter, Option.filter_eq_some_iff] at isFeed
    by_contra nothing
    simp only [not_exists, Bool.not_eq_true, Option.isSome_eq_false_iff,
      Option.isNone_iff_eq_none] at nothing
    have isEmpty : feed = {} := by
      rcases feed with ⟨audioVideo, audio, video⟩
      have audioVideo := nothing .audioVideo
      have audio := nothing .audio
      have video := nothing .video
      simp_all [Feed.slot]
    simp [isEmpty] at isFeed
  · exact (isEmpty_of_unlessEmpty isVolumes).2
  · exact (isEmpty_of_unlessEmpty isMutes).2

/-- Nothing is left of a state that asks for nothing. -/
theorem isEmpty_pruned {state : DeviceState} (isEmpty : state.isEmpty = true) :
    state.pruned.isEmpty = true := by
  refine state.tidy_pruned.isEmpty_iff.2 fun field => ?_
  rw [setting?_pruned, setting?_of_isEmpty isEmpty]

/-- A tidy state that has the settings of another one is what is left when that one is pruned. -/
theorem Tidy.eq_pruned {state other : DeviceState} (tidy : state.Tidy)
    (same : ∀ field, state.setting? field = other.setting? field) : state = other.pruned :=
  tidy.eq_of_settings other.tidy_pruned fun field => (same field).trans (setting?_pruned _ _).symm

end DeviceState

/-- The request without what asks for nothing. -/
def StateRequest.pruned (request : StateRequest) : StateRequest where
  devices := (request.devices.mapValues fun _ state => state.pruned).filter
    fun _ state => !state.isEmpty

/-- A device of which a setting is wanted is not pruned away. -/
theorem StateRequest.get?_pruned {request : StateRequest} {device : DeviceId}
    {desired : DeviceState} {field : Field} {setting : Setting}
    (isDesired : request.devices.get? device = some desired)
    (isSetting : desired.setting? field = some setting) :
    request.pruned.devices.get? device = some desired.pruned := by
  have notEmpty : desired.pruned.isEmpty = false := by
    by_contra isEmpty
    have nothing := desired.tidy_pruned.isEmpty_iff.1 (by simpa using isEmpty) field
    rw [DeviceState.setting?_pruned, isSetting] at nothing
    cases nothing
  simp [pruned, SortedMap.get?_filter, SortedMap.get?_mapValues, isDesired, Option.filter, notEmpty]

/-- What is wanted of a device is echoed as a whole if nothing is reported about it. -/
theorem Accounted.eq_pruned {desired : DeviceState} {data : Option DeviceState}
    (accounted : Accounted desired data []) :
    data = (some desired.pruned).filter fun state => !state.isEmpty := by
  have same : ∀ field, (data.getD {}).setting? field = desired.setting? field := by
    intro field
    apply Option.ext
    intro setting
    refine ⟨accounted.echoed field setting, fun isWanted => ?_⟩
    rcases accounted.once field setting isWanted with ⟨⟨isEchoed, -⟩, -⟩ | ⟨⟨-, _, once, -⟩, -⟩
    · exact isEchoed
    · cases once
  have silent := accounted.silent
  simp only [same, ← DeviceState.setting?_pruned desired,
    ← (desired.tidy_pruned).isEmpty_iff] at silent
  cases data with
  | none => simp [Option.filter, silent.1 rfl]
  | some state =>
      have isPruned : state = desired.pruned := (accounted.tidy state rfl).eq_pruned same
      have notEmpty : desired.pruned.isEmpty = false := by simpa using silent
      simp [Option.filter, isPruned, notEmpty]

namespace World

variable {δ : Type} [Driver δ] {world world' : World δ} {request : RoomRequest}

/-- The session of a request that was answered has come to its end. -/
theorem exists_last {answer : Answer}
    (served : world.serveOne request none = (world', some (.ok answer))) :
    ∃ start last, world.Ready request start ∧ start.Reaches δ last ∧ last.finished = true ∧
      (world.engage [request]).complete none = { world := world', sessions := [last] } ∧
      answer = last.answer := by
  rcases serveOne_ok served with ⟨start, last, prepared, finished, isEnd, isAnswer⟩
  have reaches := (world.engage [request]).complete_reaches none
  rw [engage_one prepared, isEnd] at reaches
  rw [isEnd] at finished
  rcases List.forall₂_cons.1 reaches with ⟨reached, -⟩
  refine ⟨start, last, ready_of_prepare prepared, reached, ?_, isEnd, isAnswer⟩
  simpa [Run.finished] using finished

/-- An answer is about the operation that was asked for. -/
theorem operation_of_answered {answer : Answer}
    (served : world.serveOne request none = (world', some (.ok answer))) :
    answer.operation = request.operation := by
  rcases exists_last served with ⟨start, last, ready, reaches, -, -, rfl⟩
  exact reaches.continues.operation.trans ready.operation

/-- A request to set states that is answered without a report is echoed as it was made. -/
theorem devices_of_success {change : StateRequest} {response : RoomResponse DeviceState}
    (isSet : request.operation = .set change)
    (served : world.serveOne request none = (world', some (.ok ⟨.set change, response⟩)))
    (success : response.errors = []) : response.devices = change.pruned.devices := by
  rcases exists_last served with ⟨start, last, ready, reaches, finished, -, isAnswer⟩
  refine SortedMap.ext_get? fun device => ?_
  simp only [StateRequest.pruned, SortedMap.get?_filter, SortedMap.get?_mapValues]
  by_cases targeted : ∃ desired, change.devices.get? device = some desired ∧
      desired.isEmpty = false
  · rcases targeted with ⟨desired, isDesired, notEmpty⟩
    have isTarget : (device, Work.apply desired) ∈ request.operation.targets request.room :=
      isSet ▸ Operation.mem_targets_set isDesired notEmpty
    rcases ready.task isTarget with ⟨task, member, assigned⟩
    rcases ready.outcome Task.settling ready.underWay (fun settled _ => settled.own) reaches
      finished isAnswer member with ⟨outcome, settled, tells⟩
    rw [assigned.device] at tells
    rcases Prod.mk.inj tells with ⟨data, errors⟩
    rcases accounted_of_settled settled assigned.work data errors with
      ⟨⟨-, error, isError, -⟩, -⟩ | ⟨accounted, -⟩
    · simp [success] at isError
    · rw [success] at accounted
      rw [isDesired]
      exact accounted.eq_pruned
  · have kept : last.Kept Task.UnderWay Task.Settled :=
      (ready.kept ready.underWay).reaches Task.settling reaches
    have foreign : device ∉ last.tasks.map Task.device := by
      rw [reaches.continues.devices, ready.devices, Operation.mem_targets_iff, isSet]
      exact targeted
    have silent := kept.about_others foreign
    rw [← isAnswer] at silent
    have noData : response.devices.get? device = none := congrArg Prod.fst silent
    rw [noData]
    cases isDesired : change.devices.get? device with
    | none => rfl
    | some desired =>
        have isEmpty : desired.isEmpty = true := by
          by_contra notEmpty
          exact targeted ⟨desired, isDesired, by simpa using notEmpty⟩
        simp [Option.filter, DeviceState.isEmpty_pruned isEmpty]

end World

end AvControl

import AvControl.Proofs.Engine.Journal
import AvControl.Proofs.Engine.Restraint
import AvControl.Virtual.Driver

/-!
# Devices that nothing is wanted of

A request may name a device without asking anything of it. Whether a device is contacted is decided
by looking at the maps of its desired state, and what is asked of it by looking at their entries.
The two agree unless an output is named that is to be fed with nothing: such an output counts as
something, although no command comes of it. Apart from that, a device of which nothing is wanted is
left in peace, and does not even need a registered driver.
-/

namespace AvControl

namespace DeviceState

/-- No field is set to anything. -/
def AsksNothing (state : DeviceState) : Prop := ∀ field, state.setting? field = none

/-- Outputs are named, but nothing is asked for, neither for them nor otherwise. -/
def IsBare (state : DeviceState) : Prop :=
  state.AsksNothing ∧ ∃ output, (state.inputs.bind fun inputs => inputs.get? output) ≠ none

/-- Apart from bare states, a state is empty exactly when it asks for nothing. -/
theorem isEmpty_iff_of_not_bare {state : DeviceState} (notBare : ¬state.IsBare) :
    state.isEmpty = true ↔ state.AsksNothing := by
  refine isEmpty_iff.trans ⟨And.left, fun nothing => ⟨nothing, fun output => ?_⟩⟩
  by_contra named
  exact notBare ⟨nothing, output, named⟩

end DeviceState

namespace Plan

/-- A command that is wanted is either sent or refused, so nothing comes of nothing only. -/
theorem nothing_iff {desired : DeviceState} {device : DeviceId} {config : DeviceConfig}
    {handle : Handle} :
    ((Work.apply desired).plan device config handle).refused = [] ∧
      ((Work.apply desired).plan device config handle).commands = [] ↔ desired.AsksNothing := by
  have refused : ((Work.apply desired).plan device config handle).refused =
      refusals device config handle (wanted desired) := rfl
  rw [refused, commands_plan]
  constructor
  · rintro ⟨noRefusal, noCommand⟩ field
    apply Option.eq_none_iff_forall_ne_some.2
    intro setting isSet
    rcases exists_wanted isSet with ⟨command, isField, sets⟩
    have isWanted : command ∈ wanted desired :=
      mem_wanted.2 ⟨setting, sets, by rw [isField, isSet]⟩
    cases refuses : refusal? config handle command with
    | none =>
        have isAccepted : command ∈ accepted config handle (wanted desired) :=
          List.mem_filter.2 ⟨isWanted, by simp [refuses]⟩
        simp [noCommand] at isAccepted
    | some error =>
        have isRefused : command.report device error ∈
            refusals device config handle (wanted desired) :=
          List.mem_filterMap.2 ⟨command, isWanted, by simp [refuses]⟩
        simp [noRefusal] at isRefused
  · intro nothing
    have noWish : wanted desired = [] := by
      refine List.eq_nil_iff_forall_not_mem.2 fun command isWanted => ?_
      rcases mem_wanted.1 isWanted with ⟨setting, -, isSet⟩
      rw [nothing] at isSet
      cases isSet
    simp [noWish, refusals, accepted]

end Plan

namespace StateRequest

/-- Nothing is wanted of a device, whether it is named or not. -/
def Spares (change : StateRequest) (device : DeviceId) : Prop :=
  ∀ desired, change.devices.get? device = some desired → desired.AsksNothing

/-- What is wanted of a device is a bare state. -/
def LeavesBare (change : StateRequest) (device : DeviceId) : Prop :=
  ∃ desired, change.devices.get? device = some desired ∧ desired.IsBare

/-- Something is wanted of a device, or else a bare state. -/
def Concerns (change : StateRequest) (device : DeviceId) : Prop :=
  ¬change.Spares device ∨ change.LeavesBare device

end StateRequest

namespace World

variable {δ : Type} {world : World δ} {request : RoomRequest} {change : StateRequest}

/--
A request to set states can be served: its context is live, its room has devices, among them all
that it names, and those that it concerns have registered drivers.
-/
structure Admits (world : World δ) (request : RoomRequest) (change : StateRequest) : Prop where
  isSet : request.operation = .set change
  live : world.interruption? request.context = none
  notEmpty : request.room.devices.isEmpty = false
  familiar : ∀ device desired, change.devices.get? device = some desired →
    ∃ config, request.room.devices.get? device = some config
  served : ∀ device config, change.Concerns device →
    request.room.devices.get? device = some config → world.registry.get config.driver ≠ none

/-- Only devices that the request concerns are to be contacted. -/
theorem concerns_of_contacts (isSet : request.operation = .set change) {device : DeviceId}
    (contacts : request.operation.Contacts request.room device) : change.Concerns device := by
  rw [isSet] at contacts
  rcases contacts with ⟨desired, isDesired, notEmpty⟩
  by_cases bare : desired.IsBare
  · exact Or.inr ⟨desired, isDesired, bare⟩
  · refine Or.inl fun spares => ?_
    have empty := (DeviceState.isEmpty_iff_of_not_bare bare).2 (spares desired isDesired)
    rw [notEmpty] at empty
    cases empty

/-- A request that can be served passes the checks, whatever drivers spared devices have. -/
theorem Admits.exists_prepare (admits : world.Admits request change) :
    ∃ session, world.prepare request = .ok session := by
  cases prepared : world.prepare request with
  | ok session => exact ⟨session, rfl⟩
  | error error =>
      exfalso
      cases refuses_of_prepare prepared with
      | ended ended =>
          rw [← interruption?_eq_some_iff, admits.live] at ended
          cases ended
      | empty _ noDevice =>
          rw [← SortedMap.isEmpty_iff, admits.notEmpty] at noDevice
          cases noDevice
      | foreign _ _ first =>
          rcases first.has with ⟨names, isForeign⟩
          rw [admits.isSet] at names
          rcases names with ⟨desired, isDesired⟩
          rcases admits.familiar _ desired isDesired with ⟨config, isConfig⟩
          rw [isForeign] at isConfig
          cases isConfig
      | unserved _ _ _ first _ =>
          rcases first.has with ⟨contacts, config, isConfig, unserved⟩
          have concerns := concerns_of_contacts admits.isSet contacts
          exact admits.served _ config concerns isConfig unserved

variable [Driver δ]

/-- A device that is not to be contacted is never looked after, and no answer speaks of it. -/
theorem Ready.ignores {requests : List RoomRequest} {session : Session} {device : DeviceId}
    (ready : world.Ready request session) {i : Nat}
    (isSession : (world.engage requests).sessions[i]? = some session)
    (ignored : ¬request.operation.Contacts request.room device) (steps : Nat) :
    ((world.engage requests).after steps).look? i device = none ∧
      ∀ answer, (world.engage requests).answer? i steps = some answer →
        answer.response.about device = (none, []) := by
  have noTask : device ∉ session.tasks.map Task.device := by
    rw [ready.devices, Operation.mem_targets_iff]
    exact ignored
  have reaches : ∀ {last}, ((world.engage requests).after steps).sessions[i]? = some last →
      session.Reaches δ last :=
    fun isLast => getElem?_of_forall₂ ((world.engage requests).after_reaches steps) isSession isLast
  have stillNoTask : ∀ {last}, ((world.engage requests).after steps).sessions[i]? = some last →
      device ∉ last.tasks.map Task.device := by
    intro last isLast
    rwa [(reaches isLast).continues.devices]
  constructor
  · apply Option.eq_none_iff_forall_ne_some.2
    intro look isLook
    rcases Run.look?_eq_some isLook with ⟨last, isLast, isTask, isDevice, -⟩
    exact stillNoTask isLast (List.mem_map.2 ⟨look.task, isTask, isDevice⟩)
  · intro answer isAnswer
    rcases Option.map_eq_some_iff.1 isAnswer with ⟨last, isLast, rfl⟩
    have isLast := (Option.filter_eq_some_iff.1 isLast).1
    have kept : session.Kept Task.UnderWay Task.Settled := ready.kept ready.underWay
    exact (kept.reaches Task.settling (reaches isLast)).about_others (stillNoTask isLast)

/--
Unless what a request wants of a device is a bare state, it leaves the device in peace if it wants
nothing of it. It is not refused for its driver, it never has it looked after and its answer does
not speak of it, whatever else is going on; and all that it writes down when it is served alone is
about other devices. The desired states that count as empty are those for which no command is sent
or refused.
-/
theorem spares_idle_devices {requests : List RoomRequest} (admits : world.Admits request change) :
    (∃ session, world.prepare request = .ok session ∧
      ∀ device, change.Spares device → ¬change.LeavesBare device → ∀ i,
        (world.engage requests).sessions[i]? = some session → ∀ steps,
          ((world.engage requests).after steps).look? i device = none ∧
          ∀ answer, (world.engage requests).answer? i steps = some answer →
            answer.response.about device = (none, [])) ∧
    (∀ patience, ∀ event ∈ (world.serve [request] patience).1.journal,
      event ∈ world.journal ∨ ∃ device config, change.Concerns device ∧
        request.room.devices.get? device = some config ∧ event.IsFor config) ∧
    (∀ desired : DeviceState, ¬desired.IsBare → ∀ device config handle,
      desired.isEmpty = true ↔
        ((Work.apply desired).plan device config handle).refused = [] ∧
        ((Work.apply desired).plan device config handle).commands = []) := by
  refine ⟨?_, fun patience event member => ?_, fun desired notBare device config handle => ?_⟩
  · rcases admits.exists_prepare with ⟨session, prepared⟩
    refine ⟨session, prepared, fun device spares notBare i isSession steps => ?_⟩
    refine (ready_of_prepare prepared).ignores isSession (fun contacts => ?_) steps
    exact (concerns_of_contacts admits.isSet contacts).elim (absurd spares) notBare
  · refine ((world.logs_serve [request] patience).mem member).imp_right ?_
    rintro ⟨_, isRequest, device, config, contacts, isConfig, isFor⟩
    obtain rfl := List.mem_singleton.1 isRequest
    exact ⟨device, config, concerns_of_contacts admits.isSet contacts, isConfig, isFor⟩
  · rw [DeviceState.isEmpty_iff_of_not_bare notBare, Plan.nothing_iff]

/-- The lab with a second device, whose driver nobody has registered. -/
def unservedLab : RoomConfig :=
  { lab with devices := lab.devices.insert ⟨"D2"⟩ { address := "rack", driver := "switcher" } }

/-- Switch the display on, and set the levels of no blocks of the other device. -/
def labStart : StateRequest where
  devices := (SortedMap.empty.insert ⟨"D1"⟩ { poweredOn := some true }).insert ⟨"D2"⟩
    { volumes := some SortedMap.empty }

theorem spares_idle_devices_lab :
    let request : RoomRequest :=
      { operation := .set labStart, room := unservedLab
        context := { deadline := none, token := 0 } }
    let world := labWorld ({ model := .display } : VirtualDriver)
    world.Admits request labStart ∧ labStart.Spares ⟨"D2"⟩ ∧ ¬labStart.LeavesBare ⟨"D2"⟩ ∧
      ∃ session, world.prepare request = .ok session ∧
        (world.engage [request]).sessions[0]? = some session ∧
        ((world.engage [request]).after 0).look? 0 ⟨"D2"⟩ = none := by
  intro request world
  have entries : ∀ device desired, labStart.devices.get? device = some desired →
      device = ⟨"D2"⟩ ∧ desired = { volumes := some SortedMap.empty } ∨
        device = ⟨"D1"⟩ ∧ desired = { poweredOn := some true } := by
    intro device desired isDesired
    simp only [labStart, SortedMap.get?_insert] at isDesired
    split at isDesired
    · exact Or.inl ⟨‹_›, (Option.some.inj isDesired).symm⟩
    · split at isDesired
      · exact Or.inr ⟨‹_›, (Option.some.inj isDesired).symm⟩
      · cases isDesired
  have spares : labStart.Spares ⟨"D2"⟩ := by
    intro desired isDesired field
    rcases entries _ _ isDesired with ⟨-, rfl⟩ | ⟨other, -⟩
    · cases field <;> rfl
    · simp at other
  have notBare : ¬labStart.LeavesBare ⟨"D2"⟩ := by
    rintro ⟨desired, isDesired, -, output, named⟩
    rcases entries _ _ isDesired with ⟨-, rfl⟩ | ⟨-, rfl⟩ <;> exact named rfl
  have admits : world.Admits request labStart := by
    refine ⟨rfl, rfl, rfl, fun device desired isDesired => ?_,
      fun device config wanted isConfig => ?_⟩
    · rcases entries _ _ isDesired with ⟨rfl, -⟩ | ⟨rfl, -⟩ <;> exact ⟨_, rfl⟩
    · simp only [request, unservedLab, SortedMap.get?_insert] at isConfig
      split at isConfig
      · rename_i isSecond
        exact (wanted.elim (absurd (isSecond ▸ spares)) (isSecond ▸ notBare)).elim
      · rw [(eq_of_lab isConfig).2]
        simp [world, labWorld, get_set]
  rcases (spares_idle_devices admits).1 with ⟨session, prepared, ignores⟩
  have isSession : (world.engage [request]).sessions[0]? = some session := by
    simp [engage, prepared, Except.toOption]
  exact ⟨admits, spares, notBare, session, prepared, isSession,
    (ignores ⟨"D2"⟩ spares notBare 0 isSession 0).1⟩

/-- A state that names an output and feeds it with nothing. -/
def bareState : DeviceState where
  inputs := some (SortedMap.empty.insert "out1" {})

/--
A bare state asks for nothing, and no command comes of it. Still its device is opened, and without a
registered driver the whole request is refused.
-/
theorem bare_state_contacts :
    let request : RoomRequest :=
      { operation := .set { devices := SortedMap.empty.insert ⟨"D1"⟩ bareState }, room := lab
        context := { deadline := none, token := 0 } }
    bareState.AsksNothing ∧ bareState.isEmpty = false ∧
      ((labWorld ({ model := .display } : VirtualDriver)).serve [request] none).1.journal =
        [{ time := 0, driver := "display", address := "lab", action := .opening }] ∧
      ({} : World VirtualDriver).prepare request =
        .error (.unknownDriver ⟨"D1"⟩ "display") := by
  refine ⟨fun field => ?_, rfl, by decide +kernel, rfl⟩
  cases field with
  | input output kind =>
      simp only [DeviceState.setting?, bareState, Option.bind_some, SortedMap.get?_insert]
      split <;> cases kind <;> rfl
  | _ => rfl

end World

end AvControl

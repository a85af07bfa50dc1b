import AvControl.Proofs.Virtual.Resemblance

/-!
# Reading what was set

When states are set and read afterwards, what is read is what was read before, with all that was
echoed laid over it. A device has the fields that it echoes, and it shows the same fields before and
after. Only one thing is echoed and never read: a sound processor that declares blocks, but none
without a name, can still be told to set the block without a name, and is not asked for it.
-/

namespace AvControl

open Virtual

/-- Whether there are blocks of a kind, and each of them has a name. -/
def DeviceConfig.namesAll (config : DeviceConfig) (kind : String) : Bool :=
  !(config.blocks kind).isEmpty && "" ∉ config.blocks kind

namespace Virtual

/-- Whether a field can be set and is left out when the state of a device is read. -/
def Model.omits (model : Model) (config : DeviceConfig) : Field → Bool
  | .volume block => model = dsp && block = "" && config.namesAll Port.volumeKind
  | .mute block => model = dsp && block = "" && config.namesAll Port.muteKind
  | _ => false

theorem notMem_namesToRead {config : DeviceConfig} {block kind : String}
    (accepted : config.acceptsBlock block kind = true) :
    decide (block ∉ Dsp.namesToRead (config.blocks kind)) =
      (block = "" && config.namesAll kind) := by
  by_cases unnamed : block = ""
  · subst unnamed
    cases isEmpty : (config.blocks kind).isEmpty <;>
      simp [Dsp.namesToRead, DeviceConfig.namesAll, isEmpty]
  · have declared : block ∈ config.blocks kind := by
      simpa [DeviceConfig.acceptsBlock, DeviceConfig.hasPort, DeviceConfig.blocks, unnamed,
        and_comm, and_assoc] using accepted
    have notEmpty : (config.blocks kind).isEmpty = false :=
      List.isEmpty_eq_false_iff_exists_mem.2 ⟨block, declared⟩
    simp [Dsp.namesToRead, notEmpty, declared, unnamed]

/-- A field that commands may set is left out when it is read in one case only. -/
theorem Model.hides_of_acceptsBlock (model : Model) {config : DeviceConfig} {command : Command}
    (accepted : Plan.acceptsBlock config command = true) :
    model.hides config command.field = model.omits config command.field := by
  cases command with
  | setVolume | setMute =>
      simp only [Command.field, hides, omits, notMem_namesToRead accepted, Bool.and_assoc]
  | _ => rfl

namespace Hardware

/-- The state that is read of a device, unless it is empty. -/
def shownState? (hardware : Hardware) (address : String) (config : DeviceConfig) :
    Option DeviceState :=
  DeviceState.ofFindings? ((hardware.readout address config).filterMap Deal.finding?)

/-- A device after what it was told to set was laid over it. -/
structure Overwritten (hardware : Hardware) (config : DeviceConfig) (layer : DeviceState)
    (after : Hardware) : Prop where
  model : after.model = hardware.model
  settings : ∀ field,
    after.setting? field = (layer.setting? field).or (hardware.setting? field)
  owned : ∀ field, (layer.setting? field).isSome = true → (hardware.setting? field).isSome = true
  hides : ∀ field, (layer.setting? field).isSome = true →
    hardware.model.hides config field = hardware.model.omits config field

variable {hardware after : Hardware} {address : String} {config : DeviceConfig}
  {layer : DeviceState} {device : DeviceId} {commands : List Command}

theorem ReadsAs.overwritten (reads : hardware.ReadsAs after) (config : DeviceConfig) :
    hardware.Overwritten config {} after := by
  refine ⟨reads.model.symm, fun field => ?_, fun field isSet => ?_, fun field isSet => ?_⟩
  · rw [DeviceState.setting?_empty, reads.settings]
    rfl
  · simp [DeviceState.setting?_empty] at isSet
  · simp [DeviceState.setting?_empty] at isSet

theorem exists_of_achieved {desired : DeviceState} {handle : Handle}
    (orders : Orders ((Work.apply desired).plan device config handle) commands) {field : Field}
    (isSet : ((hardware.achieved address commands).setting? field).isSome = true) :
    ∃ finding ∈ (hardware.deals address commands).filterMap Deal.finding?,
      finding.command.field = field ∧ finding.command ∈ commands := by
  have all := Deal.perm_commands (hardware.deals address commands)
  rw [command_deals] at all
  have found : ∀ finding ∈ (hardware.deals address commands).filterMap Deal.finding?,
      finding.command ∈ commands := fun finding member =>
    all.subset (List.mem_append_right _ (List.mem_map.2 ⟨finding, member, rfl⟩))
  have wanted := Plan.commands_plan desired device config handle ▸ orders.perm
  have distinct : (commands.map Command.field).Nodup :=
    (wanted.map _).nodup_iff.2 ((Plan.distinct_wanted desired).sublist (List.filter_sublist.map _))
  have distinctFound := (all.map Command.field).nodup_iff.2 distinct
  rw [List.map_append, List.map_map, List.map_map] at distinctFound
  rcases Option.isSome_iff_exists.1 isSet with ⟨setting, isSetting⟩
  rcases (DeviceState.setting?_achieved (fun finding member =>
    sets_of_orders orders _ (found finding member)) distinctFound.of_append_right).1 isSetting with
    ⟨finding, member, sameField, -⟩
  exact ⟨finding, member, sameField, found finding member⟩

/-- Carrying out a plan lays what is achieved over a device. -/
theorem overwritten_of_orders {desired : DeviceState} (hardware : Hardware) (address : String)
    (orders : Orders ((Work.apply desired).plan device config hardware.model.handle) commands) :
    hardware.Overwritten config (hardware.achieved address commands)
      (hardware.afterAll address commands) := by
  refine ⟨by simp, setting?_of_orders hardware address orders, ?_, ?_⟩
  · intro field isSet
    rcases exists_of_achieved orders isSet with ⟨finding, found, rfl, -⟩
    exact isSome_of_achieved address (sets_of_orders orders) found
  · intro field isSet
    rcases exists_of_achieved orders isSet with ⟨finding, -, rfl, member⟩
    have isCommand := orders.perm.subset member
    rw [Plan.commands_plan] at isCommand
    have notRefused := (List.mem_filter.1 isCommand).2
    refine hardware.model.hides_of_acceptsBlock ?_
    cases accepted : Plan.acceptsBlock config finding.command with
    | true => rfl
    | false => simp [Plan.refusal?, accepted] at notRefused

/-- A device shows what it showed, with all that can be seen of what was set laid over it. -/
theorem Overwritten.shownState? (overwritten : hardware.Overwritten config layer after)
    (address : String) : after.shownState? address config =
      (hardware.shownState? address config).map fun state =>
        state.overwrite layer fun field => !hardware.model.omits config field := by
  have tidy := hardware.tidy_readout address config
  have tidy' := after.tidy_readout address config
  have shown := hardware.setting?_readout address config
  have shown' := after.setting?_readout address config
  simp only [Hardware.shownState?, DeviceState.ofFindings?]
  generalize ((hardware.readout address config).filterMap Deal.finding?).foldl
    DeviceState.learn {} = state at tidy shown ⊢
  generalize ((after.readout address config).filterMap Deal.finding?).foldl
    DeviceState.learn {} = state' at tidy' shown' ⊢
  -- both states are tidy, so it is enough to compare them field by field
  have same : state' =
      state.overwrite layer fun field => !hardware.model.omits config field := by
    refine tidy'.eq_of_settings (tidy.overwrite layer _) fun field => ?_
    rw [shown', DeviceState.setting?_overwrite, shown, shown?, shown?, overwritten.model,
      overwritten.settings]
    cases isSet : layer.setting? field with
    | none => simp
    | some setting =>
        rw [overwritten.hides field (by simp [isSet])]
        cases hardware.model.omits config field <;> simp
  -- a state without settings is not shown, and laying one over another never adds a field
  have sameFields : ∀ field, (state'.setting? field).isSome = (state.setting? field).isSome := by
    intro field
    rw [shown', shown, shown?, shown?, overwritten.model, overwritten.settings]
    cases isSet : layer.setting? field with
    | none => simp
    | some setting =>
        have isOwn := overwritten.owned field (by simp [isSet])
        split <;> simp [isOwn]
  have sameEmpty : state'.isEmpty = state.isEmpty := by
    rw [Bool.eq_iff_iff, tidy'.isEmpty_iff, tidy.isEmpty_iff]
    exact forall_congr' fun field => by
      simp only [← Option.not_isSome_iff_eq_none, sameFields]
  rw [sameEmpty, same]
  split <;> rfl

theorem ReadsAs.shownState? (reads : hardware.ReadsAs after) (address : String)
    (config : DeviceConfig) :
    after.shownState? address config = hardware.shownState? address config := by
  rw [(reads.overwritten config).shownState? address]
  exact Option.map_id'

theorem setting?_shownState (hardware : Hardware) (address : String) (config : DeviceConfig)
    (field : Field) : ((hardware.shownState? address config).getD {}).setting? field =
      hardware.shown? config field := by
  rw [Hardware.shownState?, setting?_ofFindings, setting?_readout]

theorem deals_readings (hardware : Hardware) (address : String) (device : DeviceId)
    (config : DeviceConfig) :
    hardware.deals address (Work.read.plan device config hardware.model.handle).commands =
      hardware.readout address config := by
  rw [deals_of_reads fun command member => reads_of_mem_commands member, readout, Work.plan,
    Plan.commands_offered]

end Hardware

end Virtual

namespace Task

variable {δ : Type} [Driver δ] [Enacts δ] {task : Task} {hardware : Hardware} {world : World δ}
  {outcome : Outcome}

/-- A task that reads a device brings the state that it shows, and nothing goes wrong. -/
theorem Achieves.shows (reads : task.work = .read)
    (reachable : VirtualDriver.unreachable task.config.address = false)
    (achieves : task.Achieves hardware world outcome) :
    DeviceState.ofFindings? outcome.findings =
        hardware.shownState? task.config.address task.config ∧ outcome.reports = [] := by
  cases achieves with
  | unreached unreachable => exact absurd (reachable.symm.trans unreachable) (by simp)
  | @done _ performed _ orders _ findings reports =>
      rw [planFor, reads] at orders reports
      have all := hardware.perm_deals task.config.address orders
      have achieved := hardware.achieved_of_orders task.config.address orders
      rw [Hardware.deals_readings] at all
      rw [Hardware.achieved, Hardware.achieved, Hardware.deals_readings] at achieved
      refine ⟨?_, ?_⟩
      · rw [Hardware.shownState?, DeviceState.ofFindings?, DeviceState.ofFindings?, findings,
          achieved]
      · rw [reports, List.append_eq_nil_iff, List.filterMap_eq_nil_iff]
        exact ⟨rfl, fun deal member => Hardware.report?_readout (all.subset member) task.device⟩

/-- A task that applies a state lays what it achieves over its device. -/
theorem Achieves.overwrites {desired : DeviceState} (applies : task.work = .apply desired)
    (reachable : VirtualDriver.unreachable task.config.address = false)
    (achieves : task.Achieves hardware world outcome) :
    ∃ after, world.hardwareAt task.config.driver task.config.address = some after ∧
      hardware.Overwritten task.config ((DeviceState.ofFindings? outcome.findings).getD {})
        after := by
  cases achieves with
  | unreached unreachable => exact absurd (reachable.symm.trans unreachable) (by simp)
  | done _ orders rests findings =>
      rw [planFor, applies] at orders
      have overwritten := hardware.overwritten_of_orders task.config.address orders
      refine ⟨_, rests.hardwareAt, overwritten.model, ?_, ?_, ?_⟩
      all_goals simp only [setting?_ofFindings, findings]
      · exact overwritten.settings
      · exact overwritten.owned
      · exact overwritten.hides

end Task

theorem RoomResponse.errors_eq_nil {α : Type} {response : RoomResponse α}
    (nothing : ∀ device, (response.about device).2 = []) : response.errors = [] := by
  refine List.eq_nil_iff_forall_not_mem.2 fun error member => ?_
  have isThere : error ∈ (response.about error.device).2 := List.mem_filter.2 ⟨member, by simp⟩
  rw [nothing] at isThere
  cases isThere

namespace World

variable {δ : Type} [Driver δ] [Enacts δ] {before after : World δ} {request : RoomRequest}
  {session : Session} {answer : Answer} {room : RoomConfig}
  {reply : Option (Except RequestError Answer)}

/-- The state that is read of a device of a room, unless it is empty. -/
def stateOf? (world : World δ) (room : RoomConfig) (device : DeviceId) : Option DeviceState :=
  (room.devices.get? device).bind fun config =>
    (world.hardwareAt config.driver config.address).bind fun hardware =>
      hardware.shownState? config.address config

/-- Whether a field of a device of a room is read when it was set. -/
def visible (world : World δ) (room : RoomConfig) (device : DeviceId) (field : Field) : Bool :=
  !(room.devices.get? device).any fun config =>
    (world.hardwareAt config.driver config.address).any fun hardware =>
      hardware.model.omits config field

/-- There is a driver for every device of a room, and each of them can be reached. -/
structure Equips (world : World δ) (room : RoomConfig) : Prop where
  registered : ∀ device config, room.devices.get? device = some config →
    (world.registry.get config.driver).isSome = true
  reachable : ∀ device config, room.devices.get? device = some config →
    VirtualDriver.unreachable config.address = false

theorem Resembles.stateOf? (resembles : before.Resembles after) (room : RoomConfig)
    (device : DeviceId) : after.stateOf? room device = before.stateOf? room device := by
  rw [World.stateOf?, World.stateOf?]
  congr 1
  funext config
  rcases resembles.cases config.driver config.address with
    ⟨isNone, isNone'⟩ | ⟨_, _, isHardware, isHardware', reads⟩
  · rw [isNone, isNone']
  · simp only [isHardware, isHardware', Option.bind_some, reads.shownState?]

theorem Resembles.visible (resembles : before.Resembles after) (room : RoomConfig)
    (device : DeviceId) : after.visible room device = before.visible room device := by
  funext field
  rw [World.visible, World.visible]
  congr 2
  funext config
  rcases resembles.cases config.driver config.address with
    ⟨isNone, isNone'⟩ | ⟨_, _, isHardware, isHardware', reads⟩
  · rw [isNone, isNone']
  · simp [isHardware, isHardware', reads.model]

/-- What was echoed was laid over the devices of a room. -/
structure Lays (before : World δ) (room : RoomConfig) (echo : RoomResponse DeviceState)
    (after : World δ) : Prop where
  devices : ∀ device config, room.devices.get? device = some config → ∃ hardware hardware',
    before.hardwareAt config.driver config.address = some hardware ∧
      after.hardwareAt config.driver config.address = some hardware' ∧
        hardware.Overwritten config ((echo.devices.get? device).getD {}) hardware'
  foreign : ∀ device, room.devices.get? device = none → echo.devices.get? device = none

namespace Lays

variable {echo : RoomResponse DeviceState}

/-- What is read of a device is what was read before, with what was echoed laid over it. -/
theorem stateOf? (lays : before.Lays room echo after) (device : DeviceId) :
    after.stateOf? room device = (before.stateOf? room device).map fun state =>
      state.overwrite ((echo.devices.get? device).getD {}) (before.visible room device) := by
  cases isConfig : room.devices.get? device with
  | none => simp [World.stateOf?, isConfig]
  | some config =>
      rcases lays.devices device config isConfig with
        ⟨hardware, hardware', isHardware, isHardware', overwritten⟩
      have visible : before.visible room device =
          fun field => !hardware.model.omits config field := by
        funext field
        simp [World.visible, isConfig, isHardware]
      simp only [World.stateOf?, isConfig, isHardware, isHardware', Option.bind_some, visible,
        overwritten.shownState?]

theorem isRead (lays : before.Lays room echo after) {device : DeviceId} {layer : DeviceState}
    {field : Field} {setting : Setting} (echoed : echo.devices.get? device = some layer)
    (isSet : layer.setting? field = some setting)
    (visible : before.visible room device field = true) :
    ∃ state, after.stateOf? room device = some state ∧ state.setting? field = some setting := by
  cases isConfig : room.devices.get? device with
  | none => cases echoed.symm.trans (lays.foreign device isConfig)
  | some config =>
      rcases lays.devices device config isConfig with
        ⟨hardware, hardware', isHardware, isHardware', overwritten⟩
      rw [echoed, Option.getD_some] at overwritten
      have hides : hardware.model.hides config field = false := by
        rw [overwritten.hides field (by simp [isSet])]
        simpa [World.visible, isConfig, isHardware] using visible
      have shown : hardware'.shown? config field = some setting := by
        rw [Hardware.shown?, overwritten.model, hides, overwritten.settings, isSet]
        rfl
      rw [← hardware'.setting?_shownState config.address] at shown
      simp only [World.stateOf?, isConfig, isHardware', Option.bind_some]
      cases isState : hardware'.shownState? config.address config with
      | none => simp [isState, DeviceState.setting?_empty] at shown
      | some state => exact ⟨state, rfl, by simpa [isState] using shown⟩

end Lays

namespace Served

/-- Who gets the states of a room is told what every device shows, and nothing goes wrong. -/
theorem shows (served : before.Served session answer after) (ready : before.Ready request session)
    (isGet : request.operation = .get) (equips : before.Equips request.room) :
    ∃ response : RoomResponse DeviceState, answer = ⟨.get, response⟩ ∧ response.errors = [] ∧
      ∀ device, response.devices.get? device = before.stateOf? request.room device := by
  rcases answer with ⟨operation, response⟩
  obtain rfl : operation = .get := served.gathers.operation.trans (ready.operation.trans isGet)
  have about : ∀ device,
      response.about device = (before.stateOf? request.room device, []) := by
    intro device
    by_cases isDevice : device ∈ session.tasks.map Task.device
    · rcases List.mem_map.1 isDevice with ⟨task, isTask, rfl⟩
      rcases served.gathers.tasks task isTask with
        ⟨outcome, ⟨hardware, isHardware, achieves⟩, tells⟩
      rcases ready.assigned isTask with ⟨target, isTarget, assigned⟩
      have isConfig := assigned.device ▸ assigned.config
      rw [isGet] at isTarget
      rcases List.mem_map.1 isTarget with ⟨_, -, rfl⟩
      rcases achieves.shows assigned.work (equips.reachable _ _ isConfig) with ⟨shown, silent⟩
      refine tells.trans (Prod.ext ?_ ?_)
      · simp only [World.stateOf?, isConfig, isHardware, Option.bind_some, ← shown]
        rfl
      · simp [silent]
    · have absent : request.room.devices.get? device = none := by
        apply Option.eq_none_iff_forall_ne_some.2
        intro config isConfig
        have isTarget : (device, Work.read) ∈ request.operation.targets request.room := by
          rw [isGet]
          exact List.mem_map.2 ⟨device, List.mem_map.2
            ⟨(device, config), SortedMap.mem_entries_iff.2 isConfig, rfl⟩, rfl⟩
        rcases ready.task isTarget with ⟨task, isTask, assigned⟩
        exact isDevice (List.mem_map.2 ⟨task, isTask, assigned.device⟩)
      refine (served.gathers.others device isDevice).trans (Prod.ext ?_ ?_)
      · rw [World.stateOf?, absent]
        rfl
      · exact List.mergeSort_nil
  refine ⟨response, rfl, RoomResponse.errors_eq_nil fun device => ?_, fun device => ?_⟩
  · exact congrArg Prod.snd (about device)
  · exact congrArg Prod.fst (about device)

/-- Who sets states lays over every device of the room what is echoed of it. -/
theorem lays (served : before.Served session answer after) (ready : before.Ready request session)
    {change : StateRequest} (isSet : request.operation = .set change) (apart : request.room.Apart)
    (equips : before.Equips request.room) :
    ∃ echo, answer = ⟨.set change, echo⟩ ∧ before.Lays request.room echo after := by
  rcases answer with ⟨operation, echo⟩
  obtain rfl : operation = .set change :=
    served.gathers.operation.trans (ready.operation.trans isSet)
  -- what an answer to a request to set states holds of a device is a state
  change RoomResponse DeviceState at echo
  have notEchoed : ∀ device, device ∉ session.tasks.map Task.device →
      echo.devices.get? device = none := fun device notDevice =>
    congrArg Prod.fst (served.gathers.others device notDevice)
  refine ⟨echo, rfl, fun device config isConfig => ?_, fun device absent => ?_⟩
  · by_cases isDevice : device ∈ session.tasks.map Task.device
    · rcases List.mem_map.1 isDevice with ⟨task, isTask, rfl⟩
      rcases served.gathers.tasks task isTask with
        ⟨outcome, ⟨hardware, isHardware, achieves⟩, tells⟩
      rcases ready.assigned isTask with ⟨target, isTarget, assigned⟩
      have isOwn := assigned.device ▸ assigned.config
      obtain rfl := Option.some.inj (isConfig.symm.trans isOwn)
      rw [isSet] at isTarget
      rcases Operation.exists_apply isTarget with ⟨desired, -, applies⟩
      rcases achieves.overwrites (assigned.work.trans applies) (equips.reachable _ _ isOwn) with
        ⟨hardware', isHardware', overwritten⟩
      have echoed : echo.devices.get? task.device = DeviceState.ofFindings? outcome.findings :=
        congrArg Prod.fst tells
      exact ⟨hardware, hardware', isHardware, isHardware', echoed ▸ overwritten⟩
    · rcases Option.isSome_iff_exists.1 (equips.registered device config isConfig) with
        ⟨cached, found⟩
      have isHardware := hardwareAt_eq found config.address
      refine ⟨_, _, isHardware, (served.elsewhere _ _ fun task isTask => ?_).trans isHardware, ?_⟩
      · rcases ready.assigned isTask with ⟨target, -, assigned⟩
        exact apart task.device task.config device config (assigned.device ▸ assigned.config)
          isConfig fun same => isDevice (List.mem_map.2 ⟨task, isTask, same⟩)
      · rw [notEchoed device isDevice]
        exact (Hardware.ReadsAs.refl _).overwritten config
  · refine notEchoed device fun isDevice => ?_
    rcases List.mem_map.1 isDevice with ⟨task, isTask, rfl⟩
    rcases ready.assigned isTask with ⟨target, -, assigned⟩
    rw [assigned.device, assigned.config] at absent
    cases absent

end Served

namespace Concludes

theorem equips (concludes : before.Concludes request (after, reply))
    (equips : before.Equips room) : after.Equips room :=
  ⟨fun device config isConfig =>
    (concludes.registered config.driver).trans (equips.registered device config isConfig),
    equips.reachable⟩

theorem shows (concludes : before.Concludes request (after, reply))
    (isGet : request.operation = .get) (background : request.InBackground before.tokens)
    (notEmpty : request.room.devices.isEmpty = false) (equips : before.Equips request.room) :
    ∃ response : RoomResponse DeviceState, reply = some (.ok ⟨.get, response⟩) ∧
      response.errors = [] ∧
        ∀ device, response.devices.get? device = before.stateOf? request.room device := by
  have live : before.interruption? request.context = none := background.live _
  cases concludes with
  | refused refused =>
      rcases Operation.exists_prepare_get live notEmpty equips.registered with ⟨tasks, passes⟩
      simp [World.prepare, isGet, passes, Except.map] at refused
  | served prepared served =>
      rcases served.shows (ready_of_prepare prepared) isGet equips with ⟨response, rfl, shows⟩
      exact ⟨response, rfl, shows⟩

theorem lays (concludes : before.Concludes request (after, reply)) {change : StateRequest}
    (isSet : request.operation = .set change)
    (accepted : before.prepare request = .ok session) (apart : request.room.Apart)
    (equips : before.Equips request.room) :
    ∃ echo, reply = some (.ok ⟨.set change, echo⟩) ∧ before.Lays request.room echo after := by
  cases concludes with
  | refused refused => cases accepted.symm.trans refused
  | served prepared served =>
      rcases served.lays (ready_of_prepare prepared) isSet apart equips with ⟨echo, rfl, lays⟩
      exact ⟨echo, rfl, lays⟩

end Concludes

/--
The states of a room are read, set and read again in the background, in a world of virtual devices
in which nobody is about to open one. Whatever had been set before, and whether all that is wanted
can be set or not, the second reading shows what the first one did with what was echoed laid over
it: a field that was not echoed is as it was, and one that was echoed is read as echoed, provided
that it is visible. Nothing goes wrong with the readings.
-/
theorem set_then_get {world : World VirtualDriver} (reachable : world.Reachable)
    (calm : world.Calm) {room : RoomConfig} (apart : room.Apart) (equips : world.Equips room)
    {look write again : Visit} {change : StateRequest}
    (inRoom : ∀ visit ∈ [look, write, again],
      visit.request.room = room ∧ visit.request.InBackground world.tokens)
    (looks : look.request.operation = .get) (writes : write.request.operation = .set change)
    (looksAgain : again.request.operation = .get)
    (accepted : ∃ session, world.prepare write.request = .ok session) :
    ∃ (seen changed : World VirtualDriver) (before echo after : RoomResponse DeviceState),
      world.visit look = (seen, some (.ok ⟨.get, before⟩)) ∧
      seen.visit write = (changed, some (.ok ⟨.set change, echo⟩)) ∧
      (changed.visit again).2 = some (.ok ⟨.get, after⟩) ∧
      before.errors = [] ∧ after.errors = [] ∧
      after.devices = (before.devices.mapValues fun device state =>
        state.overwrite ((echo.devices.get? device).getD {}) (world.visible room device)) ∧
      ∀ device layer field setting, echo.devices.get? device = some layer →
        layer.setting? field = some setting → world.visible room device field = true →
          ∃ state, after.devices.get? device = some state ∧
            state.setting? field = some setting := by
  simp only [List.forall_mem_cons] at inRoom
  rcases inRoom with
    ⟨⟨rfl, background⟩, ⟨sameRoom, backgroundWrite⟩, ⟨sameRoomAgain, backgroundAgain⟩, -⟩
  have rest : world.AtRest := ⟨reachable.wired, calm⟩
  rcases accepted with ⟨session, accepted⟩
  have notEmpty := (ready_of_prepare accepted).notEmpty
  rw [sameRoom] at notEmpty
  have concludes := visit_concludes rest apart background
  generalize world.visit look = visited at concludes ⊢
  rcases visited with ⟨seen, reply⟩
  rcases concludes.shows looks background notEmpty equips with ⟨before, rfl, calmly, isBefore⟩
  have resembles := concludes.resembles_of_reads (by simp [looks])
  have restSeen := concludes.rest rest
  have equipsSeen := concludes.equips equips
  rw [← concludes.tokens] at backgroundWrite backgroundAgain
  -- reading has left the world as it looks, so the states are accepted there as well
  have acceptedSeen : seen.prepare write.request = .ok session := by
    rw [← accepted]
    refine prepare_congr write.request ?_ concludes.registered
    exact (backgroundWrite.live _).trans (concludes.tokens ▸ backgroundWrite.live _).symm
  have concludes := visit_concludes restSeen (sameRoom.symm ▸ apart) backgroundWrite
  generalize isChanged : seen.visit write = visited at concludes
  rcases visited with ⟨changed, reply⟩
  rcases concludes.lays writes acceptedSeen (sameRoom.symm ▸ apart)
    (sameRoom.symm ▸ equipsSeen) with ⟨echo, rfl, lays⟩
  rw [sameRoom] at lays
  have restChanged := concludes.rest restSeen
  have equipsChanged := concludes.equips equipsSeen
  rw [← concludes.tokens] at backgroundAgain
  have concludes := visit_concludes restChanged (sameRoomAgain.symm ▸ apart) backgroundAgain
  rcases concludes.shows looksAgain backgroundAgain (sameRoomAgain.symm ▸ notEmpty)
    (sameRoomAgain.symm ▸ equipsChanged) with ⟨after, isTold, calmly', isAfter⟩
  rw [sameRoomAgain] at isAfter
  refine ⟨seen, changed, before, echo, after, rfl, isChanged, isTold, calmly, calmly', ?_, ?_⟩
  · refine SortedMap.ext_get? fun device => ?_
    rw [isAfter, SortedMap.get?_mapValues, lays.stateOf?, isBefore, resembles.stateOf?,
      resembles.visible]
  · intro device layer field setting echoed isSet visible
    rw [isAfter]
    exact lays.isRead echoed isSet (resembles.visible _ device ▸ visible)

theorem set_then_get_lab :
    let world := labWorld ({ model := .display } : VirtualDriver)
    let change := labLevel 40 true
    world.Reachable ∧ world.Calm ∧ lab.Apart ∧ world.Equips lab ∧
      (∀ visit ∈ [labVisit .get, labVisit (.set change), labVisit .get],
        visit.request.room = lab ∧ visit.request.InBackground world.tokens) ∧
      (∃ session, world.prepare (labVisit (.set change)).request = .ok session) ∧
      ∃ (seen changed : World VirtualDriver) (before echo after : RoomResponse DeviceState),
        world.visit (labVisit .get) = (seen, some (.ok ⟨.get, before⟩)) ∧
        seen.visit (labVisit (.set change)) = (changed, some (.ok ⟨.set change, echo⟩)) ∧
        (changed.visit (labVisit .get)).2 = some (.ok ⟨.get, after⟩) ∧
        before.errors = [] ∧ after.errors = [] ∧
        after.devices = (before.devices.mapValues fun device state =>
          state.overwrite ((echo.devices.get? device).getD {}) (world.visible lab device)) ∧
        ∀ device layer field setting, echo.devices.get? device = some layer →
          layer.setting? field = some setting → world.visible lab device field = true →
            ∃ state, after.devices.get? device = some state ∧
              state.setting? field = some setting := by
  intro world change
  have reachable : world.Reachable := (unused_labWorld .display).reachable
  have calm : world.Calm := calm_labWorld _
  have equips : world.Equips lab := by
    constructor
    · intro device config isConfig
      rw [(eq_of_lab isConfig).2]
      rfl
    · intro device config isConfig
      rw [(eq_of_lab isConfig).2]
      rfl
  have background : ∀ operation,
      (labVisit operation).request.InBackground world.tokens := inBackground_labVisit _
  have inRoom : ∀ visit ∈ [labVisit .get, labVisit (.set change), labVisit .get],
      visit.request.room = lab ∧ visit.request.InBackground world.tokens := by
    simp only [List.forall_mem_cons]
    exact ⟨⟨rfl, background _⟩, ⟨rfl, background _⟩, ⟨rfl, background _⟩, by simp⟩
  have accepted : ∃ session, world.prepare (labVisit (.set change)).request = .ok session :=
    ⟨_, rfl⟩
  exact ⟨reachable, calm, apart_lab, equips, inRoom, accepted,
    set_then_get reachable calm apart_lab equips inRoom rfl rfl rfl accepted⟩

end World

end AvControl

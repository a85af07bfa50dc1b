import AvControl.Proofs.Engine.Commands
import AvControl.Proofs.Engine.Schedule

/-!
# How long a request takes

A request without a deadline takes as long as the slowest of its devices. A device takes the time in
which it is opened, and then the time of its work: readings go side by side, so that the slowest
counts; a change of the power comes first and alone; after it, all other changes go side by side,
but for the routes of one kind, which take their times one after another.

Devices at the same address are opened together. None of them has to wait longer for that, because
the attempt of the first one is over at the time at which its own would be.
-/

namespace AvControl

/-- What is left out takes no time. -/
theorem longest_filter {α : Type} (chosen : α → Bool) (duration : α → Nat) (entries : List α) :
    longest ((entries.filter chosen).map duration) =
      longest (entries.map fun entry => if chosen entry then duration entry else 0) := by
  induction entries with
  | nil => rfl
  | cons entry rest ih => by_cases isChosen : chosen entry <;> simp [isChosen, ih]

/--
How long the work on an open device takes: the slowest of the readings; one call or none; or the
change of the power and after it the slowest of all other changes, where the routes of one kind
count together.
-/
def Work.duration (config : DeviceConfig) (handle : Handle) (delay : Command → Nat) : Work → Nat
  | read => longest (((Plan.readings config).filter fun command =>
      handle.supports command.capability).map delay)
  | probeHealth => if handle.supports .health then delay .healthy else 0
  | probeInfo => if handle.supports .info then delay .info else 0
  | apply desired =>
    (if handle.supports .power then (desired.poweredOn.map fun on => delay (.setPower on)).getD 0
      else 0) +
    longest (
      ((SignalKind.all.filter fun kind => handle.supports (.input kind)).map fun kind =>
        ((desired.routes kind).map fun route => delay (.setInput kind route.1 route.2)).sum) ++
      ((desired.blanked.toList.filter fun _ => handle.supports .blank).map fun on =>
        delay (.setBlank on)) ++
      (((DeviceState.entriesOf desired.volumes).filter fun entry =>
        config.acceptsBlock entry.1 Port.volumeKind && handle.supports .volume).map fun entry =>
          delay (.setVolume entry.1 entry.2)) ++
      (((DeviceState.entriesOf desired.mutes).filter fun entry =>
        config.acceptsBlock entry.1 Port.muteKind && handle.supports .mute).map fun entry =>
          delay (.setMute entry.1 entry.2)))

namespace Plan

variable {config : DeviceConfig} {handle : Handle} {delay : Command → Nat}

theorem isNone_refusal (command : Command) : (refusal? config handle command).isNone =
    (acceptsBlock config command && handle.supports command.capability) := by
  rw [Bool.eq_iff_iff, Bool.and_eq_true]
  exact accepted_iff

theorem inTurn_accepted_singleton (command : Command) :
    inTurn delay (accepted config handle [command]) =
      if acceptsBlock config command && handle.supports command.capability then delay command
      else 0 := by
  simp only [accepted, List.filter_cons, List.filter_nil, isNone_refusal]
  split <;> simp [inTurn]

/-- All routes of one kind are sent, or none. -/
theorem inTurn_accepted_routes (kind : SignalKind) (routes : List (String × String)) :
    inTurn delay (accepted config handle
        (routes.map fun route => .setInput kind route.1 route.2)) =
      if handle.supports (.input kind) then
        (routes.map fun route => delay (.setInput kind route.1 route.2)).sum
      else 0 := by
  by_cases supports : handle.supports (.input kind) <;>
    simp [accepted, List.filter_map, Function.comp_def, isNone_refusal, acceptsBlock,
      Command.capability, supports, inTurn]

end Plan

theorem Work.duration_plan (work : Work) (device : DeviceId) (config : DeviceConfig)
    (handle : Handle) (delay : Command → Nat) :
    (work.plan device config handle).duration delay = work.duration config handle delay := by
  cases work with
  | read => simp [plan, Plan.offered, Plan.duration, duration, inTurn, Function.comp_def]
  | probeHealth | probeInfo =>
      simp only [plan, Plan.offered, Plan.duration, duration, List.filter_cons, List.filter_nil,
        Command.capability]
      split <;> simp [inTurn]
  | apply desired =>
      have power : inTurn delay (Plan.accepted config handle (Plan.powerChanges desired)) =
          if handle.supports .power then
            (desired.poweredOn.map fun on => delay (.setPower on)).getD 0
          else 0 := by
        cases isOn : desired.poweredOn with
        | none => simp [Plan.powerChanges, isOn, Plan.accepted, inTurn]
        | some on =>
            simp [Plan.powerChanges, isOn, Plan.inTurn_accepted_singleton, Plan.acceptsBlock,
              Command.capability]
      simp only [plan, Plan.duration, duration, power, Plan.changes, Plan.routings,
        Plan.blankChanges, Plan.volumeChanges, Plan.muteChanges, List.map_append, List.map_map,
        Function.comp_def, longest_append, longest_filter, Plan.inTurn_accepted_singleton,
        Plan.inTurn_accepted_routes, Plan.acceptsBlock, Command.capability, Bool.true_and,
        Nat.max_assoc]
      rfl

namespace World

/-- How long a device of a room takes for its part of a request. -/
def latency (world : World ScriptedDriver) (room : RoomConfig) (target : DeviceId × Work) : Nat :=
  match room.devices.get? target.1 with
  | none => 0
  | some config =>
    let driver := world.driverOf config
    driver.openingDelay config.address +
      target.2.duration config (driver.handleAt config.address) fun command =>
        (driver.callRule config.address command).delay

variable {world : World ScriptedDriver} {request : RoomRequest} {session : Session}

theorem ends_timetable {target : DeviceId × Work} {task : Task}
    (assigned : Operation.Assigned world.registry request.room target task) :
    (world.timetable task.config).ends task =
      world.clock + world.latency request.room target := by
  simp only [Timetable.ends, latency, assigned.config, assigned.work, Work.duration_plan, timetable]
  omega

/-- A request begins on schedule when its devices can be opened and all their calls end. -/
theorem scheduled_engage (prepared : world.prepare request = .ok session)
    (unbounded : request.context.deadline = none) (patient : request.cancelAt = none)
    (calm : world.Calm)
    (reliable : ∀ target ∈ request.operation.targets request.room, ∀ config,
      request.room.devices.get? target.1 = some config →
        (world.driverOf config).Reliable config.address) :
    (world.engage [request]).Scheduled world session := by
  have ready := ready_of_prepare prepared
  refine ⟨unhurried_engage prepared unbounded patient, ready.context ▸ ready.live, calm.rooted,
    fun task isTask => ?_, fun task isTask => ?_, Or.inl rfl⟩
  · rcases ready.assigned isTask with ⟨target, isTarget, assigned⟩
    exact stands_timetable calm assigned.registered
      (reliable target isTarget task.config assigned.config)
  · rcases ready.assigned isTask with ⟨target, isTarget, assigned⟩
    rcases Option.isSome_iff_exists.1 assigned.registered with ⟨cached, found⟩
    exact .opening assigned.fresh ⟨cached, found, .fresh rfl⟩ (Nat.le_add_right _ _)

/--
A request that nobody hurries is refused at once, or it takes as long as the slowest of its devices,
provided that they can be opened and that all their calls end.
-/
theorem takes_slowest (unbounded : request.context.deadline = none)
    (patient : request.cancelAt = none) (calm : world.Calm)
    (reliable : ∀ target ∈ request.operation.targets request.room, ∀ config,
      request.room.devices.get? target.1 = some config →
        (world.driverOf config).Reliable config.address) :
    match world.prepare request with
    | .error error => world.serveOne request none = (world, some (.error error))
    | .ok _ => ∃ world' answer, world.serveOne request none = (world', some (.ok answer)) ∧
        world'.clock = world.clock +
          longest ((request.operation.targets request.room).map (world.latency request.room)) := by
  cases prepared : world.prepare request with
  | error error => exact serveOne_refused prepared
  | ok session =>
      have ready := ready_of_prepare prepared
      have scheduled := scheduled_engage prepared unbounded patient calm reliable
      rcases scheduled.complete with ⟨last, scheduled', collecting, onward⟩
      have finished := scheduled'.finished collecting (world.complete_ends [request] none)
      have isOver : last.finished = true := collecting.finished_eq ▸ finished
      refine ⟨_, _, serveOne_eq prepared finished collecting.alone, Nat.le_antisymm ?_ ?_⟩
      · -- the clock was last set to a time that some task was still waiting for
        rcases scheduled'.elapsed with now | ⟨task, isTask, atMost⟩
        · omega
        · rcases onward.continues.symm.mem isTask with ⟨phase, wasTask⟩
          rcases ready.assigned wasTask with ⟨target, isTarget, assigned⟩
          have ends := ends_timetable assigned
          have slowest := le_longest
            (List.mem_map_of_mem (f := world.latency request.room) isTarget)
          change (world.timetable task.config).ends task = _ at ends
          omega
      · -- and by now every task has reported
        have passed := (world.engage [request]).clock_le_after (world.engage [request]).bound
        change world.clock ≤ ((world.engage [request]).complete none).world.clock at passed
        have slowest : longest ((request.operation.targets request.room).map
            (world.latency request.room)) ≤
              ((world.engage [request]).complete none).world.clock - world.clock := by
          rw [longest_le]
          intro duration member
          rcases List.mem_map.1 member with ⟨target, isTarget, rfl⟩
          rcases ready.task isTarget with ⟨task, isTask, assigned⟩
          rcases onward.continues.mem isTask with ⟨phase, stillTask⟩
          have ends := ends_timetable assigned
          have past := scheduled'.ends_le isOver stillTask
          change (world.timetable task.config).ends task ≤ _ at past
          omega
        omega

/-- A script by which two devices take their time, the first one in vain for some of it. -/
def pacedLab : Script where
  openRules := (SortedMap.empty.insert "lab" { delay := 4 }).insert "annex" { delay := 1 }
  devices := (SortedMap.empty.insert "lab"
      { rules := ((SortedMap.empty.insert "set_power" { delay := 2, fails := some "stuck" }).insert
          "set_video_input" { delay := 3 }).insert "set_audio_input" { delay := 5 } }).insert
    "annex" { rules := SortedMap.empty.insert "set_blank" { delay := 9 } }

/-- Switch on and feed the first device, and blank the second one. -/
def pacedScene : StateRequest where
  devices := (SortedMap.empty.insert ⟨"D1"⟩
      { poweredOn := some true
        inputs := some ((SortedMap.empty.insert "1" { video := some "a", audio := some "a" }).insert
          "2" { video := some "b" }) }).insert
    ⟨"D2"⟩ { blanked := some true }

/-- The first device takes longer: `4` to be opened, `2` to fail, and twice `3` for its routes. -/
theorem takes_slowest_annexedLab :
    let request : RoomRequest := {
      operation := .set pacedScene
      room := annexedLab
      context := { deadline := none, token := 0 } }
    let world := labWorld ({ script := pacedLab } : ScriptedDriver)
    request.context.deadline = none ∧ request.cancelAt = none ∧ world.Calm ∧
    (∀ target ∈ request.operation.targets request.room, ∀ config,
      request.room.devices.get? target.1 = some config →
        (world.driverOf config).Reliable config.address) ∧
    ∃ world' answer, world.serveOne request none = (world', some (.ok answer)) ∧
      world'.clock = 12 := by
  intro request world
  have smooth : pacedLab.Smooth := by decide +kernel
  have reliable : ∀ target ∈ request.operation.targets request.room, ∀ config,
      request.room.devices.get? target.1 = some config →
        (world.driverOf config).Reliable config.address := by
    intro target isTarget config isConfig
    apply CachedDriver.reliable_of_smooth
    simp only [driverOf, world, labWorld, Registry.get_set]
    split
    · exact smooth
    · rw [Registry.get, SortedMap.get?_empty]
      decide
  have isOk : (world.prepare request).toOption.isSome = true := by decide +kernel
  have slowest : world.clock + longest ((request.operation.targets request.room).map
      (world.latency request.room)) = 12 := by decide +kernel
  have takes := takes_slowest rfl rfl (calm_labWorld _) reliable
  rcases exists_of_isSome isOk with ⟨session, prepared⟩
  rw [prepared, slowest] at takes
  exact ⟨rfl, rfl, calm_labWorld _, reliable, takes⟩

end World

end AvControl

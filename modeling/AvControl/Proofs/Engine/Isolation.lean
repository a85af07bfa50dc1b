import AvControl.Proofs.Engine.Companions
import AvControl.Proofs.Engine.Excerpt
import AvControl.Proofs.Engine.Solo
import AvControl.Proofs.Engine.Twins

/-!
# What a device is told alone

A device that nobody else in the room reaches at its address is answered as if it were the only one.
Its task is followed by a twin in the run of the request that is cut down to this device: whenever
the task is looked after, the twin can be looked after at the same time, and both come as far. What
the task brings in the end is then what the twin brings.
-/

namespace AvControl

namespace Run

variable {δ : Type} [Driver δ]

/-- After some steps of a run with one task, this task is the twin of a task in another world. -/
structure Shadows (alone : Run δ) (session : Session) (device : DeviceId) (origin : δ)
    (world : World δ) (task : Task) (steps : Nat) (own : World δ) (phase : Phase) : Prop where
  here : alone.after steps = solo own session (task.enter phase)
  device : task.device = device
  worlds : World.Twins origin task.config world { own with clock := world.clock }
  phases :
    task.phase.Twins session.context task.config world { own with clock := world.clock } phase
  time : own.clock = world.clock ∨ own.clock < world.clock ∧ task.phase ≠ .opening .fresh ∧
    ∀ wake ∈ task.wakes world, world.clock ≤ wake

/-- A task whose twin is at work in a run with one task. -/
def Shadowed (alone : Run δ) (session : Session) (device : DeviceId) (origin : δ)
    (world : World δ) (task : Task) : Prop :=
  ∃ steps own phase, alone.Shadows session device origin world task steps own phase

/-- An outcome with which a run with one task comes to its end. -/
def EndsWith (alone : Run δ) (session : Session) (device : DeviceId) (outcome : Outcome) : Prop :=
  ∃ steps own tasks, alone.after steps = {
    world := own
    sessions := [{ session with
      tasks
      mailbox := []
      collected := [(device, outcome)]
      finished := true }] }

namespace Shadows

variable {alone : Run δ} {session : Session} {device : DeviceId} {origin : δ} {world own : World δ}
  {task : Task} {steps : Nat} {phase : Phase}

/-- Whatever happens to other devices, the twin stays the twin. -/
theorem spared (shadows : alone.Shadows session device origin world task steps own phase)
    {world' : World δ} (spares : world.Spares task.config world') :
    alone.Shadows session device origin world' task steps own phase := by
  have worlds := shadows.worlds.spared spares
  have phases := shadows.phases.spared spares
  have same : ({ own with clock := world.clock } : World δ) =
      { own with clock := world'.clock } := by rw [spares.clock]
  have wakes : task.wakes world' = task.wakes world :=
    (Task.wakes_twins phases).symm.trans (Task.wakes_twins shadows.phases)
  refine ⟨shadows.here, shadows.device, same ▸ worlds, same ▸ phases, ?_⟩
  rw [spares.clock, wakes]
  exact shadows.time

/-- While the task has to wait, the twin has to wait, too. -/
theorem waits (shadows : alone.Shadows session device origin world task steps own phase)
    {time : Nat}
    (waiting : task.turn? session.context world = none) (passes : world.clock ≤ time)
    (least : ∀ wake ∈ task.wakes world, time ≤ wake) :
    alone.Shadows session device origin { world with clock := time } task steps own phase := by
  refine ⟨shadows.here, shadows.device, shadows.worlds.wind time, shadows.phases.wind time time, ?_⟩
  have begun : task.phase ≠ .opening .fresh := by
    intro fresh
    simp [Task.turn?, fresh] at waiting
  rcases shadows.time with now | ⟨before, -, -⟩
  · rcases Nat.eq_or_lt_of_le passes with noTime | later
    · exact Or.inl (now.trans noTime)
    · exact Or.inr ⟨now ▸ later, begun, least⟩
  · exact Or.inr ⟨Nat.lt_of_lt_of_le before passes, begun, least⟩

/-- When the task can go on, the time of the twin comes. -/
theorem catchUp (shadows : alone.Shadows session device origin world task steps own phase)
    (bare : session.Bare) (live : world.interruption? session.context = none)
    (isTurn : (task.turn? session.context world).isSome = true) :
    ∃ steps', alone.after steps' =
      solo { own with clock := world.clock } session (task.enter phase) := by
  rcases shadows.time with now | ⟨before, begun, least⟩
  · refine ⟨steps, shadows.here.trans ?_⟩
    rw [← now]
  · rcases Task.onItsOwn_twins shadows.phases with ⟨ownTask, ownTwin⟩
    rcases ownTask.wake_of_turn begun live isTurn with ⟨wake, isWake, past⟩
    obtain rfl : wake = world.clock := Nat.le_antisymm past (least wake isWake)
    have ownTwin : (task.enter phase).OnItsOwn session.context own := ownTwin
    have sameWakes := Task.wakes_twins shadows.phases
    change (task.enter phase).wakes own = task.wakes world at sameWakes
    have liveTwin : own.interruption? session.context = none := by
      rw [shadows.worlds.interruption] at live
      exact RequestContext.live_without_deadline bare.unbounded (.refl _) live
    have waits : (task.enter phase).turn? session.context own = none := by
      by_contra goesOn
      rcases ownTwin.wake_of_turn (mt shadows.phases.fresh_iff.1 begun) liveTwin
        (Option.isSome_iff_ne_none.2 goesOn) with ⟨wake, isWake', past'⟩
      have later := least wake (sameWakes ▸ isWake')
      omega
    have atWork : task.phase ≠ .reported := by
      intro isOver
      simp [Task.turn?, isOver] at isTurn
    have isNext := step_solo_wait bare liveTwin (mt shadows.phases.reported_iff.1 atWork) waits
      (sameWakes ▸ isWake) before fun wake isWake => least wake (sameWakes ▸ isWake)
    rw [← shadows.here] at isNext
    exact ⟨steps + 1, after_succ isNext⟩

/-- When the task can go on, so can the twin as soon as its time has come. -/
theorem turn (shadows : alone.Shadows session device origin world task steps own phase)
    (live : world.interruption? session.context = none)
    (isTurn : (task.turn? session.context world).isSome = true) :
    ((task.enter phase).turn? session.context { own with clock := world.clock }).isSome = true := by
  by_cases fresh : task.phase = .opening .fresh
  · have fresh' := shadows.phases.fresh_iff.2 fresh
    simp [Task.turn?, fresh']
  · have ownTask := (Task.onItsOwn_twins shadows.phases).1
    rcases ownTask.wake_of_turn fresh live isTurn with ⟨wake, isWake, past⟩
    have isWake' : wake ∈ (task.enter phase).wakes { own with clock := world.clock } :=
      Task.wakes_twins shadows.phases ▸ isWake
    exact Option.isSome_iff_exists.2 (Task.turn_of_wake session.context isWake' rfl past)

/-- The twin comes as far as the task, and brings what the task brings. -/
theorem look (shadows : alone.Shadows session device origin world task steps own phase)
    (bare : session.Bare) (apart : Driver.KeepsApart origin task.config.address)
    (isTurn : (task.turn? session.context world).isSome = true)
    (live : (task.poll session.context world).1.interruption? session.context = none) :
    ((task.poll session.context world).2.2 = none →
      alone.Shadowed session device origin (task.poll session.context world).1
        (task.poll session.context world).2.1) ∧
      ∀ outcome, (task.poll session.context world).2.2 = some outcome →
        alone.EndsWith session device outcome := by
  have before := (task.poll_polls session.context world).later.live live
  rcases shadows.catchUp bare before isTurn with ⟨steps', here⟩
  have polled := Task.poll_twins session.context task apart shadows.phases shadows.worlds
  have reports := ((task.enter phase).poll_polls session.context
    { own with clock := world.clock }).reports_iff
  rw [show task.enter task.phase = task from rfl] at polled
  rcases isTwin : (task.enter phase).poll session.context { own with clock := world.clock } with
    ⟨own', twin, outcome⟩
  rw [isTwin] at polled reports
  rcases polled with ⟨worlds, ⟨phase', phase'', isTask, rfl, phases⟩, sameOutcome⟩
  have next := step_solo bare (shadows.turn before isTurn) isTwin
  rw [← here] at next
  have after := after_succ next
  have sameWorld : { own' with clock := (task.poll session.context world).1.clock } = own' := by
    rw [worlds.clock]
  rw [isTask, sameOutcome]
  cases outcome with
  | none =>
      refine ⟨fun _ => ⟨steps' + 1, own', phase'', ?_, shadows.device, ?_, ?_,
        Or.inl worlds.clock.symm⟩, by simp⟩
      · rw [after, solo, bare.mailbox]
        rfl
      · rw [sameWorld]
        exact worlds
      · rw [sameWorld]
        exact phases
  | some outcome =>
      have isOver := (reports.1 rfl).2
      have liveTwin := worlds.interruption session.context ▸ live
      have ends := step_solo_reported bare liveTwin isOver outcome
      refine ⟨by simp, fun _ same => ⟨steps' + 2, own', [task.enter phase''], ?_⟩⟩
      obtain rfl := Option.some.inj same
      have sameDevice : (task.enter phase'').device = device := shadows.device
      rw [← sameDevice]
      exact after_succ (after ▸ ends)

end Shadows

/-- A task that keeps its device apart is followed by its twin until it reports. -/
theorem watch_shadowed (alone : Run δ) {session : Session} (bare : session.Bare)
    (device : DeviceId) {origin : δ} {config : DeviceConfig}
    (apart : Driver.KeepsApart origin config.address) :
    Task.Watch δ session.context config
      (fun world task => task.config = config ∧ alone.Shadowed session device origin world task)
      fun _ outcome => alone.EndsWith session device outcome where
  looks := by
    rintro world task rfl ⟨-, steps, own, phase, shadows⟩ - isTurn live
    rcases shadows.look bare apart isTurn live with ⟨goesOn, brings⟩
    refine ⟨fun silent => ⟨?_, goesOn silent⟩, brings⟩
    rcases (task.poll_polls session.context world).eq_enter with ⟨phase, same⟩
    rw [same]
    rfl
  spared := by
    rintro before after task spares ⟨rfl, steps, own, phase, shadows⟩
    exact ⟨rfl, steps, own, phase, shadows.spared spares⟩
  waits := by
    rintro world task time waiting passes least ⟨rfl, steps, own, phase, shadows⟩
    exact ⟨rfl, steps, own, phase, shadows.waits waiting passes least⟩
  stays _ ends := ends
  lasts _ ends := ends

/-- A new task is the twin of the same task alone, as long as nothing is being opened. -/
theorem shadowed_start {world : World δ} {session : Session} {task : Task}
    {cached : CachedDriver δ} (bare : session.Bare)
    (live : world.interruption? session.context = none) (calm : world.Calm)
    (fresh : task.phase = .opening .fresh)
    (found : world.registry.get task.config.driver = some cached) :
    (solo world session task).Shadowed session task.device cached.driver world task := by
  have grounded := calm _ _ found task.config.address
  have phases : task.phase.Twins session.context task.config world world task.phase := by
    rw [fresh]
    exact .opening ⟨cached, cached, found, found, .fresh grounded grounded⟩
  exact ⟨0, world, task.phase, attend_solo bare live (by simp [fresh]), rfl, .start found, phases,
    Or.inl rfl⟩

end Run

namespace World

variable {δ : Type} [Driver δ]

/-- A request whose run comes to its end with an outcome is answered with it. -/
theorem serveOne_of_endsWith {world : World δ} {request : RoomRequest} {session : Session}
    {device : DeviceId} {outcome : Outcome} (prepared : world.prepare request = .ok session)
    (endsWith : (world.engage [request]).EndsWith session device outcome) :
    (world.serveOne request none).2 = some (.ok {
      operation := session.operation
      response := .single device (session.operation.summarize outcome.findings)
        (outcome.reports.mergeSort fun a b => (a.compare b).isLE) }) := by
  rcases endsWith with ⟨steps, own, tasks, isEnd⟩
  have ended : ((world.engage [request]).after steps).finished = true := by
    rw [isEnd]
    rfl
  have same : (world.engage [request]).complete none = (world.engage [request]).after steps :=
    Run.go_unique (world.complete_ends [request] none) (Run.step_of_finished ended none)
  have finished : ((world.engage [request]).complete none).finished = true := by rw [same, ended]
  have served := serveOne_eq prepared finished (by rw [same, isEnd])
  rw [served, Session.answer_single rfl]

/--
What an answer says of a device is the answer for this device alone, whatever becomes of its
siblings: as long as no sibling is reached at the same address and the driver keeps the device
apart.
-/
theorem isolates {world world' : World δ} {request : RoomRequest} {answer : Answer}
    {device : DeviceId} {work : Work} {config : DeviceConfig} {cached : CachedDriver δ}
    (calm : world.Calm)
    (unbounded : request.context.deadline = none) (patient : request.cancelAt = none)
    (isTarget : (device, work) ∈ request.operation.targets request.room)
    (isConfig : request.room.devices.get? device = some config)
    (sole : ∀ other config', request.room.devices.get? other = some config' → other ≠ device →
      (config.driver, config.address) ≠ (config'.driver, config'.address))
    (registered : world.registry.get config.driver = some cached)
    (apart : Driver.KeepsApart cached.driver config.address)
    (served : world.serveOne request none = (world', some (.ok answer)))
    (live : world'.interruption? request.context = none) :
    (world.serveOne (request.only device) none).2 = some (.ok (answer.only device)) := by
  rcases serveOne_ok served with ⟨start, last, prepared, finished, ends, rfl⟩
  have ready := ready_of_prepare prepared
  rcases ready.task isTarget with ⟨task, isTask, assigned⟩
  obtain rfl : task.device = device := assigned.device
  obtain rfl : config = task.config := Option.some.inj (isConfig.symm.trans assigned.config)
  have undisturbed := undisturbed prepared unbounded patient (by rw [ends]; exact live)
  have hosts := hosts_engage prepared calm undisturbed.toUnhurried isTask sole
  let alone : Session := {
    operation := request.operation.only task.device
    context := request.context
    cancelAt := request.cancelAt
    tasks := [task] }
  have preparedAlone : world.prepare (request.only task.device) = .ok alone :=
    ready.prepare_only isTask
  have bare : alone.Bare := ⟨unbounded, patient, rfl, rfl⟩
  have sameRun : world.engage [request.only task.device] = Run.solo world alone task := by
    simp only [engage, List.map_cons, List.map_nil, preparedAlone]
    rfl
  -- from here on, every look at the task in the full run is caught up with by the run alone
  have watch := Run.watch_shadowed (Run.solo world alone task) bare task.device apart
  rw [show alone.context = start.context from ready.context.symm] at watch
  rcases undisturbed.watches hosts assigned.fresh watch
    ⟨rfl, Run.shadowed_start bare ready.live calm assigned.fresh registered⟩ with
    ⟨last', task', watches, onward, sameDevice, -⟩
  have isLast : last = last' := by simpa [ends] using watches.hosts.alone
  subst isLast
  rw [watches.hosts.finished_eq] at finished
  rcases watches.tells finished with ⟨outcome, endsWith, tells⟩
  rw [sameDevice] at tells
  have sameOperation : last.answer.operation.only task.device = alone.operation :=
    congrArg (·.only task.device) (onward.continues.operation.trans ready.operation)
  rw [← sameRun] at endsWith
  rw [serveOne_of_endsWith preparedAlone endsWith, Answer.only_eq tells, sameOperation]

/-- A script by which the second device takes its time, and then breaks down. -/
def annexScript : Script where
  openRules := SortedMap.empty.insert "annex" { delay := 5, crashes := true }

theorem isolates_annexedLab :
    let request : RoomRequest :=
      { operation := .health, room := annexedLab, context := { deadline := none, token := 0 } }
    let world := labWorld ({ script := annexScript } : ScriptedDriver)
    ∃ world' answer, world.serveOne request none = (world', some (.ok answer)) ∧
      world'.interruption? request.context = none ∧
      (world.serveOne (request.only ⟨"D1"⟩) none).2 = some (.ok (answer.only ⟨"D1"⟩)) := by
  intro request world
  have isOk : ((world.serveOne request none).2.bind Except.toOption).isSome = true := by
    decide +kernel
  have live : (world.serveOne request none).1.interruption? request.context = none := by
    decide +kernel
  rcases exists_of_answered isOk with ⟨answer, served⟩
  have isTarget : (⟨"D1"⟩, Work.probeHealth) ∈ request.operation.targets request.room := by decide
  have isConfig : request.room.devices.get? ⟨"D1"⟩ =
      some { address := "lab", driver := "display" } := by decide
  have registered : world.registry.get "display" = some { driver := { script := annexScript } } :=
    rfl
  refine ⟨_, answer, served, live, isolates (calm_labWorld _) rfl rfl isTarget isConfig ?_
    registered (ScriptedDriver.keepsApart _ _) served live⟩
  intro other config isOther differs
  simp only [request, annexedLab, lab, SortedMap.get?_insert, if_neg differs] at isOther
  split at isOther
  · obtain rfl := Option.some.inj isOther
    decide
  · cases isOther

end World

end AvControl

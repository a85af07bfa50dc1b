import AvControl.Proofs.Engine.Companions
import AvControl.Proofs.Virtual.Deals
import AvControl.Proofs.Virtual.Dialling
import AvControl.Proofs.Virtual.World

/-!
# A task with a virtual device to itself

When nobody else has to do with a virtual device, a task that is not hurried finds it as it was
left, and the device does what the task asks of it, one command after another. In the end the task
has carried out its plan, in one of the orders in which it may be carried out, and has brought the
deals that the device makes of it; unless the address is one that is never reached.
-/

namespace AvControl

open Virtual

/-- How far a plan is carried out: what is done, and what is to be done before later rows. -/
inductive Virtual.Progress (plan : Plan) (performed pending : List Command) :
    List (List Command) → Prop
  | leads (all : (performed ++ pending).Perm plan.lead) :
      Progress plan performed pending plan.lanes
  | follows {first second : List Command} (isPerformed : performed = first ++ second)
      (leads : first.Perm plan.lead) (all : (second ++ pending).Perm plan.lanes.flatten) :
      Progress plan performed pending []

namespace Virtual.Progress

variable {plan : Plan} {performed pending others : List Command} {later : List (List Command)}

theorem perm (progress : Progress plan performed pending later) (same : others.Perm pending) :
    Progress plan performed others later := by
  cases progress with
  | leads all => exact .leads ((same.append_left _).trans all)
  | follows isPerformed leads all =>
      exact .follows isPerformed leads ((same.append_left _).trans all)

theorem perform {command : Command}
    (progress : Progress plan performed (command :: pending) later) :
    Progress plan (performed ++ [command]) pending later := by
  cases progress with
  | leads all => exact .leads (by simpa using all)
  | @follows first second isPerformed leads all =>
      have isMore : performed ++ [command] = first ++ (second ++ [command]) := by
        rw [isPerformed, List.append_assoc]
      exact .follows isMore leads (by simpa using all)

theorem proceed (progress : Progress plan performed [] later) :
    Progress plan performed later.flatten [] := by
  cases progress with
  | leads all => exact .follows (List.append_nil _).symm (by simpa using all) (.refl _)
  | follows isPerformed leads all => exact .follows isPerformed leads all

theorem orders (progress : Progress plan performed [] []) : Orders plan performed := by
  generalize isLater : ([] : List (List Command)) = later at progress
  cases progress with
  | leads all =>
      exact ⟨performed, [], (List.append_nil _).symm, by simpa using all, by simp [← isLater]⟩
  | follows isPerformed leads all => exact ⟨_, _, isPerformed, leads, by simpa using all⟩

end Virtual.Progress

namespace World

variable {δ : Type} [Driver δ] [Enacts δ] {before after world : World δ} {config : DeviceConfig}
  {hardware : Hardware}

/-- A device is as it is, and nobody is about to open it. -/
def RestsAt (world : World δ) (driver address : String) (hardware : Hardware) : Prop :=
  ∃ cached, world.registry.get driver = some cached ∧ cached.WiredAt address ∧
    cached.inFlight.get? address = none ∧ cached.hardwareAt address = hardware

/-- A device is connected. -/
def ConnectedAt (world : World δ) (driver address : String) (hardware : Hardware) : Prop :=
  ∃ cached, world.registry.get driver = some cached ∧ cached.WiredAt address ∧
    cached.inFlight.get? address = none ∧ cached.player.hardware? address = some hardware

theorem ConnectedAt.restsAt {driver address : String}
    (connected : world.ConnectedAt driver address hardware) :
    world.RestsAt driver address hardware := by
  rcases connected with ⟨cached, found, wired, grounded, isHardware⟩
  refine ⟨cached, found, wired, grounded, ?_⟩
  rw [CachedDriver.hardwareAt, VirtualDriver.hardwareAt, isHardware]
  rfl

theorem ConnectedAt.registered {driver address : String}
    (connected : world.ConnectedAt driver address hardware) :
    (world.registry.get driver).isSome = true := by
  rcases connected with ⟨cached, found, -⟩
  simp [found]

theorem ConnectedAt.reachable {driver address : String}
    (connected : world.ConnectedAt driver address hardware) :
    VirtualDriver.unreachable address = false := by
  rcases connected with ⟨cached, -, wired, -, isHardware⟩
  exact (wired.reached hardware isHardware).1

theorem Spares.exists_sameWiring (spares : Spares config before after) {cached : CachedDriver δ}
    (found : before.registry.get config.driver = some cached) :
    ∃ cached', after.registry.get config.driver = some cached' ∧
      cached.SameWiring config.address cached' := by
  rcases spares.cached cached found with ⟨cached', found', same, asks, away, asked⟩
  exact ⟨cached', found', same.sameWiring away asked⟩

theorem RestsAt.spared (rests : before.RestsAt config.driver config.address hardware)
    (spares : Spares config before after) :
    after.RestsAt config.driver config.address hardware := by
  rcases rests with ⟨cached, found, wired, grounded, isHardware⟩
  rcases spares.exists_sameWiring found with ⟨cached', found', same⟩
  exact ⟨cached', found', same.wiredAt wired, same.inFlight.trans grounded,
    same.hardwareAt.trans isHardware⟩

theorem ConnectedAt.spared (connected : before.ConnectedAt config.driver config.address hardware)
    (spares : Spares config before after) :
    after.ConnectedAt config.driver config.address hardware := by
  rcases connected with ⟨cached, found, wired, grounded, isHardware⟩
  rcases spares.exists_sameWiring found with ⟨cached', found', same⟩
  exact ⟨cached', found', same.wiredAt wired, same.inFlight.trans grounded,
    same.hardware.trans isHardware⟩

theorem timely_beginCall (registered : (world.registry.get config.driver).isSome = true)
    (context : RequestContext) (command : Command) :
    (world.beginCall config context command).2.due.isSome = true := by
  rcases Option.isSome_iff_exists.1 registered with ⟨cached, found⟩
  simp only [beginCall, found, (Enacts.beginCall cached.driver config.address command).2]
  rfl

theorem ConnectedAt.beginCall (connected : world.ConnectedAt config.driver config.address hardware)
    (context : RequestContext) (command : Command) :
    (world.beginCall config context command).1.ConnectedAt config.driver config.address
      hardware := by
  rcases connected with ⟨cached, found, wired, grounded, isHardware⟩
  rcases cached.preserves_beginCall config.address command config.address wired with ⟨wired', -⟩
  simp only [World.beginCall, found]
  refine ⟨_, get_set _ _ _, wired', grounded, ?_⟩
  have same := (Enacts.beginCall cached.driver config.address command).1
  exact (congrArg (fun driver => driver.hardware? config.address) same).trans isHardware

/-- A device that is connected makes a deal of a call, and is then as it is after the command. -/
theorem ConnectedAt.finishCall
    (connected : before.ConnectedAt config.driver config.address hardware) {command : Command}
    {result : Except FieldError command.Result}
    (done : before.finishCall config command = (after, .done result)) :
    after.ConnectedAt config.driver config.address (hardware.after config.address command) ∧
      hardware.deal config.address command = ⟨command, result⟩ := by
  rcases connected with ⟨cached, found, wired, grounded, isHardware⟩
  have changes := (CachedDriver.finishCall_of_connected isHardware command).1
  rcases VirtualDriver.perform_of_connected isHardware command with ⟨-, others, -⟩
  rw [finishCall_eq found, verdict_of_connected isHardware, Prod.mk.injEq] at done
  rcases done with ⟨rfl, isVerdict⟩
  obtain rfl := Verdict.done.inj isVerdict
  refine ⟨⟨_, get_set _ _ _, (changes _ wired).1, grounded, ?_⟩, rfl⟩
  have isPlayer := (Enacts.finishCall cached.driver config.address command).1
  refine (congrArg (fun driver => driver.hardware? config.address) isPlayer).trans ?_
  rw [CachedDriver.player] at others
  rw [others, if_pos rfl]

end World

namespace Task

variable {δ : Type} [Driver δ] [Enacts δ] {task : Task} {context : RequestContext}
  {hardware : Hardware} {bench bench' : Bench δ} {performed : List Command}
  {world before after : World δ} {result : World δ × Task × Option Outcome} {outcome : Outcome}

/-- The plan of a task for a device. -/
def planFor (task : Task) (hardware : Hardware) : Plan :=
  task.work.plan task.device task.config hardware.model.handle

/-- What is known of a task at work whose device has carried out some commands. -/
structure Enacted (task : Task) (hardware : Hardware) (bench : Bench δ)
    (performed : List Command) : Prop where
  connected : bench.world.ConnectedAt task.config.driver task.config.address
    (hardware.afterAll task.config.address performed)
  findings : bench.outcome.findings =
    (hardware.deals task.config.address performed).filterMap Deal.finding?
  reports : bench.outcome.reports = (task.planFor hardware).refused ++
    (hardware.deals task.config.address performed).filterMap fun deal => deal.report? task.device
  progress : Progress (task.planFor hardware) performed (pending bench.lanes []) bench.later
  prompt : Prompt bench.lanes

/-- Under a live context the device carries out one command more, or none. -/
theorem Move.enacted (move : task.Move context bench bench')
    (live : bench'.world.interruption? context = none)
    (enacted : task.Enacted hardware bench performed) :
    ∃ performed', task.Enacted hardware bench' performed' := by
  have wasLive := move.later.live live
  have registered := enacted.connected.registered
  have prompt := move.prompt (World.timely_beginCall registered context) enacted.prompt
  rcases enacted with ⟨connected, findings, reports, progress, -⟩
  cases move with
  | skip _ ended | breakOff _ ended => exact absurd (ended.symm.trans wasLive) (by simp)
  | begin here =>
      refine ⟨performed, connected.beginCall context _, findings, reports, ?_, prompt⟩
      simpa [here, pending, Lane.commands] using progress
  | leave here =>
      refine ⟨performed, connected, findings, reports, ?_, prompt⟩
      simpa [here, pending, Lane.commands] using progress
  | proceed isOver =>
      refine ⟨performed, connected, findings, reports, ?_, prompt⟩
      simp only [isOver, pending, List.flatMap_nil, List.flatten_nil, List.append_nil] at progress
      simpa [pending, Bench.successors, Lane.commands, List.flatMap_map, List.flatMap_id'] using
        progress.proceed
  | @finish before after call rest world result here due done =>
      rcases connected.finishCall done with ⟨connected', isDeal⟩
      have isAfter : hardware.afterAll task.config.address (performed ++ [call.command]) =
          (hardware.afterAll task.config.address performed).after task.config.address
            call.command := Hardware.afterAll_append _ _ _ _
      have isMore : hardware.deals task.config.address (performed ++ [call.command]) =
          hardware.deals task.config.address performed ++ [⟨call.command, result⟩] := by
        rw [Hardware.deals_append, ← isDeal]
        rfl
      refine ⟨performed ++ [call.command], isAfter ▸ connected', ?_, ?_, ?_, prompt⟩
      · rw [isMore, List.filterMap_append, ← findings]
        exact findings_note ⟨call.command, result⟩
      · rw [isMore, List.filterMap_append, ← List.append_assoc, ← reports]
        exact reports_note ⟨call.command, result⟩
      · refine Progress.perform (progress.perm ?_)
        simp [here, pending, Lane.commands, List.perm_middle.symm]

theorem Moves.enacted (moves : task.Moves context bench bench')
    (live : bench'.world.interruption? context = none)
    (enacted : task.Enacted hardware bench performed) :
    ∃ performed', task.Enacted hardware bench' performed' := by
  induction moves with
  | refl => exact ⟨performed, enacted⟩
  | tail _ move ih =>
      rcases ih (move.later.live live) with ⟨performed', enacted'⟩
      exact move.enacted live enacted'

/--
What is known of a task that has not reported: how it waits for its device, or how far the device
has come, and that it does not wait for ever.
-/
inductive OnDuty (context : RequestContext) (hardware : Hardware) (world : World δ)
    (task : Task) : Prop
  | opens {caller : Caller} {cached : CachedDriver δ} (opening : task.phase = .opening caller)
      (unanswered : caller.answer? = none)
      (found : world.registry.get task.config.driver = some cached)
      (wired : cached.WiredAt task.config.address)
      (isHardware : cached.hardwareAt task.config.address = hardware)
      (dials : cached.Dials context task.config.address caller) :
      OnDuty context hardware world task
  | works {lanes : List Lane} {later : List (List Command)} {outcome : Outcome}
      {performed : List Command} (working : task.phase = .working lanes later outcome)
      (enacted : task.Enacted hardware ⟨world, lanes, later, outcome⟩ performed)
      (busy : ∃ lane ∈ lanes, ∃ call, lane.call = some call) :
      OnDuty context hardware world task

/-- What a task brings, and how it leaves a device that was as it was. -/
inductive Achieves (task : Task) (hardware : Hardware) (world : World δ) : Outcome → Prop
  | unreached (unreachable : VirtualDriver.unreachable task.config.address = true)
      (rests : world.RestsAt task.config.driver task.config.address hardware) :
      Achieves task hardware world (.ofDevice task.device
        (FieldError.create (noSuchHost task.config.address)).message)
  | done {outcome : Outcome} {performed : List Command}
      (reachable : VirtualDriver.unreachable task.config.address = false)
      (orders : Orders (task.planFor hardware) performed)
      (rests : world.RestsAt task.config.driver task.config.address
        (hardware.afterAll task.config.address performed))
      (findings : outcome.findings =
        (hardware.deals task.config.address performed).filterMap Deal.finding?)
      (reports : outcome.reports = (task.planFor hardware).refused ++
        (hardware.deals task.config.address performed).filterMap fun deal =>
          deal.report? task.device) :
      Achieves task hardware world outcome

theorem Works.onDuty (works : task.Works context bench result)
    (live : result.1.interruption? context = none)
    (enacted : task.Enacted hardware bench performed) :
    (result.2.2 = none → result.2.1.OnDuty context hardware result.1) ∧
      ∀ outcome, result.2.2 = some outcome → task.Achieves hardware result.1 outcome := by
  cases works with
  | @stays bench' moves busy idle =>
      refine ⟨fun _ => ?_, by simp⟩
      rcases Moves.enacted moves live enacted with ⟨performed', enacted'⟩
      rcases List.exists_mem_of_ne_nil _ busy with ⟨lane, member⟩
      rcases idle lane member with ⟨call, isCall, -⟩
      exact .works rfl ⟨enacted'.connected, enacted'.findings, enacted'.reports,
        enacted'.progress, enacted'.prompt⟩ ⟨lane, member, call, isCall⟩
  | @reports bench' moves isOver last =>
      refine ⟨by simp, fun outcome isOutcome => ?_⟩
      obtain rfl := Option.some.inj isOutcome
      rcases Moves.enacted moves live enacted with ⟨performed', enacted'⟩
      have progress := enacted'.progress
      rw [isOver, last] at progress
      exact .done enacted'.connected.reachable progress.orders enacted'.connected.restsAt
        enacted'.findings enacted'.reports
  | crashes moves crash =>
      rcases crash with ⟨before, call, rest, after, -, -, crashed⟩
      exact absurd (congrArg Prod.snd crashed) (World.finishCall_sound _ _ _)

theorem enacted_workbench
    (connected : world.ConnectedAt task.config.driver task.config.address hardware) :
    task.Enacted hardware (task.workbench world hardware.model.handle) [] where
  connected := connected
  findings := rfl
  reports := (List.append_nil _).symm
  progress := .leads (by simp [workbench, pending, Lane.commands, planFor])
  prompt := by simp [Prompt, workbench]

/-- What comes of looking after the opening of the device. -/
theorem opened_onDuty {caller : Caller} {cached : CachedDriver δ}
    (found : world.registry.get task.config.driver = some cached)
    (wired : cached.WiredAt task.config.address)
    (isHardware : cached.hardwareAt task.config.address = hardware)
    (dials : cached.Dials context task.config.address caller)
    (live : world.interruption? context = none) :
    ∃ cached', (task.opened context world caller).1.registry.get task.config.driver =
        some cached' ∧ cached'.WiredAt task.config.address ∧
      cached'.hardwareAt task.config.address = hardware ∧
      cached'.Dials context task.config.address (task.opened context world caller).2 := by
  rcases World.lookAfter_eq found task.config.address context caller with
    ⟨journal, tickets, same⟩
  rcases cached.preserves_poll world.tokens world.clock world.tickets context
    task.config.address caller task.config.address wired with ⟨wired', sameHardware⟩
  rw [opened, same]
  exact ⟨_, World.get_set _ _ _, wired', sameHardware.trans isHardware, dials.poll wired live⟩

/-- A task that nobody hurries has its device carry out its plan, or finds it out of reach. -/
theorem Polls.onDuty (polls : task.Polls context world result)
    (onDuty : task.OnDuty context hardware world)
    (live : result.1.interruption? context = none) :
    (result.2.2 = none → result.2.1.OnDuty context hardware result.1) ∧
      ∀ outcome, result.2.2 = some outcome → task.Achieves hardware result.1 outcome := by
  have opens : ∀ caller, task.phase = .opening caller →
      ∃ cached, (task.opened context world caller).1.registry.get task.config.driver =
          some cached ∧ cached.WiredAt task.config.address ∧
        cached.hardwareAt task.config.address = hardware ∧
        cached.Dials context task.config.address (task.opened context world caller).2 := by
    intro caller opening
    cases onDuty with
    | opens opening' _ found wired isHardware dials =>
        obtain rfl := Phase.opening.inj (opening.symm.trans opening')
        exact opened_onDuty found wired isHardware dials (polls.later.live live)
    | works working =>
        rw [opening] at working
        cases working
  cases polls with
  | silent => exact ⟨fun _ => onDuty, by simp⟩
  | leavesOut _ ended | givesUp _ _ _ ended => exact absurd (ended.symm.trans live) (by simp)
  | fails opening _ answer =>
      refine ⟨by simp, fun outcome isOutcome => ?_⟩
      obtain rfl := Option.some.inj isOutcome
      rcases opens _ opening with ⟨cached, found, wired, isHardware, dials⟩
      -- under a live context an attempt fails for no other reason than its address
      rw [answer] at dials
      cases dials with
      | refused grounded unreachable =>
          exact .unreached unreachable ⟨cached, found, wired, grounded, isHardware⟩
  | waits opening _ unanswered =>
      rcases opens _ opening with ⟨cached, found, wired, isHardware, dials⟩
      exact ⟨fun _ => .opens rfl unanswered found wired isHardware dials, by simp⟩
  | begins opening _ answer works =>
      rcases opens _ opening with ⟨cached, found, wired, isHardware, dials⟩
      rw [answer] at dials
      cases dials with
      | @connected state grounded isState =>
          obtain rfl : state = hardware := by
            rw [← isHardware, CachedDriver.hardwareAt, VirtualDriver.hardwareAt, isState]
            rfl
          have isModel := (wired.reached state isState).2
          rw [← isModel] at works
          exact works.onDuty live (enacted_workbench ⟨cached, found, wired, grounded, isState⟩)
  | goesOn working works =>
      cases onDuty with
      | opens opening =>
          rw [working] at opening
          cases opening
      | works working' enacted _ =>
          obtain ⟨rfl, rfl, rfl⟩ := Phase.working.inj (working.symm.trans working')
          exact works.onDuty live enacted

/-- The task as it is some time later, and what is known of it. -/
def StaysOnDuty (task : Task) (context : RequestContext) (hardware : Hardware) (world : World δ)
    (other : Task) : Prop :=
  (∃ phase, other = task.enter phase) ∧ other.OnDuty context hardware world

theorem Achieves.enter {phase : Phase}
    (achieves : (task.enter phase).Achieves hardware world outcome) :
    task.Achieves hardware world outcome := by
  cases achieves with
  | unreached unreachable rests => exact .unreached unreachable rests
  | done reachable orders rests findings reports =>
      exact .done reachable orders rests findings reports

theorem Achieves.exists_restsAt (achieves : task.Achieves hardware world outcome) :
    ∃ hardware', world.RestsAt task.config.driver task.config.address hardware' := by
  cases achieves with
  | unreached _ rests | done _ _ rests => exact ⟨_, rests⟩

/-- A task that has not reported can go on, or will be able to. -/
theorem OnDuty.stirs (onDuty : task.OnDuty context hardware world) :
    (task.turn? context world).isSome = true ∨ ∃ wake, wake ∈ task.wakes world := by
  cases onDuty with
  | opens opening unanswered found wired isHardware dials =>
      cases dials with
      | fresh => exact Or.inl (by simp [turn?, opening])
      | joined isAttempt _ _ waiting =>
          exact Or.inr (exists_wake_of_joined opening found isAttempt waiting)
      | refused | connected => cases unanswered
  | works working enacted busy => exact Or.inr (exists_wake_of_working working busy enacted.prompt)

theorem OnDuty.wind (onDuty : task.OnDuty context hardware world) (time : Nat) :
    task.OnDuty context hardware { world with clock := time } := by
  cases onDuty with
  | opens opening unanswered found wired isHardware dials =>
      exact .opens opening unanswered found wired isHardware dials
  | works working enacted busy =>
      exact .works working ⟨enacted.connected, enacted.findings, enacted.reports,
        enacted.progress, enacted.prompt⟩ busy

theorem OnDuty.spared (onDuty : task.OnDuty context hardware before)
    (spares : World.Spares task.config before after) : task.OnDuty context hardware after := by
  cases onDuty with
  | opens opening unanswered found wired isHardware dials =>
      rcases spares.exists_sameWiring found with ⟨cached', found', same⟩
      exact .opens opening unanswered found' (same.wiredAt wired)
        (same.hardwareAt.trans isHardware) (dials.same same)
  | works working enacted busy =>
      exact .works working ⟨enacted.connected.spared spares, enacted.findings, enacted.reports,
        enacted.progress, enacted.prompt⟩ busy

theorem Achieves.spared (achieves : task.Achieves hardware before outcome)
    (spares : World.Spares task.config before after) :
    task.Achieves hardware after outcome := by
  cases achieves with
  | unreached unreachable rests => exact .unreached unreachable (rests.spared spares)
  | done reachable orders rests findings reports =>
      exact .done reachable orders (rests.spared spares) findings reports

theorem Achieves.wind (achieves : task.Achieves hardware world outcome) (time : Nat) :
    task.Achieves hardware { world with clock := time } outcome := by
  cases achieves with
  | unreached unreachable rests => exact .unreached unreachable rests
  | done reachable orders rests findings reports =>
      exact .done reachable orders rests findings reports

/-- A task that nobody hurries brings what its device makes of its plan. -/
theorem watch_onDuty (task : Task) (context : RequestContext) (hardware : Hardware) :
    Watch δ context task.config (task.StaysOnDuty context hardware)
      (task.Achieves hardware) where
  looks := by
    rintro world other - ⟨⟨phase, rfl⟩, onDuty⟩ - - live
    have polls := (task.enter phase).poll_polls context world
    rcases polls.eq_enter with ⟨phase', same⟩
    rcases polls.onDuty onDuty live with ⟨goesOn, achieves⟩
    exact ⟨fun silent => ⟨⟨phase', same⟩, goesOn silent⟩,
      fun outcome isOutcome => (achieves outcome isOutcome).enter⟩
  spared := by
    rintro before after other spares ⟨⟨phase, rfl⟩, onDuty⟩
    exact ⟨⟨phase, rfl⟩, onDuty.spared spares⟩
  waits := by
    rintro world other time - - - ⟨same, onDuty⟩
    exact ⟨same, onDuty.wind time⟩
  stays spares achieves := achieves.spared spares
  lasts time achieves := achieves.wind time

/-- A new task is on duty where its device rests. -/
theorem onDuty_of_fresh (rests : world.RestsAt task.config.driver task.config.address hardware)
    (fresh : task.phase = .opening .fresh) (context : RequestContext) :
    task.StaysOnDuty context hardware world task := by
  rcases rests with ⟨cached, found, wired, grounded, isHardware⟩
  exact ⟨⟨task.phase, rfl⟩, .opens fresh rfl found wired isHardware (.fresh grounded)⟩

end Task

end AvControl

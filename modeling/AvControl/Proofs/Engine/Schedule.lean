import AvControl.Proofs.Driver.Timetable
import AvControl.Proofs.Engine.Companions
import AvControl.Proofs.Engine.Duration

/-!
# Requests that go by timetables

While a request without a deadline is served by drivers that go by their timetables, it is known of
every task when it will report, and the clock never jumps beyond the time of a task that has not.
Several devices of a room may be reached at the same address. A task then shares the opening of its
device with others, so that nothing can be kept for one task alone: what is kept is kept for all
tasks together, and looking after one of them lets the timetables of all others stand.
-/

namespace AvControl

namespace World

variable {world first middle last : World ScriptedDriver} {timetable : Timetable}

/-- A device is opened, and its calls are over, by its timetable. -/
def Stands (world : World ScriptedDriver) (timetable : Timetable) : Prop :=
  ∃ cached, world.registry.get timetable.driver = some cached ∧ cached.Keeps timetable ∧
    cached.Stands timetable world.clock

/-- Somebody seeks a device in time, or waits for it. -/
def Seeks (world : World ScriptedDriver) (timetable : Timetable) (caller : Caller) : Prop :=
  ∃ cached, world.registry.get timetable.driver = some cached ∧
    cached.Seeks timetable world.clock caller

/-- Between two moments of the same time nothing has happened that is not in a timetable. -/
structure Respects (timetable : Timetable) (before after : World ScriptedDriver) : Prop where
  clock : after.clock = before.clock
  tokens : after.tokens = before.tokens
  cached : ∃ cached cached', before.registry.get timetable.driver = some cached ∧
    after.registry.get timetable.driver = some cached' ∧ cached'.Keeps timetable ∧
    CachedDriver.Advances timetable before.clock cached cached'

namespace Respects

theorem refl (stands : world.Stands timetable) : Respects timetable world world := by
  rcases stands with ⟨cached, found, keeps, stands⟩
  exact ⟨rfl, rfl, cached, cached, found, found, keeps, .refl stands⟩

theorem trans (earlier : Respects timetable first middle)
    (later : Respects timetable middle last) : Respects timetable first last := by
  rcases earlier.cached with ⟨cached, between, found, found', -, advances⟩
  rcases later.cached with ⟨between', cached', found'', isLast, keeps, advances'⟩
  obtain rfl := Option.some.inj (found'.symm.trans found'')
  rw [earlier.clock] at advances'
  exact ⟨later.clock.trans earlier.clock, later.tokens.trans earlier.tokens, cached, cached', found,
    isLast, keeps, advances.trans advances'⟩

theorem stands (respects : Respects timetable first last) : last.Stands timetable := by
  rcases respects.cached with ⟨_, cached', _, found', keeps, advances⟩
  exact ⟨cached', found', keeps, respects.clock ▸ advances.stands⟩

theorem seeks {caller : Caller} (respects : Respects timetable first last)
    (seeks : first.Seeks timetable caller) : last.Seeks timetable caller := by
  rcases respects.cached with ⟨cached, cached', found, found', -, advances⟩
  rcases seeks with ⟨_, isFound, seeks⟩
  obtain rfl := Option.some.inj (found.symm.trans isFound)
  refine ⟨cached', found', ?_⟩
  rw [respects.clock]
  cases seeks with
  | fresh inTime => exact .fresh inTime
  | joined yields => exact .joined (advances.yields _ yields)

theorem live {context : RequestContext} (respects : Respects timetable first last)
    (live : first.interruption? context = none) : last.interruption? context = none := by
  rwa [interruption?, respects.clock, respects.tokens]

/-- What the driver says in a call is not in the way of the opening of its devices. -/
theorem of_alike {cached : CachedDriver ScriptedDriver} {driver : ScriptedDriver}
    (found : world.registry.get timetable.driver = some cached) (keeps : cached.Keeps timetable)
    (stands : cached.Stands timetable world.clock)
    (alike : cached.driver.OpensAlike timetable.address driver) (journal : List Event)
    (tickets : Nat) :
    Respects timetable world { world with
      registry := world.registry.set timetable.driver { cached with driver }, journal, tickets } :=
  have same : cached.SameAt timetable.address { cached with driver } :=
    ⟨rfl, rfl, fun _ _ _ => Iff.rfl⟩
  ⟨rfl, rfl, cached, _, found, get_set _ _ _, keeps.congr alike.script, alike.script,
    stands.congr same alike, fun _ yields => yields.congr same⟩

/-- Whatever is done to other devices is in no timetable of this one. -/
theorem of_spares {config : DeviceConfig} (spares : Spares config first last)
    (driver : config.driver = timetable.driver) (address : config.address = timetable.address)
    (stands : first.Stands timetable) : Respects timetable first last := by
  rcases stands with ⟨cached, found, keeps, stands⟩
  rcases spares.cached cached (driver ▸ found) with ⟨cached', found', same, asks, away, asked⟩
  rw [driver] at found'
  rw [address] at same away
  have alike := ScriptedDriver.OpensAlike.of_elsewhere cached.driver away
  rw [← asked] at alike
  exact ⟨spares.clock, spares.tokens, cached, cached', found, found', keeps.congr alike.script,
    alike.script, stands.congr same alike, fun _ yields => yields.congr same⟩

end Respects

variable {config : DeviceConfig} {context : RequestContext}

theorem respects_beginCall (isOf : timetable.IsOf config) (stands : world.Stands timetable)
    (context : RequestContext) (command : Command) :
    Respects timetable world (world.beginCall config context command).1 ∧
      (world.beginCall config context command).2.due =
        some (world.clock + timetable.delay command) := by
  rcases stands with ⟨cached, found, keeps, stands⟩
  rcases keeps command with ⟨ends, delay⟩
  have reacts : Driver.beginCall cached.driver timetable.address command =
      (cached.driver, { wait := .ms (timetable.delay command) }) :=
    Prod.ext rfl (delay ▸ ends.reaction_eq)
  simp only [beginCall, isOf.driver, isOf.address, found, reacts, Bool.false_eq_true, if_false]
  exact ⟨.of_alike found keeps stands ⟨rfl, rfl⟩ _ _, rfl⟩

theorem respects_finishCall (isOf : timetable.IsOf config) (stands : world.Stands timetable)
    (command : Command) :
    Respects timetable world (world.finishCall config command).1 ∧
      (world.finishCall config command).2 ≠ .crashed := by
  rcases stands with ⟨cached, found, keeps, stands⟩
  have alike := ScriptedDriver.OpensAlike.of_finishCall timetable.address cached.driver
    timetable.address command
  have replies := ScriptedDriver.finishCall_ne_crash cached.driver (keeps command).1
  rw [finishCall_eq (isOf.driver ▸ found), isOf.driver, isOf.address]
  refine ⟨.of_alike found keeps stands alike _ _, ?_⟩
  cases replied : (Driver.finishCall cached.driver timetable.address command).2 with
  | crash => exact absurd replied replies
  | ok | error => simp [verdict]

/-- Whoever seeks a device waits for it or has it, as the timetable says. -/
theorem respects_lookAfter {caller : Caller} (stands : world.Stands timetable)
    (seeks : world.Seeks timetable caller) (context : RequestContext) :
    let looked := world.lookAfter timetable.driver timetable.address context caller
    Respects timetable world looked.1 ∧
      ((∃ number, looked.2 = .joined number ∧ looked.1.Seeks timetable looked.2 ∧
          world.clock < timetable.opened) ∨
        looked.2 = .answered (.ok timetable.handle) ∧ timetable.opened ≤ world.clock) := by
  rcases stands with ⟨cached, found, keeps, stands⟩
  rcases seeks with ⟨_, isFound, seeks⟩
  obtain rfl := Option.some.inj (found.symm.trans isFound)
  rcases stands.informs seeks world.tokens world.tickets context with
    ⟨sameTokens, advances, informs⟩
  rcases lookAfter_eq found timetable.address context caller with ⟨journal, tickets, same⟩
  intro looked
  simp only [looked, same]
  refine ⟨⟨rfl, sameTokens, cached, _, found, get_set _ _ _, keeps.congr advances.script, advances⟩,
    ?_⟩
  generalize (cached.poll world.tokens world.clock world.tickets context timetable.address
    caller).caller = told at informs
  cases informs with
  | waits yields early => exact Or.inl ⟨_, rfl, ⟨_, get_set _ _ _, .joined yields⟩, early⟩
  | opens past => exact Or.inr ⟨rfl, past⟩

end World

/-- When a task reports whose device goes by a timetable. -/
def Timetable.ends (timetable : Timetable) (task : Task) : Nat :=
  timetable.opened +
    (task.work.plan task.device task.config timetable.handle).duration timetable.delay

namespace Task

variable {task : Task} {world after : World ScriptedDriver} {timetable : Timetable}
  {context : RequestContext}

/-- A task seeks its device in time, and does its work in time when the device is open. -/
inductive OnSchedule (timetable : Timetable) (world : World ScriptedDriver) (task : Task) : Prop
  | opening {caller : Caller} (opening : task.phase = .opening caller)
      (seeks : world.Seeks timetable caller) (early : world.clock ≤ timetable.opened)
  | begun (keeps : Keeps timetable.delay (timetable.ends task) world.clock task.phase)

theorem OnSchedule.respects (onSchedule : task.OnSchedule timetable world)
    (respects : World.Respects timetable world after) : task.OnSchedule timetable after := by
  cases onSchedule with
  | opening opening seeks early =>
      exact .opening opening (respects.seeks seeks) (respects.clock ▸ early)
  | begun keeps => exact .begun (respects.clock ▸ keeps)

theorem OnSchedule.le_ends (onSchedule : task.OnSchedule timetable world)
    (unreported : task.phase ≠ .reported) : world.clock ≤ timetable.ends task := by
  cases onSchedule with
  | opening _ _ early => exact early.trans (Nat.le_add_right _ _)
  | begun keeps =>
      generalize task.phase = phase at keeps unreported
      cases keeps with
      | works onTime => exact onTime.le_ends
      | reports => exact absurd rfl unreported

theorem served_respects (isOf : timetable.IsOf task.config)
    (live : world.interruption? context = none) :
    task.Served context timetable.delay (World.Respects timetable world) := by
  refine ⟨fun respects => respects.live live, fun respects command => ?_,
    fun respects command => ?_⟩
  · rcases World.respects_beginCall isOf respects.stands context command with ⟨respects', due⟩
    exact ⟨respects.trans respects', due⟩
  · rcases World.respects_finishCall isOf respects.stands command with ⟨respects', sound⟩
    exact ⟨respects.trans respects', sound⟩

theorem Works.onSchedule {bench : Bench ScriptedDriver}
    {result : World ScriptedDriver × Task × Option Outcome}
    (works : task.Works context bench result) (isOf : timetable.IsOf task.config)
    (stands : bench.world.Stands timetable) (live : bench.world.interruption? context = none)
    (onTime : Punctual timetable.delay (timetable.ends task) bench) :
    World.Respects timetable bench.world result.1 ∧ result.2.1.OnSchedule timetable result.1 := by
  rcases works.keeps (served_respects isOf live) (.refl stands) onTime with ⟨respects, keeps⟩
  cases works <;> exact ⟨respects, .begun keeps⟩

/-- A device that is open when it should be is worked with from now on. -/
theorem punctual_workbench (now : world.clock = timetable.opened) :
    Punctual timetable.delay (timetable.ends task) (task.workbench world timetable.handle) := by
  refine ⟨fun lane member => ?_, ?_⟩
  · obtain rfl := List.mem_singleton.1 member
    exact Lane.timely_resting _ _
  · simp only [workbench, endTime, List.map_cons, List.map_nil, longest_cons, longest_nil,
      Lane.endTime, Option.bind_none, Option.getD_none, Timetable.ends, Plan.duration, now]
    omega

theorem OnSchedule.opened {caller : Caller} (onSchedule : task.OnSchedule timetable world)
    (isOf : timetable.IsOf task.config) (stands : world.Stands timetable)
    (opening : task.phase = .opening caller) (context : RequestContext) :
    World.Respects timetable world (task.opened context world caller).1 ∧
      ((task.enter (.opening (task.opened context world caller).2)).OnSchedule timetable
          (task.opened context world caller).1 ∧
          (∃ number, (task.opened context world caller).2 = .joined number) ∨
        (task.opened context world caller).2 = .answered (.ok timetable.handle) ∧
          (task.opened context world caller).1.clock = timetable.opened) := by
  cases onSchedule with
  | begun keeps =>
      rw [opening] at keeps
      cases keeps
  | opening opening' seeks early =>
      obtain rfl := Phase.opening.inj (opening.symm.trans opening')
      have looks := World.respects_lookAfter stands seeks context
      rw [← isOf.driver, ← isOf.address] at looks
      rcases looks with ⟨respects, told⟩
      refine ⟨respects, ?_⟩
      have sameClock : (task.opened context world caller).1.clock = world.clock := respects.clock
      rcases told with ⟨number, joined, seeks', early'⟩ | ⟨answered, past⟩
      · exact Or.inl ⟨.opening rfl seeks' (sameClock ▸ early), number, joined⟩
      · refine Or.inr ⟨answered, ?_⟩
        omega

theorem OnSchedule.poll (onSchedule : task.OnSchedule timetable world)
    (isOf : timetable.IsOf task.config) (stands : world.Stands timetable)
    (live : world.interruption? context = none) :
    World.Respects timetable world (task.poll context world).1 ∧
      (task.poll context world).2.1.OnSchedule timetable (task.poll context world).1 := by
  have polls := task.poll_polls context world
  generalize task.poll context world = result at polls
  cases polls with
  | silent => exact ⟨.refl stands, onSchedule⟩
  | leavesOut fresh ended => simp [live] at ended
  | fails opening _ answer =>
      rcases (onSchedule.opened isOf stands opening context).2 with ⟨-, joined⟩ | ⟨answered, -⟩
      · simp [answer] at joined
      · simp [answer] at answered
  | givesUp opening _ _ ended =>
      have stillLive := (onSchedule.opened isOf stands opening context).1.live live
      simp [stillLive] at ended
  | waits opening _ unanswered =>
      rcases onSchedule.opened isOf stands opening context with
        ⟨respects, ⟨onSchedule', -⟩ | ⟨answered, -⟩⟩
      · exact ⟨respects, onSchedule'⟩
      · simp [answered, Caller.answer?] at unanswered
  | begins opening _ answer works =>
      rcases onSchedule.opened isOf stands opening context with
        ⟨respects, ⟨-, joined⟩ | ⟨answered, now⟩⟩
      · simp [answer] at joined
      · simp only [answer, Caller.answered.injEq, Except.ok.injEq] at answered
        subst answered
        rcases works.onSchedule isOf respects.stands (respects.live live)
          (punctual_workbench now) with ⟨respects', onSchedule'⟩
        exact ⟨respects.trans respects', onSchedule'⟩
  | goesOn working works =>
      cases onSchedule with
      | opening opening =>
          rw [working] at opening
          cases opening
      | begun keeps =>
          rw [working] at keeps
          cases keeps with
          | works onTime => exact works.onSchedule isOf stands live onTime

/-- A task that seeks its device can go on, or waits until the device is open. -/
theorem stirs_of_seeks {caller : Caller} (isOf : timetable.IsOf task.config)
    (opening : task.phase = .opening caller) (seeks : world.Seeks timetable caller)
    (context : RequestContext) :
    (task.turn? context world).isSome = true ∨ timetable.opened ∈ task.wakes world := by
  rcases seeks with ⟨cached, found, seeks⟩
  cases seeks with
  | fresh => exact Or.inl (by simp [turn?, opening])
  | joined yields =>
      rcases yields with ⟨attempt, isAttempt, -, stage⟩
      have awaited : task.attempt? world = some attempt := by
        simp [attempt?, opening, isOf.driver, found, isAttempt]
      rcases stage with ⟨ended, -⟩ | ⟨waiting, -⟩
      · have isOver : attempt.isOver world.clock = true := by simp [Attempt.isOver, ended]
        exact Or.inl (by simp [turn?, opening, due, calls, awaited, isOver, Option.filter])
      · exact Or.inr (by simp [wakes, awaited, Attempt.wake?, waiting, earlier])

theorem OnSchedule.stirs (onSchedule : task.OnSchedule timetable world)
    (isOf : timetable.IsOf task.config) (unreported : task.phase ≠ .reported)
    (context : RequestContext) :
    (task.turn? context world).isSome = true ∨ ∃ wake, wake ∈ task.wakes world := by
  cases onSchedule with
  | opening opening seeks =>
      exact (stirs_of_seeks isOf opening seeks context).imp_right fun isWake => ⟨_, isWake⟩
  | begun keeps =>
      generalize isPhase : task.phase = phase at keeps unreported
      cases keeps with
      | reports => exact absurd rfl unreported
      | works onTime busy waits =>
          rcases List.exists_mem_of_ne_nil _ busy with ⟨lane, member⟩
          rcases Option.isSome_iff_exists.1 (waits lane member) with ⟨call, isCall⟩
          refine Or.inr (exists_wake_of_working isPhase ⟨lane, member, call, isCall⟩ ?_)
          intro other isOther call isCall
          rcases onTime.timely other isOther call isCall with ⟨due, isDue, -⟩
          simp [isDue]

/-- Time passes for a task that has to wait, as long as nothing of it is due before. -/
theorem OnSchedule.wait {time : Nat} (onSchedule : task.OnSchedule timetable world)
    (isOf : timetable.IsOf task.config) (passes : world.clock ≤ time)
    (idle : task.turn? context world = none) (notBefore : ∀ wake ∈ task.wakes world, time ≤ wake) :
    task.OnSchedule timetable { world with clock := time } := by
  cases onSchedule with
  | opening opening seeks =>
      rcases stirs_of_seeks isOf opening seeks context with isTurn | isWake
      · simp [idle] at isTurn
      · rcases seeks with ⟨cached, found, seeks⟩
        refine .opening opening ⟨cached, found, ?_⟩ (notBefore _ isWake)
        cases seeks with
        | fresh => simp [turn?, opening] at idle
        | joined yields => exact .joined (yields.later passes)
  | begun keeps =>
      refine .begun ?_
      generalize isPhase : task.phase = phase at keeps
      cases keeps with
      | reports past => exact .reports (past.trans passes)
      | works onTime busy waits =>
          refine .works (onTime.wait busy waits passes ?_) busy waits
          intro lane member call due isCall isDue
          refine notBefore due (List.mem_append_right _ (List.mem_filterMap.2 ⟨call, ?_, isDue⟩))
          simp only [calls, isPhase]
          exact List.mem_filterMap.2 ⟨lane, member, isCall⟩

theorem OnSchedule.atHome (onSchedule : task.OnSchedule timetable world)
    (isOf : timetable.IsOf task.config) : task.AtHome world := by
  intro cached caller found opening number joined
  cases onSchedule with
  | begun keeps =>
      rw [opening] at keeps
      cases keeps
  | opening opening' seeks =>
      obtain rfl := Phase.opening.inj (opening.symm.trans opening')
      rcases seeks with ⟨cached', found', seeks⟩
      rw [isOf.driver] at found
      obtain rfl := Option.some.inj (found.symm.trans found')
      subst joined
      cases seeks with
      | joined yields =>
          rcases yields with ⟨attempt, isAttempt, here, -⟩
          exact ⟨attempt, isAttempt, here.trans isOf.address.symm⟩

end Task

namespace World

/-- The driver of a device, where one is registered. -/
def driverOf (world : World ScriptedDriver) (config : DeviceConfig) :
    CachedDriver ScriptedDriver :=
  (world.registry.get config.driver).getD { driver := default }

/-- The timetable of a device that somebody seeks now. -/
def timetable (world : World ScriptedDriver) (config : DeviceConfig) : Timetable where
  driver := config.driver
  address := config.address
  start := world.clock
  opened := world.clock + (world.driverOf config).openingDelay config.address
  handle := (world.driverOf config).handleAt config.address
  delay command := ((world.driverOf config).callRule config.address command).delay

variable {world : World ScriptedDriver} {config : DeviceConfig}

theorem isOf_timetable (world : World ScriptedDriver) (config : DeviceConfig) :
    (world.timetable config).IsOf config := ⟨rfl, rfl⟩

theorem timetable_congr {other : DeviceConfig}
    (same : (config.driver, config.address) = (other.driver, other.address)) :
    world.timetable config = world.timetable other := by
  obtain ⟨sameDriver, sameAddress⟩ := Prod.mk.inj same
  simp only [timetable, driverOf, sameDriver, sameAddress]

/-- A reliable device with nothing in flight stands by its timetable. -/
theorem stands_timetable (calm : world.Calm)
    (registered : (world.registry.get config.driver).isSome = true)
    (reliable : (world.driverOf config).Reliable config.address) :
    world.Stands (world.timetable config) := by
  rcases Option.isSome_iff_exists.1 registered with ⟨cached, found⟩
  have same : world.driverOf config = cached := by simp [driverOf, found]
  have grounded := calm _ _ found config.address
  rw [same] at reliable
  refine ⟨cached, found, fun command => ?_, ?_⟩
  · exact ⟨reliable.ends command, by simp only [timetable, same]⟩
  · cases handled : cached.handles.get? config.address with
    | none =>
        refine .closed handled grounded (reliable.opens handled) ?_ ?_
        · simp [timetable, same, CachedDriver.openingDelay, handled]
        · simp [CachedDriver.Promises, timetable, same, CachedDriver.handleAt, handled]
    | some handle =>
        refine .opened ?_ grounded ?_
        · simp [timetable, same, CachedDriver.handleAt, handled]
        · simp [timetable, same, CachedDriver.openingDelay, handled]

end World

namespace Run

variable {start : World ScriptedDriver} {run next : Run ScriptedDriver} {session : Session}

/-- A request all of whose tasks go by the timetables of their devices. -/
structure Scheduled (start : World ScriptedDriver) (run : Run ScriptedDriver) (session : Session) :
    Prop extends run.Unhurried session where
  live : run.world.interruption? session.context = none
  rooted : run.world.Rooted
  stands : ∀ task ∈ session.tasks, run.world.Stands (start.timetable task.config)
  onSchedule : ∀ task ∈ session.tasks,
    task.OnSchedule (start.timetable task.config) run.world
  elapsed : run.world.clock = start.clock ∨
    ∃ task ∈ session.tasks, run.world.clock ≤ (start.timetable task.config).ends task

namespace Scheduled

theorem attend (scheduled : run.Scheduled start session) :
    ∃ session', run.attend.Scheduled start session' ∧ run.attend.Collecting session' ∧
      session.Onward session' := by
  have sameWorld := scheduled.world_attend scheduled.live
  rcases scheduled.toUnhurried.attend scheduled.live with ⟨session', collecting, onward⟩
  have sameTasks := scheduled.tasks_attend collecting.alone
  refine ⟨session', ⟨collecting.toUnhurried, ?_, ?_, ?_, ?_, ?_⟩, collecting, onward⟩
  · rw [sameWorld, onward.continues.context]
    exact scheduled.live
  · rw [sameWorld]
    exact scheduled.rooted
  · rw [sameWorld, sameTasks]
    exact scheduled.stands
  · rw [sameWorld, sameTasks]
    exact scheduled.onSchedule
  · rw [sameWorld, sameTasks]
    exact scheduled.elapsed

/-- The clock jumps to no time beyond that of a task which has not reported. -/
theorem wind (scheduled : run.Scheduled start session) (collecting : run.Collecting session)
    (unfinished : run.finished = false) (idle : run.Idle) {time : Nat}
    (isTime : run.nextTime none = some time) : (run.wind time).Scheduled start session := by
  have passes : run.world.clock ≤ time := by
    rcases nextTime_cases isTime with never | ⟨later, -⟩
    · cases never
    · exact Nat.le_of_lt later
  have onSchedule : ∀ task ∈ session.tasks,
      task.OnSchedule (start.timetable task.config) (run.wind time).world := by
    intro task isTask
    by_cases isOver : task.phase = .reported
    · have idleTask : task.turn? session.context run.world = none := by simp [Task.turn?, isOver]
      refine (scheduled.onSchedule task isTask).wait (start.isOf_timetable _) passes idleTask ?_
      simp [Task.wakes, Task.attempt?, Task.calls, isOver]
    · exact (scheduled.onSchedule task isTask).wait (start.isOf_timetable _) passes
        (scheduled.turn_eq_none isTask isOver idle.1) (scheduled.le_wake isTask isOver idle isTime)
  refine ⟨scheduled.toUnhurried.wind time, ?_, scheduled.rooted, fun task isTask => ?_, onSchedule,
    ?_⟩
  · exact RequestContext.live_without_deadline scheduled.unbounded (.refl _) scheduled.live
  · rcases scheduled.stands task isTask with ⟨cached, found, keeps, stands⟩
    exact ⟨cached, found, keeps, stands.later passes⟩
  · rcases collecting.missing unfinished idle.2 with ⟨device, isDevice, missing⟩
    rcases List.mem_map.1 isDevice with ⟨task, isTask, rfl⟩
    refine Or.inr ⟨task, isTask, (onSchedule task isTask).le_ends fun isOver => missing ?_⟩
    exact ⟨session, by simp [scheduled.alone], task, isTask, rfl, isOver⟩

theorem receive (scheduled : run.Scheduled start session) {j : Nat} {polled : Task}
    (isPolled : session.tasks[j]? = some polled)
    (sameWorld : next.world = (polled.poll session.context run.world).1)
    (unhurried : next.Unhurried (session.receive j (polled.poll session.context run.world).2)) :
    next.Scheduled start (session.receive j (polled.poll session.context run.world).2) := by
  have member := List.mem_of_getElem? isPolled
  have polls := polled.poll_polls session.context run.world
  have onTime := scheduled.onSchedule polled member
  rcases onTime.poll (start.isOf_timetable _) (scheduled.stands polled member) scheduled.live with
    ⟨respects, onTime'⟩
  have live := respects.live scheduled.live
  have tends := (polls.tends scheduled.rooted (onTime.atHome (start.isOf_timetable _))).1
  -- at the address of the polled task its own step counts, elsewhere nothing has happened
  have respectsAll : ∀ task ∈ session.tasks,
      World.Respects (start.timetable task.config) run.world next.world := by
    intro task isTask
    rw [sameWorld]
    by_cases same : (task.config.driver, task.config.address) =
        (polled.config.driver, polled.config.address)
    · rw [World.timetable_congr same]
      exact respects
    · exact .of_spares (tends.spares live same) rfl rfl (scheduled.stands task isTask)
  rcases polls.eq_enter with ⟨phase, isEntered⟩
  have there : ∀ task ∈ (session.receive j (polled.poll session.context run.world).2).tasks,
      World.Respects (start.timetable task.config) run.world next.world ∧
        task.OnSchedule (start.timetable task.config) next.world := by
    intro task isTask
    rcases scheduled.kept.eq_or_other isPolled isTask with rfl | ⟨isOld, -⟩
    · rw [← sameWorld] at onTime'
      rw [isEntered] at onTime' ⊢
      exact ⟨respectsAll polled member, onTime'⟩
    · exact ⟨respectsAll task isOld, (scheduled.onSchedule task isOld).respects
        (respectsAll task isOld)⟩
  refine ⟨unhurried, ?_, ?_, fun task isTask => (there task isTask).1.stands,
    fun task isTask => (there task isTask).2, ?_⟩
  · rw [sameWorld]
    exact live
  · rw [sameWorld]
    exact tends.rooted scheduled.rooted
  · rw [sameWorld, respects.clock]
    refine scheduled.elapsed.imp_right ?_
    rintro ⟨task, isTask, atMost⟩
    rcases (Session.continues_receive run.world isPolled).mem isTask with ⟨phase', stillThere⟩
    exact ⟨_, stillThere, atMost⟩

theorem step (scheduled : run.Scheduled start session) (collecting : run.Collecting session)
    (isNext : run.step none = some next) : ∃ session', next.Scheduled start session' ∧
      next.Collecting session' ∧ session.Onward session' := by
  rcases step_steps isNext with ⟨⟨unfinished, -⟩, steps⟩
  cases id steps with
  | collect => exact scheduled.attend
  | wait idle noMail isTime =>
      exact (scheduled.wind collecting unfinished ⟨idle, noMail⟩ isTime).attend
  | @poll turn i j other polled first isSession _ isPolled =>
      rw [scheduled.alone, List.getElem?_singleton] at isSession
      split at isSession
      · rename_i isFirst
        subst isFirst
        obtain rfl := Option.some.inj isSession
        have onTime := scheduled.onSchedule polled (List.mem_of_getElem? isPolled)
        have live := (onTime.poll (start.isOf_timetable _)
          (scheduled.stands polled (List.mem_of_getElem? isPolled)) scheduled.live).1.live
            scheduled.live
        rcases collecting.step steps live with ⟨session', collecting', -⟩
        have alone := collecting'.alone
        rw [scheduled.alone] at alone
        obtain rfl := List.singleton_inj.1 alone
        exact ⟨_, scheduled.receive isPolled rfl collecting'.toUnhurried, collecting',
          Session.onward_receive run.world isPolled⟩
      · cases isSession

theorem complete (scheduled : run.Scheduled start session) : ∃ last,
    (run.complete none).Scheduled start last ∧ (run.complete none).Collecting last ∧
      session.Onward last := by
  have kept : ∀ middle next : Run ScriptedDriver,
      (∃ last, middle.Scheduled start last ∧ middle.Collecting last ∧ session.Onward last) →
        middle.step none = some next →
          ∃ last, next.Scheduled start last ∧ next.Collecting last ∧ session.Onward last := by
    rintro middle next ⟨last, scheduled, collecting, onward⟩ isNext
    rcases scheduled.step collecting isNext with ⟨last', scheduled', collecting', onward'⟩
    exact ⟨last', scheduled', collecting', onward.trans onward'⟩
  exact go_induction kept run.bound scheduled.attend

theorem finished (scheduled : run.Scheduled start session) (collecting : run.Collecting session)
    (stops : run.step none = none) : run.finished = true := by
  by_contra unfinished
  rcases step_eq_none stops with finished | impatient | ⟨noTurn, noMail, never⟩
  · exact unfinished finished
  · cases impatient
  · rcases collecting.missing (Bool.not_eq_true _ ▸ unfinished) noMail with
      ⟨device, isDevice, missing⟩
    rcases List.mem_map.1 isDevice with ⟨task, isTask, rfl⟩
    have atWork : task.phase ≠ .reported := fun isOver => missing
      ⟨session, by simp [scheduled.alone], task, isTask, rfl, isOver⟩
    have stirs := (scheduled.onSchedule task isTask).stirs (start.isOf_timetable _) atWork
      session.context
    exact scheduled.goes_on isTask atWork stirs ⟨noTurn, noMail⟩ never

/-- When a request on schedule is answered, the time of all its tasks has come. -/
theorem ends_le (scheduled : run.Scheduled start session) (isOver : session.finished = true)
    {task : Task} (isTask : task ∈ session.tasks) :
    (start.timetable task.config).ends task ≤ run.world.clock := by
  have reported := scheduled.allReported isOver task isTask
  cases scheduled.onSchedule task isTask with
  | opening opening =>
      rw [reported] at opening
      cases opening
  | begun keeps =>
      rw [reported] at keeps
      cases keeps with
      | reports past => exact past

end Scheduled

end Run

end AvControl

import AvControl.Proofs.Engine.Locality
import AvControl.Proofs.Engine.Unhurried

/-!
# A task among its companions

A request that nobody hurries has several tasks, and each has a device to itself. What is known of
one of them while it is at work then needs to be kept only while it is looked after itself, while
something is done to other devices, and while time passes; and when it has reported, something is
known of what it has brought.
-/

namespace AvControl

/-- What is known of a task for a device while it is at work, and of what it brings. -/
structure Task.Watch (δ : Type) [Driver δ] (context : RequestContext) (config : DeviceConfig)
    (busy : World δ → Task → Prop) (brings : World δ → Outcome → Prop) : Prop where
  looks : ∀ {world : World δ} {task : Task}, task.config = config → busy world task →
    (world.registry.get config.driver).isSome = true →
    (task.turn? context world).isSome = true →
    (task.poll context world).1.interruption? context = none →
      ((task.poll context world).2.2 = none →
        busy (task.poll context world).1 (task.poll context world).2.1) ∧
      ∀ outcome, (task.poll context world).2.2 = some outcome →
        brings (task.poll context world).1 outcome
  spared : ∀ {before after : World δ} {task : Task}, World.Spares config before after →
    busy before task → busy after task
  waits : ∀ {world : World δ} {task : Task} {time : Nat}, task.turn? context world = none →
    world.clock ≤ time → (∀ wake ∈ task.wakes world, time ≤ wake) → busy world task →
      busy { world with clock := time } task
  stays : ∀ {before after : World δ} {outcome : Outcome}, World.Spares config before after →
    brings before outcome → brings after outcome
  lasts : ∀ {world : World δ} {outcome : Outcome} (time : Nat), brings world outcome →
    brings { world with clock := time } outcome

namespace Task

/-- The calls of a task at work are over some time. -/
def Prompt (lanes : List Lane) : Prop :=
  ∀ lane ∈ lanes, ∀ call, lane.call = some call → call.due.isSome = true

section Wakes

variable {δ : Type} {task : Task} {world : World δ}

/-- A task at work waits for a time if it waits for anything. -/
theorem exists_wake_of_working {lanes : List Lane} {later : List (List Command)}
    {outcome : Outcome} (working : task.phase = .working lanes later outcome)
    (busy : ∃ lane ∈ lanes, ∃ call, lane.call = some call) (prompt : Prompt lanes) :
    ∃ wake, wake ∈ task.wakes world := by
  rcases busy with ⟨lane, member, call, isCall⟩
  rcases Option.isSome_iff_exists.1 (prompt lane member call isCall) with ⟨wake, isDue⟩
  refine ⟨wake, List.mem_append_right _ ?_⟩
  simp only [calls, working, List.mem_filterMap]
  exact ⟨call, ⟨lane, member, isCall⟩, isDue⟩

/-- A task that waits for an attempt whose wait is over some time waits for a time. -/
theorem exists_wake_of_joined {number due : Nat} {cached : CachedDriver δ} {attempt : Attempt}
    {heedsContext : Bool} (opening : task.phase = .opening (.joined number))
    (found : world.registry.get task.config.driver = some cached)
    (isAttempt : cached.attempts[number]? = some attempt)
    (waiting : attempt.stage = .waiting (some due) heedsContext) :
    ∃ wake, wake ∈ task.wakes world := by
  have isAttempt' : task.attempt? world = some attempt := by
    simp [attempt?, opening, found, isAttempt]
  have wakesUp : attempt.wake?.isSome = true := by
    simp only [Attempt.wake?, waiting]
    generalize (if heedsContext then attempt.context.deadline else none) = deadline
    cases deadline <;> rfl
  rcases Option.isSome_iff_exists.1 wakesUp with ⟨wake, isWake⟩
  exact ⟨wake, by simp [wakes, isAttempt', isWake]⟩

end Wakes

variable {δ : Type} [Driver δ] {task : Task} {context : RequestContext} {bench bench' : Bench δ}

theorem Move.prompt (move : task.Move context bench bench')
    (timely : ∀ command,
      (bench.world.beginCall task.config context command).2.due.isSome = true)
    (prompt : Prompt bench.lanes) : Prompt bench'.lanes := by
  intro lane member call isCall
  cases move with
  | skip here | breakOff here | finish here =>
      simp only [Prompt, here, List.mem_append, List.mem_cons] at prompt member
      rcases member with inFront | rfl | behind
      · exact prompt lane (Or.inl inFront) call isCall
      · cases isCall
      · exact prompt lane (Or.inr (Or.inr behind)) call isCall
  | begin here =>
      simp only [Prompt, here, List.mem_append, List.mem_cons] at prompt member
      rcases member with inFront | rfl | behind
      · exact prompt lane (Or.inl inFront) call isCall
      · obtain rfl := Option.some.inj isCall
        exact timely _
      · exact prompt lane (Or.inr (Or.inr behind)) call isCall
  | leave here =>
      simp only [Prompt, here, List.mem_append, List.mem_cons] at prompt member
      rcases member with inFront | behind
      · exact prompt lane (Or.inl inFront) call isCall
      · exact prompt lane (Or.inr (Or.inr behind)) call isCall
  | proceed =>
      rcases List.mem_map.1 member with ⟨commands, -, rfl⟩
      cases isCall

/-- When no call waits for ever, none of those that are made does. -/
theorem Moves.prompt (moves : task.Moves context bench bench')
    (timely : ∀ world : World δ, (world.registry.get task.config.driver).isSome = true →
      ∀ command, (world.beginCall task.config context command).2.due.isSome = true)
    (registered : (bench.world.registry.get task.config.driver).isSome = true)
    (prompt : Prompt bench.lanes) : Prompt bench'.lanes := by
  induction moves with
  | refl => exact prompt
  | tail moves move ih =>
      exact move.prompt (timely _ ((Moves.later moves).registered _ registered)) ih

end Task

namespace Run

variable {δ : Type} {run next : Run δ} {session session' : Session} {task task' : Task}

/-- Attending to a request that nobody hurries leaves the world as it is. -/
theorem Unhurried.world_attend (unhurried : run.Unhurried session)
    (live : run.world.interruption? session.context = none) : run.attend.world = run.world := by
  have attended : (session.attend run.world).1 = run.world := by
    cases finished : session.finished with
    | true => simp [Session.attend, finished]
    | false => rw [Session.attend_live finished live unhurried.patient]
  simp only [Run.attend, unhurried.alone, attendAll_cons, attended]
  rfl

theorem Unhurried.tasks_attend (unhurried : run.Unhurried session)
    (alone : run.attend.sessions = [session']) : session'.tasks = session.tasks := by
  have attended : run.attend.sessions = [(session.attend run.world).2] := by
    simp only [Run.attend, unhurried.alone, attendAll_cons]
    rfl
  rw [attended, List.singleton_inj] at alone
  rw [← alone, Session.tasks_attend]

namespace Unhurried

theorem isSession (unhurried : run.Unhurried session) : run.sessions[0]? = some session := by
  rw [unhurried.alone]
  rfl

theorem unfinished (unhurried : run.Unhurried session) (isTask : task ∈ session.tasks)
    (atWork : task.phase ≠ .reported) : session.finished = false := by
  by_contra finished
  exact atWork (unhurried.allReported (by simpa using finished) task isTask)

/-- When nobody can go on, the waits of a task are among those that the clock jumps to. -/
theorem mem_waits (unhurried : run.Unhurried session) (isTask : task ∈ session.tasks)
    (atWork : task.phase ≠ .reported) (idle : run.Idle) {wake : Nat}
    (isWake : wake ∈ task.wakes run.world) :
    wake ∈ run.wakes.filter fun time => run.world.clock < time := by
  have unfinished := unhurried.unfinished isTask atWork
  have later : run.world.clock < wake := by
    by_contra past
    exact not_idle_of_wake unhurried.isSession unfinished isTask isWake rfl (Nat.not_lt.1 past)
      idle
  refine List.mem_filter.2 ⟨?_, decide_eq_true later⟩
  simp only [Run.wakes, unhurried.alone, List.flatMap_cons, List.flatMap_nil, unfinished,
    Bool.false_eq_true, if_false, List.append_nil, List.mem_append, List.mem_flatMap]
  exact Or.inr ⟨task, isTask, isWake⟩

/-- When nobody can go on, no wait of a task is over before the clock jumps. -/
theorem le_wake (unhurried : run.Unhurried session) (isTask : task ∈ session.tasks)
    (atWork : task.phase ≠ .reported) (idle : run.Idle) {time : Nat}
    (isTime : run.nextTime none = some time) : ∀ wake ∈ task.wakes run.world, time ≤ wake := by
  intro wake isWake
  rw [nextTime, List.min?_eq_some_iff] at isTime
  exact isTime.2 wake (List.mem_append_right _ (unhurried.mem_waits isTask atWork idle isWake))

theorem turn_eq_none (unhurried : run.Unhurried session) (isTask : task ∈ session.tasks)
    (atWork : task.phase ≠ .reported) (idle : run.turns = []) :
    task.turn? session.context run.world = none := by
  by_contra goesOn
  rcases Option.ne_none_iff_exists'.1 goesOn with ⟨turn, isTurn⟩
  rcases List.mem_iff_getElem?.1 isTask with ⟨j, isHere⟩
  have inTurns : (turn, 0, j) ∈ run.turns := mem_turns.2
    ⟨session, task, unhurried.isSession, unhurried.unfinished isTask atWork, isHere, isTurn⟩
  simp [idle] at inTurns

/-- A run goes on as long as a task can go on, or will be able to. -/
theorem goes_on (unhurried : run.Unhurried session) (isTask : task ∈ session.tasks)
    (atWork : task.phase ≠ .reported)
    (stirs : (task.turn? session.context run.world).isSome = true ∨
      ∃ wake, wake ∈ task.wakes run.world)
    (idle : run.Idle) : run.nextTime none ≠ none := by
  rcases stirs with isTurn | ⟨wake, isWake⟩
  · have noTurn := unhurried.turn_eq_none isTask atWork idle.1
    exact absurd noTurn (Option.isSome_iff_ne_none.1 isTurn)
  · intro never
    have waits := unhurried.mem_waits isTask atWork idle isWake
    rw [nextTime, List.min?_eq_none_iff] at never
    rw [(List.append_eq_nil_iff.1 never).2] at waits
    cases waits

end Unhurried

/-- A run with one request, one of whose tasks has a device to itself. -/
structure Hosts (run : Run δ) (session : Session) (task : Task) : Prop
    extends run.Unhurried session where
  equipped : run.Equipped
  rooted : run.world.Rooted
  atHome : ∀ other ∈ session.tasks, other.AtHome run.world
  isTask : task ∈ session.tasks
  apart : ∀ other ∈ session.tasks, other.device ≠ task.device →
    (task.config.driver, task.config.address) ≠ (other.config.driver, other.config.address)

namespace Hosts

theorem wind (hosts : run.Hosts session task) (time : Nat) : (run.wind time).Hosts session task :=
  ⟨hosts.toUnhurried.wind time, hosts.equipped, hosts.rooted, hosts.atHome, hosts.isTask,
    hosts.apart⟩

variable [Driver δ]

/-- While the coordinator looks around, nothing happens to the task or to the world. -/
theorem attend (hosts : run.Hosts session task)
    (live : run.world.interruption? session.context = none) :
    run.attend.world = run.world ∧ ∃ session', run.attend.Hosts session' task ∧
      run.attend.Collecting session' ∧ session.Onward session' := by
  have sameWorld := hosts.world_attend live
  rcases hosts.toUnhurried.attend live with ⟨session', collecting, onward⟩
  have sameTasks := hosts.tasks_attend collecting.alone
  refine ⟨sameWorld, session', ⟨collecting.toUnhurried, hosts.equipped.attend, ?_, ?_, ?_, ?_⟩,
    collecting, onward⟩
  · rw [sameWorld]
    exact hosts.rooted
  · rw [sameTasks, sameWorld]
    exact hosts.atHome
  · rw [sameTasks]
    exact hosts.isTask
  · rw [sameTasks]
    exact hosts.apart

/-- When a task is looked after, it or a companion goes on to have its device to itself. -/
theorem receive (hosts : run.Hosts session task) {j : Nat} {polled : Task}
    (isPolled : session.tasks[j]? = some polled) (steps : Steps none run next)
    (sameWorld : next.world = (polled.poll session.context run.world).1)
    (unhurried : next.Unhurried (session.receive j (polled.poll session.context run.world).2))
    (isTask : task' ∈ (session.receive j (polled.poll session.context run.world).2).tasks)
    (sameDevice : task'.device = task.device) (sameConfig : task'.config = task.config) :
    next.Hosts (session.receive j (polled.poll session.context run.world).2) task' := by
  have member := List.mem_of_getElem? isPolled
  have polls := polled.poll_polls session.context run.world
  have tends := polls.tends hosts.rooted (hosts.atHome polled member)
  rcases polls.eq_enter with ⟨phase, isEntered⟩
  refine ⟨unhurried, hosts.equipped.step steps, ?_, fun other isOther => ?_, isTask,
    fun other isOther differs => ?_⟩
  · rw [sameWorld]
    exact tends.1.rooted hosts.rooted
  · rw [sameWorld]
    rcases hosts.kept.eq_or_other isPolled isOther with rfl | ⟨isOld, -⟩
    · exact tends.2
    · exact (hosts.atHome other isOld).tends tends.1
  · rw [sameDevice] at differs
    rw [sameConfig]
    rcases hosts.kept.eq_or_other isPolled isOther with rfl | ⟨isOld, -⟩
    · rw [isEntered] at differs ⊢
      exact hosts.apart polled member differs
    · exact hosts.apart other isOld differs

end Hosts

variable [Driver δ] {busy : World δ → Task → Prop} {brings : World δ → Outcome → Prop}

/-- A run with one request, and what is known of one of its tasks. -/
structure Watches (run : Run δ) (session : Session) (task : Task)
    (busy : World δ → Task → Prop) (brings : World δ → Outcome → Prop) : Prop where
  hosts : run.Hosts session task
  collecting : run.Collecting session
  atWork : task.phase ≠ .reported → busy run.world task
  brought : task.phase = .reported →
    ∃ outcome, (task.device, outcome) ∈ session.arrived ∧ brings run.world outcome

namespace Watches

/-- The task itself is looked after. -/
theorem look (watches : run.Watches session task busy brings)
    (watch : Task.Watch δ session.context task.config busy brings) {j : Nat}
    (isTask : session.tasks[j]? = some task)
    (isTurn : (task.turn? session.context run.world).isSome = true) (steps : Steps none run next)
    (sameWorld : next.world = (task.poll session.context run.world).1)
    (collecting : next.Collecting (session.receive j (task.poll session.context run.world).2))
    (live : next.world.interruption? session.context = none) :
    next.Watches (session.receive j (task.poll session.context run.world).2)
      (task.poll session.context run.world).2.1 busy brings := by
  have polls := task.poll_polls session.context run.world
  have reports := polls.reports_iff
  rcases polls.eq_enter with ⟨phase, isEntered⟩
  have registered := watches.hosts.equipped session (by simp [watches.hosts.alone]) task
    watches.hosts.isTask
  have atWork : task.phase ≠ .reported := by
    intro isOver
    simp [Task.turn?, isOver] at isTurn
  rcases List.getElem?_eq_some_iff.1 isTask with ⟨inside, -⟩
  have stillThere : (task.poll session.context run.world).2.1 ∈
      (session.receive j (task.poll session.context run.world).2).tasks :=
    List.mem_iff_getElem?.2 ⟨j, by simp [Session.receive, inside]⟩
  rw [sameWorld] at live
  rcases watch.looks rfl (watches.atWork atWork) registered isTurn live with ⟨goesOn, brings'⟩
  refine ⟨watches.hosts.receive isTask steps sameWorld collecting.toUnhurried stillThere ?_ ?_,
    collecting, fun stillAtWork => ?_, fun isOver => ?_⟩
  · rw [isEntered]
    rfl
  · rw [isEntered]
    rfl
  · rw [sameWorld]
    refine goesOn (Option.eq_none_iff_forall_ne_some.2 fun outcome isOutcome => stillAtWork ?_)
    exact (reports.1 (by simp [isOutcome])).2
  · rcases Option.isSome_iff_exists.1 (reports.2 ⟨atWork, isOver⟩) with ⟨outcome, isOutcome⟩
    refine ⟨outcome, ?_, sameWorld ▸ brings' outcome isOutcome⟩
    exact List.mem_append_right _ (List.mem_append_right _ (by simp [isOutcome]))

/-- A companion is looked after. -/
theorem companion (watches : run.Watches session task busy brings)
    (watch : Task.Watch δ session.context task.config busy brings) {j : Nat} {other : Task}
    (isOther : session.tasks[j]? = some other) (differs : other.device ≠ task.device)
    (steps : Steps none run next)
    (sameWorld : next.world = (other.poll session.context run.world).1)
    (collecting : next.Collecting (session.receive j (other.poll session.context run.world).2))
    (live : next.world.interruption? session.context = none) :
    next.Watches (session.receive j (other.poll session.context run.world).2) task busy
      brings := by
  have member := List.mem_of_getElem? isOther
  have polls := other.poll_polls session.context run.world
  have tends := polls.tends watches.hosts.rooted (watches.hosts.atHome other member)
  rw [← sameWorld] at tends
  have spares := tends.1.spares live (watches.hosts.apart other member differs)
  have stillThere : task ∈ (session.receive j (other.poll session.context run.world).2).tasks := by
    rcases List.mem_iff_getElem?.1 watches.hosts.isTask with ⟨k, isTask⟩
    have apart : j ≠ k := by
      rintro rfl
      rw [isOther, Option.some.injEq] at isTask
      exact differs (congrArg Task.device isTask)
    refine List.mem_iff_getElem?.2 ⟨k, ?_⟩
    simp only [Session.receive]
    rw [List.getElem?_set_ne apart]
    exact isTask
  refine ⟨watches.hosts.receive isOther steps sameWorld collecting.toUnhurried stillThere rfl rfl,
    collecting, fun atWork => watch.spared spares (watches.atWork atWork), fun isOver => ?_⟩
  rcases watches.brought isOver with ⟨outcome, arrived, brings'⟩
  have onward := Session.onward_receive run.world isOther
  exact ⟨outcome, onward.arrived _ arrived, watch.stays spares brings'⟩

/-- The coordinator looks around, after some time perhaps. -/
theorem attend (hosts : run.Hosts session task)
    (live : run.world.interruption? session.context = none)
    (atWork : task.phase ≠ .reported → busy run.world task)
    (brought : task.phase = .reported →
      ∃ outcome, (task.device, outcome) ∈ session.arrived ∧ brings run.world outcome) :
    ∃ session', run.attend.Watches session' task busy brings ∧ session.Onward session' := by
  rcases hosts.attend live with ⟨sameWorld, session', hosts', collecting, onward⟩
  refine ⟨session', ⟨hosts', collecting, ?_, fun isOver => ?_⟩, onward⟩
  · rw [sameWorld]
    exact atWork
  · rcases brought isOver with ⟨outcome, arrived, brings'⟩
    exact ⟨outcome, onward.arrived _ arrived, sameWorld ▸ brings'⟩

omit [Driver δ] in
/-- In the end the answer says of the device what the task has brought. -/
theorem tells (watches : run.Watches session task busy brings)
    (finished : session.finished = true) :
    ∃ outcome, brings run.world outcome ∧ session.answer.Tells task.device outcome := by
  have hosts := watches.hosts
  rcases watches.brought (hosts.allReported finished task hosts.isTask) with
    ⟨outcome, arrived, brings'⟩
  rw [Session.arrived, (hosts.kept.complete finished).1, List.append_nil] at arrived
  exact ⟨outcome, brings', hosts.kept.tells Task.Settled.own arrived⟩

/-- Whatever happens in a step, as much is known of the task afterwards. -/
theorem step (watches : run.Watches session task busy brings)
    (watch : Task.Watch δ session.context task.config busy brings)
    (isNext : run.step none = some next)
    (live : next.world.interruption? session.context = none) :
    ∃ session' task', next.Watches session' task' busy brings ∧ session.Onward session' ∧
      task'.device = task.device ∧ task'.config = task.config := by
  have steps := (step_steps isNext).2
  have hosts := watches.hosts
  have liveBefore : ∀ now, session.context.interruption? run.world.tokens now = none :=
    fun now => RequestContext.live_without_deadline hosts.unbounded steps.tokens live
  rcases watches.collecting.step steps live with ⟨session', collecting, -⟩
  cases id steps with
  | @poll turn i j polled other first isSession unfinished isPolled isTurn =>
      rw [hosts.alone, List.getElem?_singleton] at isSession
      split at isSession
      · rename_i isFirst
        subst isFirst
        obtain rfl := Option.some.inj isSession
        have alone := collecting.alone
        rw [hosts.alone] at alone
        obtain rfl := List.singleton_inj.1 alone
        have onward := Session.onward_receive run.world isPolled
        by_cases own : other.device = task.device
        · obtain rfl : other = task := List.inj_on_of_nodup_map hosts.kept.distinct
            (List.mem_of_getElem? isPolled) hosts.isTask own
          rcases (other.poll_polls session.context run.world).eq_enter with ⟨phase, isEntered⟩
          refine ⟨_, _, watches.look watch isPolled (by simp [isTurn]) steps rfl collecting live,
            onward, ?_, ?_⟩
          · rw [isEntered]
            rfl
          · rw [isEntered]
            rfl
        · have watches' := watches.companion watch isPolled own steps rfl collecting live
          exact ⟨_, task, watches', onward, rfl, rfl⟩
      · cases isSession
  | collect =>
      rcases attend hosts (liveBefore _) watches.atWork watches.brought with
        ⟨session', watches', onward⟩
      exact ⟨session', task, watches', onward, rfl, rfl⟩
  | @wait time idle noMail isTime =>
      have passes : run.world.clock ≤ time := by
        rcases nextTime_cases isTime with never | ⟨later, -⟩
        · cases never
        · exact Nat.le_of_lt later
      have atWork : task.phase ≠ .reported → busy (run.wind time).world task := fun atWork =>
        watch.waits (hosts.turn_eq_none hosts.isTask atWork idle) passes
          (hosts.le_wake hosts.isTask atWork ⟨idle, noMail⟩ isTime) (watches.atWork atWork)
      have brought : task.phase = .reported → ∃ outcome, (task.device, outcome) ∈ session.arrived ∧
          brings (run.wind time).world outcome := by
        intro isOver
        rcases watches.brought isOver with ⟨outcome, arrived, brings'⟩
        exact ⟨outcome, arrived, watch.lasts time brings'⟩
      rcases attend (hosts.wind time) (liveBefore time) atWork brought with
        ⟨session', watches', onward⟩
      exact ⟨session', task, watches', onward, rfl, rfl⟩

theorem go (steps : Nat) : ∀ {run : Run δ} {session : Session} {task : Task},
    run.Watches session task busy brings →
    Task.Watch δ session.context task.config busy brings →
    (Run.go none steps run).world.interruption? session.context = none →
    ∃ session' task', (Run.go none steps run).Watches session' task' busy brings ∧
      session.Onward session' ∧ task'.device = task.device ∧ task'.config = task.config := by
  -- the session and its task change with every step, only the context and the device are kept
  induction steps with
  | zero => exact fun watches _ _ => ⟨_, _, watches, .refl _, rfl, rfl⟩
  | succ steps ih =>
      intro run session task watches watch live
      cases isNext : run.step none with
      | none =>
          rw [go_ended isNext]
          exact ⟨session, task, watches, .refl session, rfl, rfl⟩
      | some next =>
          rw [go_step isNext] at live ⊢
          have liveNext : next.world.interruption? session.context = none :=
            RequestContext.live_without_deadline watches.hosts.unbounded
              (go_tokens none steps next) live
          rcases watches.step watch isNext liveNext with
            ⟨middle, task', watches', onward, sameDevice, sameConfig⟩
          rw [← onward.continues.context] at live
          rw [← sameConfig, ← onward.continues.context] at watch
          rcases ih watches' watch live with
            ⟨last, task'', watches'', onward', sameDevice', sameConfig'⟩
          exact ⟨last, task'', watches'', onward.trans onward', sameDevice'.trans sameDevice,
            sameConfig'.trans sameConfig⟩

end Watches

/-- What is known of a new task with a device to itself, is known of it in the end. -/
theorem Undisturbed.watches (undisturbed : run.Undisturbed session)
    (hosts : run.Hosts session task) (fresh : task.phase = .opening .fresh)
    (watch : Task.Watch δ session.context task.config busy brings)
    (isBusy : busy run.world task) :
    ∃ last task', (run.complete none).Watches last task' busy brings ∧ session.Onward last ∧
      task'.device = task.device ∧ task'.config = task.config := by
  have live : run.world.interruption? session.context = none := by
    rcases run.world_attend with ⟨tokens, below, same⟩
    have liveFirst := undisturbed.live_after 0 run.world.clock
    rw [show (run.after 0).world = _ from same] at liveFirst
    exact RequestContext.live_of_below below liveFirst
  rcases Watches.attend hosts live (fun _ => isBusy) (fun isOver => by simp [fresh] at isOver) with
    ⟨first, watches, onward⟩
  have liveEnd := undisturbed.live
  rw [← onward.continues.context] at liveEnd watch
  rcases watches.go run.bound watch liveEnd with
    ⟨last, task', watches', onward', sameDevice, sameConfig⟩
  exact ⟨last, task', watches', onward.trans onward', sameDevice, sameConfig⟩

end Run

namespace World

variable {δ : Type}

/-- A request begins with a device to itself if no other device of its room is reached there. -/
theorem hosts_engage {world : World δ} {request : RoomRequest} {session : Session} {task : Task}
    (prepared : world.prepare request = .ok session) (calm : world.Calm)
    (unhurried : (world.engage [request]).Unhurried session) (isTask : task ∈ session.tasks)
    (sole : ∀ other config, request.room.devices.get? other = some config → other ≠ task.device →
      (task.config.driver, task.config.address) ≠ (config.driver, config.address)) :
    (world.engage [request]).Hosts session task := by
  have ready := ready_of_prepare prepared
  refine ⟨unhurried, world.equipped_engage [request], calm.rooted, fun other isOther => ?_, isTask,
    fun other isOther differs => ?_⟩
  · exact Task.atHome_of_fresh (ready.fresh isOther)
  · rcases ready.assigned isOther with ⟨target, _, assigned⟩
    exact sole target.1 other.config assigned.config (assigned.device ▸ differs)

theorem calm_labWorld (driver : δ) : (labWorld driver).Calm := by
  intro name cached found address
  simp only [labWorld, Registry.set, Registry.get, SortedMap.get?_insert] at found
  split at found
  · obtain rfl := Option.some.inj found
    rfl
  · cases found

end World

end AvControl

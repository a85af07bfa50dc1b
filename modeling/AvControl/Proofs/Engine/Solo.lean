import AvControl.Proofs.Engine.Unhurried

/-!
# Requests with one task

A request with one task, which nobody hurries, does what its task does. When the task can go on it
is looked after; otherwise the clock jumps to the next time at which a wait of the task is over; and
as soon as the task has reported, its outcome is collected and the request is over.
-/

namespace AvControl

/-- A session that has brought nothing yet, without a deadline and not to be cancelled. -/
structure Session.Bare (session : Session) : Prop where
  unbounded : session.context.deadline = none
  patient : session.cancelAt = none
  nothing : session.arrived = []
  unfinished : session.finished = false

namespace Session.Bare

variable {session : Session} (bare : session.Bare)

include bare

theorem mailbox : session.mailbox = [] := (List.append_eq_nil_iff.1 bare.nothing).2

theorem collected : session.collected = [] := (List.append_eq_nil_iff.1 bare.nothing).1

end Session.Bare

namespace Run

variable {δ : Type}

/-- The run of a session with one task. -/
def solo (world : World δ) (session : Session) (task : Task) : Run δ :=
  { world, sessions := [{ session with tasks := [task] }] }

variable {world : World δ} {session : Session} {task : Task}

theorem turns_solo (bare : session.Bare) : (solo world session task).turns =
    (task.turn? session.context world).toList.map fun turn => (turn, 0, 0) := by
  cases isTurn : task.turn? session.context world <;>
    simp [turns, solo, bare.unfinished, isTurn]

theorem wakes_solo (bare : session.Bare) :
    (solo world session task).wakes = task.wakes world := by
  simp [wakes, solo, bare.unfinished, bare.unbounded, bare.patient]

theorem hasMail_solo (bare : session.Bare) : (solo world session task).hasMail = false := by
  simp [hasMail, solo, bare.mailbox]

theorem finished_solo (bare : session.Bare) : (solo world session task).finished = false := by
  simp [finished, solo, bare.unfinished]

/-- As long as the task is at work, there is nothing for the coordinator to do. -/
theorem attend_solo (bare : session.Bare) (live : world.interruption? session.context = none)
    (atWork : task.phase ≠ .reported) :
    (solo world session task).attend = solo world session task := by
  have notOver : task.isOver = false := by
    rw [← Bool.not_eq_true, Task.isOver_iff]
    exact atWork
  let alone : Session := { session with tasks := [task] }
  have unchanged : alone.coordinate none = alone := by
    simp [alone, Session.coordinate, Session.collect, bare.mailbox, notOver]
  have unfinished : alone.finished = false := bare.unfinished
  have patient : alone.cancelAt = none := bare.patient
  have attended := Session.attend_live unfinished live patient
  rw [unchanged] at attended
  change Run.attend { world, sessions := [alone] } = { world, sessions := [alone] }
  simp only [Run.attend, attendAll_cons, attended]
  rfl

variable [Driver δ]

/-- A task that can go on is looked after. -/
theorem step_solo (bare : session.Bare)
    (isTurn : (task.turn? session.context world).isSome = true) {world' : World δ} {task' : Task}
    {outcome : Option Outcome}
    (polled : task.poll session.context world = (world', task', outcome)) :
    (solo world session task).step none = some {
      world := world'
      sessions := [{ session with
        tasks := [task']
        mailbox := (outcome.map fun outcome => (task'.device, outcome)).toList }] } := by
  rcases Option.isSome_iff_exists.1 isTurn with ⟨turn, isTurn⟩
  have isSession : (solo world session task).sessions[0]? = some { session with tasks := [task] } :=
    rfl
  have isTask : ({ session with tasks := [task] } : Session).tasks[0]? = some task := rfl
  have looked := pollTask_eq isSession isTask
  simp only [show (solo world session task).world = world from rfl, polled, Session.receive,
    bare.mailbox, List.nil_append] at looked
  simp only [step, finished_solo bare, turns_solo bare, isTurn]
  exact congrArg some looked

/-- When the task has to wait, the clock jumps to the next time at which it can go on. -/
theorem step_solo_wait (bare : session.Bare) (live : world.interruption? session.context = none)
    (atWork : task.phase ≠ .reported) (waits : task.turn? session.context world = none) {time : Nat}
    (isWake : time ∈ task.wakes world) (later : world.clock < time)
    (least : ∀ wake ∈ task.wakes world, time ≤ wake) :
    (solo world session task).step none =
      some (solo { world with clock := time } session task) := by
  have isNext : (solo world session task).nextTime none = some time := by
    rw [nextTime, wakes_solo bare, List.min?_eq_some_iff]
    refine ⟨List.mem_append_right _ (List.mem_filter.2 ⟨isWake, decide_eq_true later⟩), ?_⟩
    intro wake member
    rcases List.mem_append.1 member with never | isWake
    · simp at never
    · exact least wake (List.mem_filter.1 isWake).1
  have liveThen : World.interruption? { world with clock := time } session.context = none :=
    RequestContext.live_without_deadline bare.unbounded (.refl _) live
  have stays := attend_solo bare liveThen atWork
  simp only [step, finished_solo bare, turns_solo bare, waits, hasMail_solo bare, isNext]
  exact congrArg some stays

/-- What the task has reported is collected, and the request is over. -/
theorem step_solo_reported (bare : session.Bare) (live : world.interruption? session.context = none)
    (isOver : task.phase = .reported) (outcome : Outcome) :
    Run.step {
      world
      sessions := [{ session with tasks := [task], mailbox := [(task.device, outcome)] }] } none =
    some {
      world
      sessions := [{ session with
        tasks := [task]
        mailbox := []
        collected := [(task.device, outcome)]
        finished := true }] } := by
  let before : Session :=
    { session with tasks := [task], mailbox := [(task.device, outcome)] }
  have unfinished : before.finished = false := bare.unfinished
  have patient : before.cancelAt = none := bare.patient
  have attended := Session.attend_live unfinished live patient
  have collects : before.coordinate none = { session with
      tasks := [task]
      mailbox := []
      collected := [(task.device, outcome)]
      finished := true } := by
    simp [before, Session.coordinate, Session.collect, Session.giveUp, Session.unreported,
      Session.hasCollected, bare.collected, Task.isOver_iff.2 isOver]
  have noTurn : Run.turns { world, sessions := [before] } = [] := by
    simp [turns, before, Task.turn?, isOver]
  have mail : Run.hasMail { world, sessions := [before] } = true := by
    simp [hasMail, before, bare.unfinished]
  have goesOn : Run.finished { world, sessions := [before] } = false := by
    simp [finished, unfinished]
  rw [collects] at attended
  change Run.step { world, sessions := [before] } none = _
  simp only [step, goesOn, noTurn, mail, Run.attend, attendAll_cons, attended]
  rfl

end Run

end AvControl

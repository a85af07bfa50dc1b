import AvControl.Proofs.Engine.Passage
import AvControl.Proofs.Engine.Trace

/-!
# Following a task through a run

Whatever else goes on in a run, a task is changed only when it is looked after. As long as its
context is live its coordinator does not drop it, and so it is looked after until it has reported or
waits for something that never comes.
-/

namespace AvControl

namespace Session

variable {δ : Type} [Driver δ] {session : Session} {world : World δ}

theorem arrived_attend (kept : session.Kept Task.UnderWay Task.Settled)
    (live : (session.attend world).1.interruption? session.context = none) :
    (session.attend world).2.arrived = session.arrived := by
  have attends := session.attend_attends world
  generalize session.attend world = attended at attends live
  cases attends with
  | rests finished => rfl
  | givesUp _ ended =>
      rw [show world.interruption? session.context = none from live] at ended
      cases ended
  | collects unfinished => exact kept.arrived_live unfinished
  | cancels unfinished _ unreported =>
      dsimp only at live ⊢
      rw [live]
      have kept' := kept.coordinate (δ := δ) Task.settling unfinished none
      exact (kept'.arrived_live unreported).trans (kept.arrived_live unfinished)

/-- Under a live context a session is not over before all its tasks have reported. -/
theorem open_attend (kept : session.Kept Task.UnderWay Task.Settled)
    (unfinished : session.finished = false)
    (live : (session.attend world).1.interruption? session.context = none) {task : Task}
    (member : task ∈ session.tasks) (atWork : task.phase ≠ .reported) :
    (session.attend world).2.finished = false := by
  by_contra isOver
  rw [Bool.not_eq_false] at isOver
  have stillThere : task ∈ (session.attend world).2.tasks := by
    rw [tasks_attend]
    exact member
  rcases (kept.attend Task.settling world).outcome isOver stillThere with ⟨outcome, collected, -⟩
  apply atWork
  rw [kept.reported unfinished task member, ← arrived_attend kept live]
  exact List.mem_map.2 ⟨_, List.mem_append_left _ collected, rfl⟩

end Session

namespace Run

variable {δ : Type}

/-- Every session is attended to on the way, and all that it cancels stays cancelled. -/
theorem attendAll_at {session : Session} (sessions : List Session) : ∀ (world : World δ) {i : Nat},
    sessions[i]? = some session → ∃ tokens, world.tokens.Below tokens ∧
      (attendAll world sessions).2[i]? = some (session.attend { world with tokens }).2 ∧
      (session.attend { world with tokens }).1.tokens.Below
        (attendAll world sessions).1.tokens := by
  induction sessions with
  | nil =>
      intro world i isSession
      cases isSession
  | cons head rest ih =>
      intro world i isSession
      rw [attendAll_cons]
      cases i with
      | zero =>
          obtain rfl := Option.some.inj isSession
          rcases attendAll_world rest (head.attend world).1 with ⟨tokens, below, same⟩
          refine ⟨world.tokens, .refl _, rfl, ?_⟩
          rw [same]
          exact below
      | succ i =>
          rcases attend_world head world with ⟨tokens, before, same⟩
          rw [same]
          rcases ih { world with tokens } isSession with ⟨tokens', between, attended, below⟩
          exact ⟨tokens', before.trans between, attended, below⟩

/-- The task for a device in a session is looked after next. -/
def look? (run : Run δ) (i : Nat) (device : DeviceId) : Option (Look δ) :=
  match leastKeyed run.turns with
  | none => none
  | some (_, i', j) =>
    if i' = i then
      run.sessions[i]?.bind fun session => session.tasks[j]?.bind fun task =>
        if task.device = device then
          some { task, context := session.context, world := run.world }
        else none
    else none

/-- The task for a device in a session has not reported. -/
def AtWork (run : Run δ) (i : Nat) (device : DeviceId) : Prop :=
  ∃ session ∈ run.sessions[i]?, ∃ task ∈ session.tasks,
    task.device = device ∧ task.phase ≠ .reported

/-- A session is not over. -/
def IsOpen (run : Run δ) (i : Nat) : Prop := ∃ session ∈ run.sessions[i]?, session.finished = false

/-- The coordinators leave the tasks as they are. -/
theorem AtWork.attend {run : Run δ} {i : Nat} {device : DeviceId} (atWork : run.AtWork i device) :
    run.attend.AtWork i device := by
  rcases atWork with ⟨session, isSession, task, member, isDevice, unreported⟩
  rcases attendAll_at run.sessions run.world isSession with ⟨tokens, -, isNext, -⟩
  refine ⟨_, isNext, task, ?_, isDevice, unreported⟩
  rw [Session.tasks_attend]
  exact member

variable [Driver δ]

/-- How often the task for a device in a session is looked after within some steps. -/
def looksWithin (i : Nat) (device : DeviceId) : Nat → Run δ → List (Look δ)
  | 0, _ => []
  | steps + 1, run =>
    match run.step none with
    | none => []
    | some next => (run.look? i device).toList ++ looksWithin i device steps next

/-- A task of a session, and what is known about it throughout a run. -/
structure Follows (run : Run δ) (i j : Nat) (session : Session) (task : Task) : Prop where
  isSession : run.sessions[i]? = some session
  isTask : session.tasks[j]? = some task
  kept : session.Kept Task.UnderWay Task.Settled
  equipped : run.Equipped
  waitedFor : task.phase ≠ .reported → session.finished = false

namespace Follows

variable {run next : Run δ} {i j : Nat} {session : Session} {task : Task}

omit [Driver δ] in
theorem atWork (follows : run.Follows i j session task) (unreported : task.phase ≠ .reported) :
    run.AtWork i task.device :=
  ⟨session, follows.isSession, task, List.mem_of_getElem? follows.isTask, rfl, unreported⟩

omit [Driver δ] in
theorem isOpen (follows : run.Follows i j session task) (unreported : task.phase ≠ .reported) :
    run.IsOpen i :=
  ⟨session, follows.isSession, follows.waitedFor unreported⟩

/-- When the coordinators look around, the task stays as it is. -/
theorem attend (follows : run.Follows i j session task)
    (live : task.phase ≠ .reported → run.attend.world.interruption? session.context = none) :
    ∃ session', run.attend.Follows i j session' task ∧ session.Continues session' := by
  rcases attendAll_at run.sessions run.world follows.isSession with ⟨tokens, -, isNext, below⟩
  refine ⟨_, ⟨isNext, ?_, follows.kept.attend Task.settling _, follows.equipped.attend, ?_⟩,
    session.continues_attend _⟩
  · rw [Session.tasks_attend]
    exact follows.isTask
  · intro unreported
    refine Session.open_attend follows.kept (follows.waitedFor unreported) ?_
      (List.mem_of_getElem? follows.isTask) unreported
    refine RequestContext.live_before below (Nat.le_of_eq ?_) (live unreported)
    rcases attend_world session { run.world with tokens } with ⟨_, -, same⟩
    rw [same, attend_clock]

omit [Driver δ] in
theorem eq_of_device (follows : run.Follows i j session task) {k : Nat} {other : Task}
    (isOther : session.tasks[k]? = some other) (same : other.device = task.device) : k = j := by
  rcases List.getElem?_eq_some_iff.1 isOther with ⟨inside, -⟩
  apply (List.getElem?_inj (by simpa using inside) follows.kept.distinct).1
  simp [isOther, follows.isTask, same]

/-- Either the task is looked after in a step, or it stays as it is. -/
theorem step (follows : run.Follows i j session task) (isNext : run.step none = some next)
    (live : task.phase ≠ .reported → next.world.interruption? session.context = none) :
    ∃ session' task', next.Follows i j session' task' ∧ session.Continues session' ∧
      (run.look? i task.device = none ∧ task' = task ∨
        ∃ look, run.look? i task.device = some look ∧ look.task = task ∧ look.Fair ∧
          task' = look.result.2.1) := by
  have steps := (step_steps isNext).2
  have equipped := follows.equipped.step steps
  have noLook : run.turns = [] → run.look? i task.device = none := by
    intro idle
    simp [look?, idle, leastKeyed]
  cases steps with
  | collect idle =>
      rcases follows.attend live with ⟨session', follows', continues⟩
      exact ⟨session', task, follows', continues, Or.inl ⟨noLook idle, rfl⟩⟩
  | @wait time idle =>
      have wound : (run.wind time).Follows i j session task :=
        ⟨follows.isSession, follows.isTask, follows.kept, follows.equipped, follows.waitedFor⟩
      rcases wound.attend live with ⟨session', follows', continues⟩
      exact ⟨session', task, follows', continues, Or.inl ⟨noLook idle, rfl⟩⟩
  | @poll turn i' j' other polled first isOther unfinished isPolled isTurn =>
      by_cases here : i' = i
      · subst here
        rw [follows.isSession, Option.some.injEq] at isOther
        subst isOther
        have isNext' : (run.sessions.set i' (session.receive j'
            (polled.poll session.context run.world).2))[i']? =
              some (session.receive j' (polled.poll session.context run.world).2) := by
          rcases List.getElem?_eq_some_iff.1 follows.isSession with ⟨inside, -⟩
          simp [inside]
        have kept := follows.kept.receive Task.settling unfinished run.world isPolled
        have continues := Session.continues_receive run.world isPolled
        -- The tasks of a session are told apart by their devices.
        by_cases same : polled.device = task.device
        · obtain rfl := follows.eq_of_device isPolled same
          rw [follows.isTask, Option.some.injEq] at isPolled
          subst isPolled
          have atWork : task.phase ≠ .reported := by
            intro isOver
            simp [Task.turn?, isOver] at isTurn
          have isTask' : (session.receive j' (task.poll session.context run.world).2).tasks[j']? =
              some (task.poll session.context run.world).2.1 := by
            rcases List.getElem?_eq_some_iff.1 follows.isTask with ⟨inside, -⟩
            simp [Session.receive, inside]
          refine ⟨_, _, ⟨isNext', isTask', kept, equipped, fun _ => unfinished⟩, continues,
            Or.inr ⟨{ task, context := session.context, world := run.world }, ?_, rfl, ?_, rfl⟩⟩
          · simp [look?, first, follows.isSession, follows.isTask]
          · exact ⟨live atWork, follows.equipped session (List.mem_of_getElem? follows.isSession)
              task (List.mem_of_getElem? follows.isTask)⟩
        · have apart : j' ≠ j := by
            intro sameIndex
            subst sameIndex
            rw [follows.isTask, Option.some.injEq] at isPolled
            exact same (congrArg Task.device isPolled.symm)
          refine ⟨_, task, ⟨isNext', ?_, kept, equipped, fun _ => unfinished⟩, continues,
            Or.inl ⟨?_, rfl⟩⟩
          · simp only [Session.receive, List.getElem?_set_ne apart]
            exact follows.isTask
          · simp [look?, first, follows.isSession, isPolled, same]
      · refine ⟨session, task, ⟨?_, follows.isTask, follows.kept, equipped, follows.waitedFor⟩,
          .refl session, Or.inl ⟨?_, rfl⟩⟩
        · simp only [List.getElem?_set_ne here]
          exact follows.isSession
        · simp [look?, first, here]

/-- Throughout a run a task is looked after again and again, and it is left alone otherwise. -/
theorem go (steps : Nat) : ∀ {run : Run δ} {session : Session} {task : Task},
    run.Follows i j session task →
    (∀ k, (Run.go none k run).AtWork i task.device → (Run.go none k run).IsOpen i →
      (Run.go none (k + 1) run).world.interruption? session.context = none) →
    ∃ session' last, (Run.go none steps run).Follows i j session' last ∧
      session.Continues session' ∧
      Course δ task (run.looksWithin i task.device steps) last ∧
      ∀ look ∈ run.looksWithin i task.device steps, look.Fair := by
  induction steps with
  | zero =>
      intro run session task follows live
      exact ⟨session, task, follows, .refl session, .rests task, by simp [looksWithin]⟩
  | succ steps ih =>
      intro run session task follows live
      cases isNext : run.step none with
      | none =>
          rw [go_ended isNext]
          simp only [looksWithin, isNext]
          exact ⟨session, task, follows, .refl session, .rests task, by simp⟩
      | some next =>
          have onward : ∀ k, Run.go none (k + 1) run = Run.go none k next := go_step isNext
          have liveNext : task.phase ≠ .reported →
              next.world.interruption? session.context = none := by
            intro unreported
            have isLive := live 0 (follows.atWork unreported) (follows.isOpen unreported)
            rwa [onward] at isLive
          rcases follows.step isNext liveNext with ⟨middle, task', follows', continues, looks⟩
          have sameDevice : task'.device = task.device := by
            rcases looks with ⟨-, rfl⟩ | ⟨look, -, rfl, -, rfl⟩
            · rfl
            · rcases look.polls.eq_enter with ⟨phase, same⟩
              rw [same]
              rfl
          have later := ih follows' (by
            intro k atWork isOpen
            rw [sameDevice, ← onward] at atWork
            rw [← onward] at isOpen
            have isLive := live (k + 1) atWork isOpen
            rw [onward] at isLive
            rwa [continues.context])
          rw [sameDevice] at later
          rcases later with ⟨session', last, follows'', continues', course, fair⟩
          rw [onward]
          simp only [looksWithin, isNext]
          refine ⟨session', last, follows'', continues.trans continues', ?_⟩
          rcases looks with ⟨noLook, rfl⟩ | ⟨look, isLook, rfl, isFair, rfl⟩
          · rw [noLook]
            exact ⟨course, fair⟩
          · rw [isLook]
            exact ⟨.goes course, List.forall_mem_cons.2 ⟨isFair, fair⟩⟩

/-- When nothing happens any more, a task has reported or waits for something that never ends. -/
theorem reported_of_ended (follows : run.Follows i j session task) (ended : run.step none = none)
    (waits : task.Waits) (begun : ∀ caller, task.phase ≠ .opening caller) :
    task.phase = .reported := by
  cases phase : task.phase with
  | reported => rfl
  | opening caller => exact absurd phase (begun caller)
  | working lanes later outcome =>
      exfalso
      have unfinished := follows.waitedFor (by simp [phase])
      have member := List.mem_of_getElem? follows.isTask
      have inRun := List.mem_of_getElem? follows.isSession
      rcases waits lanes later outcome phase with ⟨timed, lane, isLane, call, isCall⟩
      rcases Option.ne_none_iff_exists'.1 (timed lane isLane call isCall) with ⟨time, isDue⟩
      have isWake : time ∈ task.wakes run.world := by
        refine List.mem_append_right _ (List.mem_filterMap.2 ⟨call, ?_, isDue⟩)
        rw [Task.calls, phase]
        exact List.mem_filterMap.2 ⟨lane, isLane, isCall⟩
      rcases step_eq_none ended with allOver | impatient | ⟨idle, noMail, never⟩
      · have isOver := List.all_eq_true.1 allOver session inRun
        rw [unfinished] at isOver
        cases isOver
      · cases impatient
      · rcases Nat.lt_or_ge run.world.clock time with ahead | past
        · have isWake' : time ∈ run.wakes.filter fun time => run.world.clock < time := by
            refine List.mem_filter.2 ⟨List.mem_flatMap.2 ⟨session, inRun, ?_⟩, by simpa using ahead⟩
            rw [if_neg (by simp [unfinished])]
            exact List.mem_append_right _ (List.mem_flatMap.2 ⟨task, member, isWake⟩)
          rw [show run.wakes.filter _ = [] from List.min?_eq_none_iff.1 never] at isWake'
          cases isWake'
        · exact not_idle_of_wake follows.isSession unfinished member isWake rfl past
            ⟨idle, noMail⟩

end Follows

end Run

end AvControl

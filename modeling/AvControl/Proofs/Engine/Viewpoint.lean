import AvControl.Proofs.Engine.Follow

/-!
# A run from the point of view of one task

In a step of a run a task is looked after, or another task is, or the coordinators look around. Only
in the first case does anything happen to the task itself, and so all that ever happens to it is the
course of its looks.
-/

namespace AvControl

namespace Run

variable {δ : Type}

/-- A task in a session of a run, known by its place and by its device. -/
structure Tracks (run : Run δ) (i j : Nat) (session : Session) (task : Task) : Prop where
  isSession : run.sessions[i]? = some session
  isTask : session.tasks[j]? = some task
  distinct : (session.tasks.map Task.device).Nodup

/-- What happens in a step from the point of view of one task. -/
inductive Sees [Driver δ] (run next : Run δ) (i j : Nat) (session : Session) (task : Task) :
    Session → Task → Prop
  | looks (unfinished : session.finished = false)
      (isTurn : (task.turn? session.context run.world).isSome = true)
      (isLook : run.look? i task.device =
        some { task, context := session.context, world := run.world })
      (sameWorld : next.world = (task.poll session.context run.world).1) :
      Sees run next i j session task (session.receive j (task.poll session.context run.world).2)
        (task.poll session.context run.world).2.1
  /-- Another task of the session is looked after. -/
  | sibling {k : Nat} {other : Task} (unfinished : session.finished = false)
      (isOther : session.tasks[k]? = some other) (apart : other.device ≠ task.device)
      (noLook : run.look? i task.device = none)
      (sameWorld : next.world = (other.poll session.context run.world).1) :
      Sees run next i j session task (session.receive k (other.poll session.context run.world).2)
        task
  /-- A task of another session is looked after. -/
  | stranger {i' k : Nat} {session' : Session} {other : Task} (apart : i' ≠ i)
      (isSession : run.sessions[i']? = some session') (isOther : session'.tasks[k]? = some other)
      (noLook : run.look? i task.device = none)
      (sameWorld : next.world = (other.poll session'.context run.world).1) :
      Sees run next i j session task session task
  /-- The coordinators look around, after some time perhaps. -/
  | attends {before after : Tokens} {time : Nat} (idle : run.turns = [])
      (noLook : run.look? i task.device = none) (below : run.world.tokens.Below before)
      (sameWorld : next.world = { run.world with tokens := after, clock := time })
      (moment : time = run.world.clock ∨ run.nextTime none = some time) :
      Sees run next i j session task
        (session.attend { run.world with tokens := before, clock := time }).2 task

variable {run next : Run δ} {i j : Nat} {session session' : Session} {task task' : Task}

namespace Tracks

theorem eq_of_device (tracks : run.Tracks i j session task) {k : Nat} {other : Task}
    (isOther : session.tasks[k]? = some other) (same : other.device = task.device) : k = j := by
  rcases List.getElem?_eq_some_iff.1 isOther with ⟨inside, -⟩
  apply (List.getElem?_inj (by simpa using inside) tracks.distinct).1
  simp [isOther, tracks.isTask, same]

/-- The coordinators leave the task as it is. -/
theorem attend (tracks : run.Tracks i j session task) : ∃ before,
    run.world.tokens.Below before ∧ run.attend.Tracks i j
      (session.attend { run.world with tokens := before }).2 task := by
  rcases attendAll_at run.sessions run.world tracks.isSession with ⟨before, below, isNext, -⟩
  refine ⟨before, below, isNext, ?_, ?_⟩
  · rw [Session.tasks_attend]
    exact tracks.isTask
  · rw [Session.tasks_attend]
    exact tracks.distinct

variable [Driver δ]

/-- In every step something happens that the task can tell. -/
theorem step (tracks : run.Tracks i j session task) (isNext : run.step none = some next) :
    ∃ session' task', next.Tracks i j session' task' ∧
      run.Sees next i j session task session' task' := by
  have noLook : run.turns = [] → run.look? i task.device = none := by
    intro idle
    simp [look?, idle, leastKeyed]
  have receives : ∀ {k : Nat} {other : Task}, session.tasks[k]? = some other →
      ((session.receive k (other.poll session.context run.world).2).tasks.map
        Task.device).Nodup := by
    intro k other isOther
    rw [(Session.continues_receive run.world isOther).devices]
    exact tracks.distinct
  cases (step_steps isNext).2 with
  | collect idle =>
      rcases tracks.attend with ⟨before, below, tracks'⟩
      rcases run.world_attend with ⟨after, -, sameWorld⟩
      exact ⟨_, task, tracks', .attends idle (noLook idle) below sameWorld (Or.inl rfl)⟩
  | @wait time idle noMail isTime =>
      have wound : (run.wind time).Tracks i j session task :=
        ⟨tracks.isSession, tracks.isTask, tracks.distinct⟩
      rcases wound.attend with ⟨before, below, tracks'⟩
      rcases (run.wind time).world_attend with ⟨after, -, sameWorld⟩
      exact ⟨_, task, tracks', .attends idle (noLook idle) below sameWorld (Or.inr isTime)⟩
  | @poll turn i' k session' other first isSession unfinished isOther isTurn =>
      by_cases here : i' = i
      · subst here
        rw [tracks.isSession, Option.some.injEq] at isSession
        subst isSession
        rcases List.getElem?_eq_some_iff.1 tracks.isSession with ⟨inside, -⟩
        rcases List.getElem?_eq_some_iff.1 tracks.isTask with ⟨inTasks, -⟩
        by_cases same : other.device = task.device
        · obtain rfl := tracks.eq_of_device isOther same
          rw [tracks.isTask, Option.some.injEq] at isOther
          subst isOther
          refine ⟨_, _, ⟨by simp [inside], by simp [Session.receive, inTasks],
            receives tracks.isTask⟩, .looks unfinished (by simp [isTurn]) ?_ rfl⟩
          simp [look?, first, tracks.isSession, tracks.isTask]
        · have apart : k ≠ j := by
            intro sameIndex
            subst sameIndex
            rw [tracks.isTask, Option.some.injEq] at isOther
            exact same (congrArg Task.device isOther.symm)
          refine ⟨_, task, ⟨by simp [inside], ?_, receives isOther⟩,
            .sibling unfinished isOther same ?_ rfl⟩
          · simp only [Session.receive, List.getElem?_set_ne apart]
            exact tracks.isTask
          · simp [look?, first, tracks.isSession, isOther, same]
      · refine ⟨session, task, ⟨?_, tracks.isTask, tracks.distinct⟩,
          .stranger here isSession isOther ?_ rfl⟩
        · rw [List.getElem?_set_ne here]
          exact tracks.isSession
        · simp [look?, first, here]

end Tracks

variable [Driver δ]

/-- Whatever happens, the session goes on with the same request. -/
theorem Sees.continues (sees : run.Sees next i j session task session' task')
    (isTask : session.tasks[j]? = some task) : session.Continues session' := by
  cases sees with
  | looks => exact Session.continues_receive run.world isTask
  | sibling _ isOther => exact Session.continues_receive run.world isOther
  | stranger => exact .refl session
  | attends => exact session.continues_attend _

/-- The task is looked after, or it stays as it is. -/
theorem Sees.cases_look (sees : run.Sees next i j session task session' task') :
    run.look? i task.device = none ∧ task' = task ∨ ∃ look, run.look? i task.device = some look ∧
      look.task = task ∧ look.context = session.context ∧ task' = look.result.2.1 := by
  cases sees with
  | looks _ _ isLook => exact Or.inr ⟨_, isLook, rfl, rfl, rfl⟩
  | sibling _ _ _ noLook | stranger _ _ _ noLook | attends _ noLook => exact Or.inl ⟨noLook, rfl⟩

/-- All that happens to a task in a run is the course of its looks. -/
theorem Tracks.course (steps : Nat) : ∀ {run : Run δ} {session : Session} {task : Task},
    run.Tracks i j session task → ∃ session' last,
      (Run.go none steps run).Tracks i j session' last ∧ session.Continues session' ∧
      Course δ task (run.looksWithin i task.device steps) last ∧
      ∀ look ∈ run.looksWithin i task.device steps, look.context = session.context := by
  induction steps with
  | zero =>
      intro run session task tracks
      exact ⟨session, task, tracks, .refl session, .rests task, by simp [looksWithin]⟩
  | succ steps ih =>
      intro run session task tracks
      cases isNext : run.step none with
      | none =>
          rw [go_ended isNext]
          simp only [looksWithin, isNext]
          exact ⟨session, task, tracks, .refl session, .rests task, by simp⟩
      | some next =>
          rcases tracks.step isNext with ⟨middle, task', tracks', sees⟩
          have continues := sees.continues tracks.isTask
          rcases ih tracks' with ⟨session', last, tracks'', continues', course, contexts⟩
          rw [go_step isNext]
          simp only [looksWithin, isNext]
          refine ⟨session', last, tracks'', continues.trans continues', ?_⟩
          rw [continues.context] at contexts
          rcases sees.cases_look with ⟨noLook, rfl⟩ | ⟨look, isLook, rfl, sameContext, rfl⟩
          · rw [noLook]
            exact ⟨course, contexts⟩
          · have sameDevice : look.result.2.1.device = look.task.device := by
              rcases look.polls.eq_enter with ⟨phase, same⟩
              rw [same]
              rfl
            rw [sameDevice] at course contexts
            rw [isLook]
            exact ⟨.goes course, List.forall_mem_cons.2 ⟨sameContext, contexts⟩⟩

end Run

end AvControl

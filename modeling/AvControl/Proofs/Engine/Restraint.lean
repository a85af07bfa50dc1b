import AvControl.Proofs.Engine.Reports
import AvControl.Proofs.Engine.Viewpoint

/-!
# Nothing is begun for a request that is over

All that drivers are asked for is asked when a task of a request without an answer is looked after.
No opening and no call begins on behalf of a request whose context has ended, and none once the
request is answered. Of all its work only an opening that has already begun can go on then, and only
when the task of another request joins it.
-/

namespace AvControl

namespace Look

variable {δ : Type} [Driver δ]

/--
What a look may ask for. Its own driver is asked for the deeds, which begin something only while the
context is live, as the cancellations stand at that moment; every call that is finished, or still
under way, is one that the task has begun; and an opening goes on only if the task has joined it.
-/
structure Restrained (look : Look (Recorded δ)) : Prop where
  others : ∀ name, name ≠ look.task.config.driver →
    look.result.1.registry.get name = look.world.registry.get name
  added : look.result.1.deeds look.task.config.driver =
    look.world.deeds look.task.config.driver ++ look.deeds
  cancelled : look.result.1.tokens =
    look.deeds.foldl (Deed.cancelling look.context) look.world.tokens
  live : Gated look.context look.world.clock look.world.tokens look.deeds
  atHome : ∀ deed ∈ look.deeds, deed.begins = true → deed.address = look.task.config.address
  own : ∀ command, (look.deeds.filterMap Deed.finished?).count command +
    (look.result.2.1.calls.map Call.command).count command ≤
      (look.deeds.filterMap Deed.begun?).count command +
        (look.task.calls.map Call.command).count command
  attempts : ∀ number attempt,
    (look.world.attempts look.task.config.driver)[number]? = some attempt →
      (look.result.1.attempts look.task.config.driver)[number]? = some attempt ∨ look.Joins number

theorem restrained (look : Look (Recorded δ))
    (registered : (look.world.registry.get look.task.config.driver).isSome = true) :
    look.Restrained := by
  have asked := look.asked_deeds registered
  exact ⟨asked.asks.others, asked.asks.added, asked.asks.cancelled, asked.asks.gated, asked.atHome,
    asked.own, fun _ _ => attempts_kept registered⟩

end Look

/-- A task finishes no call but those that it has begun on the way or before. -/
theorem Course.own {δ : Type} [Driver δ] {task last : Task} {looks : List (Look (Recorded δ))}
    (course : Course (Recorded δ) task looks last) (restrained : ∀ look ∈ looks, look.Restrained)
    (command : Command) :
    ((looks.flatMap Look.deeds).filterMap Deed.finished?).count command +
      (last.calls.map Call.command).count command ≤
        ((looks.flatMap Look.deeds).filterMap Deed.begun?).count command +
          (task.calls.map Call.command).count command := by
  induction course with
  | rests => simp
  | @goes look looks last rest ih =>
      rcases List.forall_mem_cons.1 restrained with ⟨first, others⟩
      have own := first.own command
      have later := ih others
      simp only [List.flatMap_cons, List.filterMap_append, List.count_append]
      omega

namespace Run

variable {δ : Type} [Driver δ]

theorem after_reaches (run : Run δ) (steps : Nat) :
    List.Forall₂ (Session.Reaches δ) run.sessions (run.after steps).sessions :=
  forall₂_trans (attendAll_goes run.world run.sessions) (go_reaches none steps run.attend)
    fun _ _ _ => Session.Goes.reaches

/-- A session that is over stays as it is. -/
theorem frozen {run next : Run δ} {i : Nat} {session : Session}
    (isNext : run.step none = some next) (isSession : run.sessions[i]? = some session)
    (finished : session.finished = true) : next.sessions[i]? = some session := by
  have attended : ∀ run : Run δ, run.sessions[i]? = some session →
      run.attend.sessions[i]? = some session := by
    intro run isSession
    rcases attendAll_at run.sessions run.world isSession with ⟨tokens, -, isAttended, -⟩
    rw [show run.attend.sessions = (attendAll run.world run.sessions).2 from rfl, isAttended]
    simp [Session.attend, finished]
  cases (step_steps isNext).2 with
  | collect => exact attended run isSession
  | @wait time => exact attended (run.wind time) isSession
  | @poll turn i' j session' task first isSession' unfinished isTask isTurn =>
      have apart : i' ≠ i := by
        intro same
        subst same
        rw [isSession, Option.some.injEq] at isSession'
        rw [isSession', unfinished] at finished
        cases finished
      rw [List.getElem?_set_ne apart]
      exact isSession

/-- Nothing happens to drivers in a step unless a task is looked after. -/
theorem quiet {run next : Run δ} (isNext : run.step none = some next)
    (noLook : ∀ i device, run.look? i device = none) :
    next.world.registry = run.world.registry := by
  cases (step_steps isNext).2 with
  | collect =>
      rcases run.world_attend with ⟨tokens, -, same⟩
      rw [same]
  | @wait time =>
      rcases (run.wind time).world_attend with ⟨tokens, -, same⟩
      rw [same]
      rfl
  | @poll turn i j session task first isSession unfinished isTask isTurn =>
      have isLook : run.look? i task.device =
          some { task, context := session.context, world := run.world } := by
        simp [look?, first, isSession, isTask]
      rw [noLook] at isLook
      cases isLook

/-- Whoever is looked after belongs to a session that is not over. -/
theorem step_of_look {run next : Run δ} {i : Nat} {device : DeviceId} {look : Look δ}
    (isNext : run.step none = some next) (isLook : run.look? i device = some look) :
    ∃ session ∈ run.sessions[i]?, session.finished = false ∧ look.task ∈ session.tasks ∧
      look.context = session.context ∧ look.world = run.world ∧ next.world = look.result.1 := by
  have busy : run.turns ≠ [] := by
    intro idle
    simp [look?, idle, leastKeyed] at isLook
  cases (step_steps isNext).2 with
  | collect idle | wait idle => exact absurd idle busy
  | @poll turn i' j session task first isSession unfinished isTask isTurn =>
      by_cases here : i' = i
      · subst here
        simp only [look?, first, if_true, isSession, Option.bind_some, isTask,
          Option.ite_none_right_eq_some, Option.some.injEq] at isLook
        rcases isLook with ⟨-, rfl⟩
        exact ⟨session, isSession, unfinished, List.mem_of_getElem? isTask, rfl, rfl, rfl⟩
      · simp [look?, first, here] at isLook

/--
What a step after so many others may do on behalf of a request. An answer is final, and nobody is
looked after on behalf of an answered request; drivers are asked for nothing but by looks.
-/
structure NoGhosts (run next : Run (Recorded δ)) (i steps : Nat) (request : RoomRequest) :
    Prop where
  final : ∀ answer, run.answer? i steps = some answer → run.answer? i (steps + 1) = some answer
  looks : ∀ device look, (run.after steps).look? i device = some look →
    run.answer? i steps = none ∧ look.context = request.context ∧
      look.world = (run.after steps).world ∧ next.world = look.result.1 ∧ look.Restrained
  quiet : (∀ i device, (run.after steps).look? i device = none) →
    next.world.registry = (run.after steps).world.registry
  own : ∀ device ∈ (request.operation.targets request.room).map Prod.fst, ∀ command,
    (((run.attend.looksWithin i device steps).flatMap Look.deeds).filterMap
      Deed.finished?).count command ≤
    (((run.attend.looksWithin i device steps).flatMap Look.deeds).filterMap
      Deed.begun?).count command

end Run

namespace World

variable {δ : Type} [Driver δ]

/--
Whatever drivers do and however contexts end, nothing is begun on behalf of a request when its
context has ended or when it is answered, and it leaves nothing behind but openings that others may
join.
-/
theorem no_ghosts {world : World (Recorded δ)} {requests : List RoomRequest}
    {request : RoomRequest} {session : Session} {i steps : Nat} {next : Run (Recorded δ)}
    (prepared : world.prepare request = .ok session)
    (isSession : (world.engage requests).sessions[i]? = some session)
    (isNext : ((world.engage requests).after steps).step none = some next) :
    (world.engage requests).NoGhosts next i steps request := by
  have ready := ready_of_prepare prepared
  have equipped : ((world.engage requests).after steps).Equipped :=
    Run.go_induction (fun _ _ equipped isNext => equipped.step (Run.step_steps isNext).2) steps
      (world.equipped_engage requests).attend
  constructor
  case final =>
    intro answer isAnswer
    rcases Option.map_eq_some_iff.1 isAnswer with ⟨last, isLast, isOwn⟩
    rcases Option.filter_eq_some_iff.1 isLast with ⟨isLast, finished⟩
    have stays := Run.frozen isNext isLast finished
    simp [Run.answer?, Run.after_succ isNext, stays, Option.filter, finished, isOwn]
  case looks =>
    intro device look isLook
    rcases Run.step_of_look isNext isLook with
      ⟨last, isLast, unfinished, isTask, sameContext, sameWorld, nextWorld⟩
    have registered := equipped last (List.mem_of_getElem? isLast) look.task isTask
    rw [← sameWorld] at registered
    have reaches := getElem?_of_forall₂ ((world.engage requests).after_reaches steps) isSession
      isLast
    refine ⟨?_, ?_, sameWorld, nextWorld, look.restrained registered⟩
    · rw [Run.answer?, show _[i]? = some last from isLast]
      simp [Option.filter, unfinished]
    · rw [sameContext, reaches.continues.context, ready.context]
  case quiet => exact Run.quiet isNext
  case own =>
    intro device isTarget command
    rcases List.mem_map.1 isTarget with ⟨target, inTargets, rfl⟩
    rcases ready.task inTargets with ⟨task, member, assigned⟩
    rcases List.mem_iff_getElem?.1 member with ⟨j, isTask⟩
    have distinct : (session.tasks.map Task.device).Nodup := by
      rw [ready.devices]
      exact request.operation.targets_distinct request.room
    have tracks : (world.engage requests).Tracks i j session task := ⟨isSession, isTask, distinct⟩
    rcases tracks.attend with ⟨before, -, tracks'⟩
    rcases tracks'.course steps with ⟨_, last, -, -, course, -⟩
    rw [assigned.device] at course
    have own := course.own (fun look isLook => look.restrained
      (Run.look_of_mem steps (world.equipped_engage requests).attend isLook).2) command
    have noCalls : task.calls = [] := by simp [Task.calls, assigned.fresh]
    rw [noCalls, List.map_nil, List.count_nil] at own
    omega

/-- A script by which the device in the lab cancels whatever asks whether it is powered. -/
def labRefusal : Script where
  devices := SortedMap.empty.insert "lab"
    { rules := SortedMap.empty.insert "get_power" { cancels := true } }

theorem no_ghosts_lab :
    let request : RoomRequest :=
      { operation := .get, room := lab, context := { deadline := some 9, token := 0 } }
    let world : World (Recorded ScriptedDriver) :=
      { labWorld { driver := { script := labRefusal } } with tokens := (Tokens.add {} none).1 }
    ∃ session next, world.prepare request = .ok session ∧
      (world.engage [request]).sessions[0]? = some session ∧
      ((world.engage [request]).after 0).step none = some next ∧
      next.world.interruption? request.context ≠ none ∧
      (world.engage [request]).NoGhosts next 0 0 request := by
  intro request world
  have isOk : (world.prepare request).toOption.isSome = true := by decide +kernel
  have goesOn : ((((world.engage [request]).after 0).step none).any fun next =>
      (next.world.interruption? request.context).isSome) = true := by decide +kernel
  rcases exists_of_isSome isOk with ⟨session, prepared⟩
  rcases (Option.any_eq_true _ _).1 goesOn with ⟨next, isNext, ended⟩
  have isSession : (world.engage [request]).sessions[0]? = some session := by
    simp [engage, prepared, Except.toOption]
  exact ⟨session, next, prepared, isSession, isNext, Option.isSome_iff_ne_none.1 ended,
    no_ghosts prepared isSession isNext⟩

end World

end AvControl

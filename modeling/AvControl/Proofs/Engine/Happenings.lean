import AvControl.Proofs.Engine.Passage
import AvControl.Proofs.Engine.Settlement

/-!
# Whatever may happen

A run looks after its tasks in their turns, and each of them goes on as far as it can. What requests
do to devices must not hang on that. So here any number of requests are at work whose tasks go on in
any order, one move at a time; meanwhile requests arrive, contexts are made and cancelled, drivers
are configured, somebody else has devices opened, and time passes as it likes. A run is one of the
ways in which things may happen.
-/

namespace AvControl

open Relation

/-- The phase of a task that is at work like this. -/
def Bench.phase {δ : Type} (bench : Bench δ) : Phase :=
  .working bench.lanes bench.later bench.outcome

namespace Task

variable {δ : Type} [Driver δ]

/-- The least that a task can do without anything else happening meanwhile. -/
inductive Stirs (task : Task) (context : RequestContext) (world : World δ) :
    World δ × Task × Option Outcome → Prop
  | looks {caller : Caller} (opening : task.phase = .opening caller)
      (live : caller = .fresh → world.interruption? context = none) :
      Stirs task context world ((task.opened context world caller).1,
        task.enter (.opening (task.opened context world caller).2), none)
  | fails {error : DriverError} (opening : task.phase = .opening (.answered (.error error))) :
      Stirs task context world (world, task.enter .reported,
        some (.ofDevice task.device (FieldError.create error).message))
  | givesUp {caller : Caller} {interruption : Interruption}
      (opening : task.phase = .opening caller)
      (ended : world.interruption? context = some interruption) :
      Stirs task context world (world, task.enter .reported,
        some (.ofDevice task.device (FieldError.context interruption).message))
  | begins {handle : Handle} (opening : task.phase = .opening (.answered (.ok handle))) :
      Stirs task context world (world, task.enter (task.workbench world handle).phase, none)
  | moves {bench bench' : Bench δ} (working : task.phase = bench.phase)
      (here : bench.world = world) (move : task.Move context bench bench') :
      Stirs task context world (bench'.world, task.enter bench'.phase, none)
  | reports {outcome : Outcome} (working : task.phase = .working [] [] outcome) :
      Stirs task context world (world, task.enter .reported, some outcome)
  | crashes {bench : Bench δ} {world' : World δ} (working : task.phase = bench.phase)
      (here : bench.world = world) (crash : task.Crashes bench world') :
      Stirs task context world
        (world', task.enter .reported, some (.ofDevice task.device crashText))

/-- A task has stirred some times, and has reported the last time at most. -/
inductive Stirrings (task : Task) (context : RequestContext) (world : World δ) :
    World δ × Task × Option Outcome → Prop
  | rests : Stirrings task context world (world, task, none)
  | stirs {world' : World δ} {task' : Task} {result : World δ × Task × Option Outcome}
      (before : Stirrings task context world (world', task', none))
      (stirs : task'.Stirs context world' result) : Stirrings task context world result

/-- What a task does to the world when it stirs, and the command that it is done with thereby. -/
inductive Does (task : Task) (context : RequestContext) (world : World δ) :
    World δ → Option Deal → Prop
  | rests : Does task context world world none
  | looks (caller : Caller) :
      Does task context world (task.opened context world caller).1 none
  | calls (command : Command) :
      Does task context world (world.beginCall task.config context command).1 none
  | finishes {deal : Deal} {world' : World δ}
      (done : world.finishCall task.config deal.command = (world', .done deal.result)) :
      Does task context world world' (some deal)

omit [Driver δ] in
/-- What a task at work has found so far. -/
def findings (task : Task) : List Finding :=
  match task.phase with
  | .working _ _ outcome => outcome.findings
  | _ => []

variable {task : Task} {context : RequestContext} {world : World δ}
  {result : World δ × Task × Option Outcome}

namespace Stirs

theorem later (stirs : task.Stirs context world result) : world.Later result.1 := by
  cases stirs with
  | looks => exact world.later_lookAfter _ _ _ _
  | fails | givesUp | begins | reports => exact .refl _
  | moves working here move => exact here ▸ move.later
  | crashes working here crash =>
      rcases crash with ⟨before, call, rest, after, -, -, crashed⟩
      have later := World.later_finishCall world task.config call.command
      rw [← here, crashed] at later
      exact here ▸ later

theorem eq_enter (stirs : task.Stirs context world result) :
    ∃ phase, result.2.1 = task.enter phase := by
  cases stirs <;> exact ⟨_, rfl⟩

theorem unreported (stirs : task.Stirs context world result) : task.phase ≠ .reported := by
  cases stirs with
  | looks opening | fails opening | givesUp opening | begins opening => simp [opening]
  | moves working | crashes working => simp [working, Bench.phase]
  | reports working => simp [working]

/-- A task reports exactly when it comes to its end. -/
theorem reports_iff (stirs : task.Stirs context world result) :
    result.2.2.isSome = true ↔ result.2.1.phase = .reported := by
  cases stirs with
  | looks | fails | givesUp | begins | reports | crashes => simp [enter, Bench.phase, workbench]
  | moves => simp [enter, Bench.phase]

theorem settles (stirs : task.Stirs context world result) (underWay : task.UnderWay) :
    result.2.1.UnderWay ∧ ∀ outcome, result.2.2 = some outcome → task.Settled outcome := by
  cases stirs with
  | looks => exact ⟨by simp [UnderWay], by simp⟩
  | @fails error =>
      refine ⟨by simp [UnderWay], fun outcome isOutcome => Or.inl ⟨.unopened error, ?_⟩⟩
      exact (Option.some.inj isOutcome).symm
  | @givesUp _ interruption =>
      refine ⟨by simp [UnderWay], fun outcome isOutcome => Or.inl ⟨.interrupted interruption, ?_⟩⟩
      exact (Option.some.inj isOutcome).symm
  | @begins handle =>
      refine ⟨fun lanes later outcome working => ?_, by simp⟩
      cases working
      exact ⟨handle, [], by simp [workbench, Plan.commands, pending, Lane.commands]⟩
  | moves working here move =>
      refine ⟨fun lanes later outcome working' => ?_, by simp⟩
      cases working'
      rcases underWay _ _ _ working with ⟨handle, settles⟩
      have settled := move.settles settles
      exact ⟨handle, settled⟩
  | reports working =>
      refine ⟨by simp [UnderWay], fun outcome isOutcome => ?_⟩
      cases isOutcome
      rcases underWay _ _ _ working with ⟨handle, settles⟩
      exact Or.inr ⟨handle, settles⟩
  | crashes =>
      refine ⟨by simp [UnderWay], fun outcome isOutcome => Or.inl ⟨.crashed, ?_⟩⟩
      exact (Option.some.inj isOutcome).symm

/-- A task finds nothing but what comes of the commands that it is done with. -/
theorem does (stirs : task.Stirs context world result)
    (sound : ∀ command, (world.finishCall task.config command).2 ≠ .crashed) :
    ∃ deal : Option Deal, task.Does context world result.1 deal ∧
      result.2.1.findings ++ result.2.2.toList.flatMap Outcome.findings =
        task.findings ++ (deal.bind Deal.finding?).toList := by
  cases stirs with
  | looks opening => exact ⟨none, .looks _, by simp [findings, opening]⟩
  | fails opening | givesUp opening =>
      exact ⟨none, .rests, by simp [findings, opening, Outcome.ofDevice]⟩
  | begins opening => exact ⟨none, .rests, by simp [findings, opening, Bench.phase, workbench]⟩
  | reports working => exact ⟨none, .rests, by simp [findings, working]⟩
  | crashes working here crash =>
      rcases crash with ⟨before, call, rest, after, -, -, crashed⟩
      exact absurd (congrArg Prod.snd crashed) (here ▸ sound call.command)
  | moves working here move =>
      subst here
      simp only [findings, working, Bench.phase, phase_enter, Option.toList_none,
        List.flatMap_nil, List.append_nil]
      cases move with
      | leave | proceed => exact ⟨none, .rests, by simp⟩
      | begin => exact ⟨none, .calls _, by simp⟩
      | skip | breakOff => exact ⟨none, .rests, by simp [note, Outcome.report]⟩
      | @finish _ _ call _ _ result _ _ done =>
          refine ⟨some ⟨call.command, result⟩, .finishes done, ?_⟩
          refine (findings_note ⟨call.command, result⟩).trans ?_
          cases result <;> rfl

end Stirs

theorem Move.enter {bench bench' : Bench δ} (move : task.Move context bench bench')
    (phase : Phase) : (task.enter phase).Move context bench bench' := by
  cases move with
  | skip here ended => exact .skip here ended
  | begin here live => exact .begin here live
  | breakOff here ended => exact .breakOff here ended
  | finish here due done => exact .finish here due done
  | leave here => exact .leave here
  | proceed isOver => exact .proceed isOver

namespace Stirrings

theorem moves {bench bench' : Bench δ}
    (before : task.Stirrings context world (bench.world, task.enter bench.phase, none))
    (moves : task.Moves context bench bench') :
    task.Stirrings context world (bench'.world, task.enter bench'.phase, none) := by
  induction moves with
  | refl => exact before
  | tail _ move ih => exact ih.stirs (.moves rfl rfl (move.enter _))

theorem works {bench : Bench δ}
    (before : task.Stirrings context world (bench.world, task.enter bench.phase, none))
    (works : task.Works context bench result) : task.Stirrings context world result := by
  cases works with
  | stays moves => exact before.moves moves
  | @reports bench' moves isOver last =>
      refine (before.moves moves).stirs (.reports ?_)
      rw [phase_enter, Bench.phase, isOver, last]
  | crashes moves crash => exact (before.moves moves).stirs (.crashes rfl rfl crash)

end Stirrings

/-- Looking after a task has it stir as often as it can. -/
theorem Polls.stirrings (polls : task.Polls context world result) :
    task.Stirrings context world result := by
  have opens : ∀ caller, task.phase = .opening caller →
      (caller = .fresh → world.interruption? context = none) →
      task.Stirrings context world ((task.opened context world caller).1,
        task.enter (.opening (task.opened context world caller).2), none) :=
    fun caller opening live => Stirrings.rests.stirs (.looks opening live)
  cases polls with
  | silent => exact .rests
  | leavesOut fresh ended => exact Stirrings.rests.stirs (.givesUp fresh ended)
  | fails opening live answer => exact (opens _ opening live).stirs (.fails (by rw [answer]; rfl))
  | givesUp opening live _ ended => exact (opens _ opening live).stirs (.givesUp rfl ended)
  | waits opening live => exact opens _ opening live
  | @begins caller handle _ opening live answer works =>
      have begins := (opens _ opening live).stirs (.begins (by rw [answer]; rfl))
      exact begins.works works
  | goesOn working works =>
      refine Stirrings.works ?_ works
      change task.Stirrings context world (world, task.enter (.working _ _ _), none)
      rw [← working]
      exact .rests

end Task

namespace Run

variable {δ : Type} [Driver δ]

omit [Driver δ] in
/-- The run after one task of a session has done something, and may have reported. -/
def receive (run : Run δ) (i : Nat) (session : Session) (j : Nat)
    (result : World δ × Task × Option Outcome) : Run δ where
  world := result.1
  sessions := run.sessions.set i (session.receive j result.2)

/-- What can happen by itself to requests at work. -/
inductive Advances (run : Run δ) : Run δ → Prop
  | stirs {i j : Nat} {session : Session} {task : Task} {result : World δ × Task × Option Outcome}
      (isSession : run.sessions[i]? = some session) (unfinished : session.finished = false)
      (isTask : session.tasks[j]? = some task)
      (stirs : task.Stirs session.context run.world result) :
      Advances run (run.receive i session j result)
  | attends {i : Nat} {session : Session} (isSession : run.sessions[i]? = some session) :
      Advances run { world := (session.attend run.world).1
                     sessions := run.sessions.set i (session.attend run.world).2 }
  | waits {time : Nat} (passes : run.world.clock ≤ time) : Advances run (run.wind time)

/-- What can happen in a world in which requests are at work. -/
inductive Happens (run : Run δ) : Run δ → Prop
  | advances {next : Run δ} (advances : run.Advances next) : Happens run next
  | arrives {request : RoomRequest} {session : Session}
      (prepared : run.world.prepare request = .ok session) :
      Happens run { run with sessions := run.sessions ++ [session] }
  /-- A context is made, perhaps under another one. -/
  | creates (parent : Option Nat) :
      Happens run { run with
        world := { run.world with tokens := (run.world.tokens.add parent).1 } }
  | cancels (context : RequestContext) :
      Happens run { run with world := run.world.cancel context }
  | configures {name : String} {configuration : Json} {registry : Registry δ}
      (configured : run.world.registry.configure name configuration = .ok registry) :
      Happens run { run with world := { run.world with registry } }
  /-- Somebody else wants a device opened. -/
  | visits (driver address : String) (context : RequestContext) (caller : Caller) :
      Happens run { run with world := (run.world.lookAfter driver address context caller).1 }

/-- Some things have happened. -/
abbrev Happenings : Run δ → Run δ → Prop := ReflTransGen Happens

/-! ### Runs -/

theorem receive_stirrings {run : Run δ} {i j : Nat} {session : Session} {task : Task}
    {result : World δ × Task × Option Outcome}
    (isSession : run.sessions[i]? = some session) (unfinished : session.finished = false)
    (isTask : session.tasks[j]? = some task)
    (stirrings : task.Stirrings session.context run.world result) :
    ReflTransGen Advances run (run.receive i session j result) := by
  rcases List.getElem?_eq_some_iff.1 isSession with ⟨inside, isHere⟩
  rcases List.getElem?_eq_some_iff.1 isTask with ⟨inside', isHere'⟩
  induction stirrings with
  | rests =>
      have same : run.receive i session j (run.world, task, none) = run := by
        have sameTasks : session.tasks.set j task = session.tasks := by
          rw [← isHere', List.set_getElem_self]
        have sameSession : session.receive j (task, none) = session := by
          simp [Session.receive, sameTasks]
        simp only [receive, sameSession]
        rw [← isHere, List.set_getElem_self]
      rw [same]
  | @stirs world' task' result before stirs ih =>
      refine ih.tail ?_
      have isReceived : (run.receive i session j (world', task', none)).sessions[i]? =
          some (session.receive j (task', none)) := by simp [receive, inside]
      have isThere : (session.receive j (task', none)).tasks[j]? = some task' := by
        simp [Session.receive, inside']
      have next := Advances.stirs isReceived unfinished isThere stirs
      simpa [receive, Session.receive] using next

theorem advances_attendAll (sessions : List Session) : ∀ (world : World δ) (before : List Session),
    ReflTransGen Advances { world, sessions := before ++ sessions }
      { world := (attendAll world sessions).1
        sessions := before ++ (attendAll world sessions).2 } := by
  induction sessions with
  | nil => exact fun _ _ => .refl
  | cons session rest ih =>
      intro world before
      have isFirst : ({ world, sessions := before ++ session :: rest } : Run δ).sessions[
          before.length]? = some session := by simp
      have first := Advances.attends isFirst
      have others := ih (session.attend world).1 (before ++ [(session.attend world).2])
      rw [attendAll_cons]
      refine .head first ?_
      simpa using others

theorem Steps.advances {run next : Run δ} {patience : Option Nat}
    (patient : patience.any (· ≤ run.world.clock) = false) (steps : Steps patience run next) :
    ReflTransGen Advances run next := by
  cases steps with
  | poll first isSession unfinished isTask isTurn =>
      exact receive_stirrings isSession unfinished isTask (Task.poll_polls _ _ _).stirrings
  | collect => exact advances_attendAll run.sessions run.world []
  | @wait time idle noMail isNext =>
      have passes : run.world.clock ≤ time := by
        rcases nextTime_cases isNext with rfl | ⟨later, -⟩
        · simpa using Nat.le_of_lt (by simpa using patient)
        · exact Nat.le_of_lt later
      exact .head (.waits passes) (advances_attendAll _ (run.wind time).world [])

/-- A run is one of the ways in which requests can go on. -/
theorem advances_complete (run : Run δ) (patience : Option Nat) :
    ReflTransGen Advances run (run.complete patience) := by
  rw [complete]
  refine go_induction ?_ run.bound (advances_attendAll run.sessions run.world [])
  intro middle next before isNext
  rcases step_steps isNext with ⟨⟨-, patient⟩, steps⟩
  exact before.trans (steps.advances patient)

theorem Happens.among {run next : Run δ} (happens : Happens run next) (others : List Session) :
    Happens { run with sessions := others ++ run.sessions }
      { next with sessions := others ++ next.sessions } := by
  have there : ∀ {i : Nat} {session : Session}, run.sessions[i]? = some session →
      (others ++ run.sessions)[others.length + i]? = some session := by
    intro i session isSession
    rw [List.getElem?_append_right (Nat.le_add_right _ _), Nat.add_sub_cancel_left, isSession]
  have replaced : ∀ (i : Nat) (session : Session),
      (others ++ run.sessions).set (others.length + i) session =
        others ++ run.sessions.set i session := by
    intro i session
    rw [List.set_append_right _ _ (Nat.le_add_right _ _), Nat.add_sub_cancel_left]
  cases happens with
  | creates parent => exact .creates parent
  | cancels context => exact .cancels context
  | configures configured => exact .configures configured
  | visits driver address context caller => exact .visits driver address context caller
  | arrives prepared =>
      rw [← List.append_assoc]
      exact .arrives prepared
  | advances advances =>
      refine .advances ?_
      cases advances with
      | waits passes => exact .waits passes
      | @attends i session isSession =>
          rw [← replaced]
          exact .attends (there isSession)
      | @stirs i j session task result isSession unfinished isTask stirs =>
          rw [receive, ← replaced]
          exact .stirs (there isSession) unfinished isTask stirs

theorem Happenings.among {run next : Run δ} (happenings : run.Happenings next)
    (others : List Session) :
    Happenings { run with sessions := others ++ run.sessions }
      { next with sessions := others ++ next.sessions } := by
  induction happenings with
  | refl => exact .refl
  | tail _ happens ih => exact ih.tail (happens.among others)

theorem happenings_engage (world : World δ) (requests : List RoomRequest) :
    ∀ sessions : List Session, Happenings { world, sessions }
      { world, sessions := sessions ++ (world.engage requests).sessions } := by
  induction requests with
  | nil =>
      intro sessions
      simp only [World.engage, List.map_nil, List.filterMap_nil, List.append_nil]
      exact .refl
  | cons request rest ih =>
      intro sessions
      cases prepared : world.prepare request with
      | error error => simpa [World.engage, prepared, Except.toOption] using ih sessions
      | ok session =>
          have arrives : Happens { world, sessions } _ := .arrives prepared
          have others := ih (sessions ++ [session])
          refine .head arrives ?_
          simpa [World.engage, prepared, Except.toOption] using others

/-- Requests that are served together are one of the things that can happen. -/
theorem happenings_serve (world : World δ) (requests : List RoomRequest)
    (patience : Option Nat) : Happenings { world, sessions := [] }
      ((world.engage requests).complete patience) := by
  refine (happenings_engage world requests []).trans ?_
  exact ((world.engage requests).advances_complete patience).lift id fun _ _ => .advances

/-! ### What lasts -/

variable {run next : Run δ}

theorem Happens.passes (happens : Happens run next) :
    run.world.tokens.Below next.world.tokens ∧ run.world.clock ≤ next.world.clock := by
  cases happens with
  | creates parent => exact ⟨run.world.tokens.below_add parent, Nat.le_refl _⟩
  | cancels context => exact ⟨run.world.tokens.below_cancel context.token, Nat.le_refl _⟩
  | arrives | configures => exact ⟨.refl _, Nat.le_refl _⟩
  | visits driver address context caller =>
      have later := run.world.later_lookAfter driver address context caller
      exact ⟨later.tokens, Nat.le_of_eq later.clock.symm⟩
  | advances advances =>
      cases advances with
      | waits passes => exact ⟨.refl _, passes⟩
      | stirs _ _ _ stirs => exact ⟨stirs.later.tokens, Nat.le_of_eq stirs.later.clock.symm⟩
      | @attends i session isSession =>
          rcases attend_world session run.world with ⟨tokens, below, same⟩
          rw [same]
          exact ⟨below, Nat.le_refl _⟩

theorem Happens.live (happens : Happens run next) {context : RequestContext}
    (live : next.world.interruption? context = none) :
    run.world.interruption? context = none :=
  RequestContext.live_before happens.passes.1 happens.passes.2 live

/-- Requests stay, and what they are about never changes. -/
theorem Happens.continues (happens : Happens run next) {i : Nat} {session : Session}
    (isSession : run.sessions[i]? = some session) :
    ∃ session', next.sessions[i]? = some session' ∧ session.Continues session' := by
  have inside := (List.getElem?_eq_some_iff.1 isSession).1
  have stays : ∀ {j : Nat} {before after : Session}, run.sessions[j]? = some before →
      before.Continues after →
      ∃ session', (run.sessions.set j after)[i]? = some session' ∧ session.Continues session' := by
    intro j before after isBefore continues
    by_cases here : j = i
    · subst here
      obtain rfl := Option.some.inj (isSession.symm.trans isBefore)
      exact ⟨after, by simp [inside], continues⟩
    · exact ⟨session, by rw [List.getElem?_set_ne here, isSession], .refl session⟩
  cases happens with
  | creates | cancels | configures | visits => exact ⟨session, isSession, .refl session⟩
  | arrives => exact ⟨session, by rw [List.getElem?_append_left inside, isSession], .refl session⟩
  | advances advances =>
      cases advances with
      | waits => exact ⟨session, isSession, .refl session⟩
      | attends isOther => exact stays isOther (Session.continues_attend _ run.world)
      | @stirs j k other task result isOther unfinished isTask stirs =>
          rcases stirs.eq_enter with ⟨phase, same⟩
          have continues := Session.continues_enter phase result.2.2 isTask
          rw [← same] at continues
          exact stays isOther continues

/-- The books of all requests are in order. -/
def Orderly (run : Run δ) : Prop :=
  ∀ session ∈ run.sessions, session.Kept Task.UnderWay Task.Settled

theorem Happens.orderly (happens : Happens run next) (orderly : run.Orderly) : next.Orderly := by
  intro session member
  cases happens with
  | creates | cancels | configures | visits => exact orderly session member
  | @arrives request arrived prepared =>
      rcases List.mem_append.1 member with isOld | isNew
      · exact orderly session isOld
      · obtain rfl := List.mem_singleton.1 isNew
        have ready := World.ready_of_prepare prepared
        exact ready.kept ready.underWay
  | advances advances =>
      cases advances with
      | waits => exact orderly session member
      | attends isOther =>
          rcases List.mem_or_eq_of_mem_set member with isOld | rfl
          · exact orderly session isOld
          · exact (orderly _ (List.mem_of_getElem? isOther)).attend Task.settling run.world
      | @stirs i j other task result isOther unfinished isTask stirs =>
          rcases List.mem_or_eq_of_mem_set member with isOld | rfl
          · exact orderly session isOld
          · have kept := orderly other (List.mem_of_getElem? isOther)
            have settles := stirs.settles (kept.busy task (List.mem_of_getElem? isTask))
            have reports := stirs.reports_iff
            rcases stirs.eq_enter with ⟨phase, same⟩
            rw [same] at settles reports
            have entered := kept.enter (δ := δ) Task.settling unfinished isTask settles.1
              (reports.trans ⟨fun isOver => ⟨stirs.unreported, isOver⟩, fun both => both.2⟩)
              (fun isOver => absurd isOver stirs.unreported) settles.2
            rwa [← same] at entered

end Run

end AvControl

import AvControl.Engine.Task
import AvControl.Proofs.Engine.World
import Mathlib.Logic.Relation

/-!
# The moves of a task

Looking after a task takes it as far as it can go without waiting. What it does on the way is made
of a few moves: a command is left out because the context has ended, a call is begun, broken off or
finished, a row that is over leaves, and the later rows take the place of the first ones when these
are over. Everything that is to be proved of a task at work is proved of one move.
-/

namespace AvControl

open Relation

/-- A task at work: the world, the rows of commands, and what they have brought. -/
structure Bench (δ : Type) where
  world : World δ
  lanes : List Lane
  later : List (List Command)
  outcome : Outcome

namespace Bench

variable {δ : Type}

/-- The rows that begin when those under way are over. -/
def successors (bench : Bench δ) : List Lane :=
  bench.later.map fun commands => { rest := commands }

end Bench

namespace Task

variable {δ : Type} [Driver δ]

/-- One move of a task at work. -/
inductive Move (task : Task) (context : RequestContext) : Bench δ → Bench δ → Prop
  | skip {bench : Bench δ} {before after : List Lane} {command : Command} {rest : List Command}
      {interruption : Interruption}
      (here : bench.lanes = before ++ { rest := command :: rest } :: after)
      (ended : bench.world.interruption? context = some interruption) :
      Move task context bench { bench with
        lanes := before ++ { rest } :: after
        outcome := task.note bench.outcome command (.error (.context interruption)) }
  | begin {bench : Bench δ} {before after : List Lane} {command : Command} {rest : List Command}
      (here : bench.lanes = before ++ { rest := command :: rest } :: after)
      (live : bench.world.interruption? context = none) :
      Move task context bench { bench with
        world := (bench.world.beginCall task.config context command).1
        lanes := before ++
          { call := some (bench.world.beginCall task.config context command).2, rest } :: after }
  | breakOff {bench : Bench δ} {before after : List Lane} {call : Call} {rest : List Command}
      {interruption : Interruption}
      (here : bench.lanes = before ++ { call := some call, rest } :: after)
      (ended : bench.world.interruption? context = some interruption) :
      Move task context bench { bench with
        lanes := before ++ { rest } :: after
        outcome := task.note bench.outcome call.command
          (.error (World.interrupted call interruption)) }
  | finish {bench : Bench δ} {before after : List Lane} {call : Call} {rest : List Command}
      {world : World δ} {result : Except FieldError call.command.Result}
      (here : bench.lanes = before ++ { call := some call, rest } :: after)
      (due : call.due.any (· ≤ bench.world.clock) = true)
      (done : bench.world.finishCall task.config call.command = (world, .done result)) :
      Move task context bench { bench with
        world
        lanes := before ++ { rest } :: after
        outcome := task.note bench.outcome call.command result }
  | leave {bench : Bench δ} {before after : List Lane}
      (here : bench.lanes = before ++ {} :: after) :
      Move task context bench { bench with lanes := before ++ after }
  | proceed {bench : Bench δ} (isOver : bench.lanes = []) :
      Move task context bench { bench with lanes := bench.successors, later := [] }

/-- Some moves of a task at work. -/
abbrev Moves (task : Task) (context : RequestContext) : Bench δ → Bench δ → Prop :=
  ReflTransGen (task.Move context)

/-- A call of a task breaks down in a world. -/
def Crashes (task : Task) (bench : Bench δ) (world : World δ) : Prop :=
  ∃ before call rest after, bench.lanes = before ++ { call := some call, rest } :: after ∧
    call.due.any (· ≤ bench.world.clock) = true ∧
    bench.world.finishCall task.config call.command = (world, .crashed)

variable {task : Task} {context : RequestContext}

theorem Move.later {bench bench' : Bench δ} (move : task.Move context bench bench') :
    bench.world.Later bench'.world := by
  cases move with
  | skip | breakOff | leave | proceed => exact .refl _
  | begin => exact World.later_beginCall _ _ _ _
  | @finish _ _ call _ _ _ _ _ done =>
      have later := World.later_finishCall bench.world task.config call.command
      rw [done] at later
      exact later

theorem Moves.later {bench bench' : Bench δ} (moves : task.Moves context bench bench') :
    bench.world.Later bench'.world := by
  induction moves with
  | refl => exact .refl _
  | tail _ move ih => exact ih.trans move.later

/-! ### Rows of commands -/

/--
A row waits for a call although it was looked after in a world. With its driver at hand, the call is
not over and the context is live.
-/
def Idle (task : Task) (context : RequestContext) (world : World δ) (lane : Lane) : Prop :=
  ∃ call, lane.call = some call ∧ ((world.registry.get task.config.driver).isSome →
    call.due.any (· ≤ world.clock) = false ∧ world.interruption? context = none)

omit [Driver δ] in
theorem Idle.earlier {before after : World δ} {lane : Lane} (later : before.Later after)
    (idle : task.Idle context after lane) : task.Idle context before lane := by
  rcases idle with ⟨call, isCall, waits⟩
  refine ⟨call, isCall, fun registered => ?_⟩
  rcases waits (later.registered _ registered) with ⟨notDue, live⟩
  exact ⟨later.clock ▸ notDue, later.live live⟩

/-- What comes of looking after one row, seen as moves of the whole bench. -/
inductive LaneEnds (task : Task) (context : RequestContext) (bench : Bench δ)
    (before after : List Lane) : World δ × Outcome × LaneEnd → Prop
  | waiting {world : World δ} {outcome : Outcome} {lane : Lane}
      (moves : task.Moves context bench
        { world, lanes := before ++ lane :: after, later := bench.later, outcome })
      (idle : task.Idle context bench.world lane) :
      LaneEnds task context bench before after (world, outcome, .waiting lane)
  | finished {world : World δ} {outcome : Outcome}
      (moves : task.Moves context bench
        { world, lanes := before ++ after, later := bench.later, outcome }) :
      LaneEnds task context bench before after (world, outcome, .finished)
  | crashed {world : World δ} {outcome : Outcome} {bench' : Bench δ}
      (moves : task.Moves context bench bench') (crash : task.Crashes bench' world) :
      LaneEnds task context bench before after (world, outcome, .crashed)

theorem LaneEnds.head {bench bench' : Bench δ} {before after : List Lane}
    {result : World δ × Outcome × LaneEnd} (moves : task.Moves context bench bench')
    (sameLater : bench'.later = bench.later)
    (ends : task.LaneEnds context bench' before after result) :
    task.LaneEnds context bench before after result := by
  cases ends with
  | waiting moves' idle =>
      exact .waiting (moves.trans (sameLater ▸ moves')) (idle.earlier (Moves.later moves))
  | finished moves' => exact .finished (moves.trans (sameLater ▸ moves'))
  | crashed moves' crash => exact .crashed (moves.trans moves') crash

/-- Looking after a call and going on with its row. -/
theorem settle_ends {world : World δ} {outcome : Outcome} {before after : List Lane} {call : Call}
    {rest : List Command} {later : List (List Command)}
    (goesOn : ∀ (world : World δ) outcome, task.LaneEnds context
      { world, lanes := before ++ { rest } :: after, later, outcome } before after
      (task.send context world outcome rest)) :
    task.LaneEnds context
      { world, lanes := before ++ { call := some call, rest } :: after, later, outcome }
      before after
      (match world.settle task.config context call with
        | (world, .waiting) => (world, outcome, .waiting { call := some call, rest })
        | (world, .done result) =>
          task.send context world (task.note outcome call.command result) rest
        | (world, .crashed) => (world, outcome, .crashed)) := by
  simp only [World.settle]
  by_cases due : call.due.any (· ≤ world.clock) = true
  · rw [if_pos due]
    rcases done : world.finishCall task.config call.command with ⟨world', _ | result | _⟩
    · rcases World.finishCall_waiting done with ⟨rfl, missing⟩
      exact .waiting .refl ⟨call, rfl, by simp [missing]⟩
    · exact (goesOn world' _).head (.single (.finish rfl due done)) rfl
    · exact .crashed .refl ⟨before, call, rest, after, rfl, due, done⟩
  · rw [if_neg due]
    cases ended : world.interruption? context with
    | some interruption => exact (goesOn world _).head (.single (.breakOff rfl ended)) rfl
    | none => exact .waiting .refl ⟨call, rfl, fun _ => ⟨by simpa using due, ended⟩⟩

theorem send_ends (task : Task) (context : RequestContext) (before after : List Lane)
    (later : List (List Command)) (commands : List Command) :
    ∀ (world : World δ) outcome, task.LaneEnds context
      { world, lanes := before ++ { rest := commands } :: after, later, outcome } before after
      (task.send context world outcome commands) := by
  induction commands with
  | nil =>
      intro world outcome
      exact .finished (.single (.leave rfl))
  | cons command rest ih =>
      intro world outcome
      simp only [send]
      cases ended : world.interruption? context with
      | some interruption => exact (ih world _).head (.single (.skip rfl ended)) rfl
      | none =>
          have begins : task.Move context
              { world, lanes := before ++ { rest := command :: rest } :: after, later, outcome }
              _ := .begin rfl ended
          have sameCommand := world.command_beginCall task.config context command
          rcases began : world.beginCall task.config context command with ⟨world', call⟩
          simp only [began] at begins sameCommand ⊢
          split
          · rename_i interruption heeds brokenOff
            have breaks : task.Move context
                { world := world', lanes := before ++ { call := some call, rest } :: after, later,
                  outcome } _ := .breakOff rfl brokenOff
            rw [sameCommand] at breaks
            exact (ih world' _).head ((ReflTransGen.single begins).tail breaks) rfl
          · exact (settle_ends ih).head (.single begins) rfl

theorem pollLane_ends (task : Task) (context : RequestContext) (before after : List Lane)
    (later : List (List Command)) (world : World δ) (outcome : Outcome) (lane : Lane) :
    task.LaneEnds context { world, lanes := before ++ lane :: after, later, outcome } before after
      (task.pollLane context world outcome lane) := by
  rcases lane with ⟨_ | call, rest⟩
  · exact send_ends task context before after later rest world outcome
  · exact settle_ends (send_ends task context before after later rest)

/-- What comes of looking after several rows. -/
inductive LanesEnd (task : Task) (context : RequestContext) (bench : Bench δ)
    (before : List Lane) : World δ × Outcome × Option (List Lane) → Prop
  | waiting {world : World δ} {outcome : Outcome} {lanes : List Lane}
      (moves : task.Moves context bench
        { world, lanes := before ++ lanes, later := bench.later, outcome })
      (idle : ∀ lane ∈ lanes, task.Idle context bench.world lane) :
      LanesEnd task context bench before (world, outcome, some lanes)
  | crashed {world : World δ} {outcome : Outcome} {bench' : Bench δ}
      (moves : task.Moves context bench bench') (crash : task.Crashes bench' world) :
      LanesEnd task context bench before (world, outcome, none)

theorem pollLanes_ends (task : Task) (context : RequestContext) (later : List (List Command))
    (lanes : List Lane) : ∀ (before : List Lane) (world : World δ) (outcome : Outcome),
      task.LanesEnd context { world, lanes := before ++ lanes, later, outcome } before
        (task.pollLanes context world outcome lanes) := by
  induction lanes with
  | nil =>
      intro before world outcome
      exact .waiting .refl (by simp)
  | cons lane rest ih =>
      intro before world outcome
      have first := pollLane_ends task context before rest later world outcome lane
      simp only [pollLanes]
      generalize task.pollLane context world outcome lane = polled at first
      cases first with
      | crashed moves crash => exact .crashed moves crash
      | @finished world' outcome' moves =>
          have others := ih before world' outcome'
          dsimp only
          generalize task.pollLanes context world' outcome' rest = polled' at others
          cases others with
          | crashed moves' crash => exact .crashed (moves.trans moves') crash
          | waiting moves' idle =>
              refine .waiting (moves.trans moves') fun lane member => ?_
              exact (idle lane member).earlier (Moves.later moves)
      | @waiting world' outcome' lane' moves idle =>
          have others := ih (before ++ [lane']) world' outcome'
          rw [List.append_assoc, List.singleton_append] at others
          dsimp only
          generalize task.pollLanes context world' outcome' rest = polled' at others
          cases others with
          | crashed moves' crash => exact .crashed (moves.trans moves') crash
          | waiting moves' idle' =>
              rw [List.append_assoc, List.singleton_append] at moves'
              refine .waiting (moves.trans moves') fun other member => ?_
              rcases List.mem_cons.1 member with rfl | inRest
              · exact idle
              · exact (idle' other inRest).earlier (Moves.later moves)

/-! ### Whole tasks -/

/-- What comes of looking after a task at work. -/
inductive Works (task : Task) (context : RequestContext) (bench : Bench δ) :
    World δ × Task × Option Outcome → Prop
  | stays {bench' : Bench δ} (moves : task.Moves context bench bench')
      (busy : bench'.lanes ≠ [])
      (idle : ∀ lane ∈ bench'.lanes, task.Idle context bench.world lane) :
      Works task context bench (bench'.world,
        task.enter (.working bench'.lanes bench'.later bench'.outcome), none)
  | reports {bench' : Bench δ} (moves : task.Moves context bench bench')
      (isOver : bench'.lanes = []) (last : bench'.later = []) :
      Works task context bench (bench'.world, task.enter .reported, some bench'.outcome)
  | crashes {bench' : Bench δ} {world : World δ} (moves : task.Moves context bench bench')
      (crash : task.Crashes bench' world) :
      Works task context bench
        (world, task.enter .reported, some (.ofDevice task.device crashText))

theorem pollWork_works (task : Task) (context : RequestContext) (bench : Bench δ) :
    task.Works context bench
      (task.pollWork context bench.world bench.outcome bench.lanes bench.later) := by
  have first := pollLanes_ends task context bench.later bench.lanes [] bench.world bench.outcome
  simp only [pollWork]
  generalize task.pollLanes context bench.world bench.outcome bench.lanes = polled at first
  cases first with
  | crashed moves crash => exact .crashes moves crash
  | @waiting world outcome lanes moves idle =>
      cases lanes with
      | cons lane rest => exact .stays moves (by simp) idle
      | nil =>
          have proceeds : task.Moves context bench
              { world, lanes := bench.successors, later := [], outcome } :=
            moves.tail (Move.proceed rfl)
          have others := pollLanes_ends task context [] bench.successors [] world outcome
          have successors : (bench.later.map fun commands => ({ rest := commands } : Lane)) =
              bench.successors := rfl
          dsimp only
          rw [successors]
          generalize task.pollLanes context world outcome bench.successors = polled' at others
          cases others with
          | crashed moves' crash => exact .crashes (proceeds.trans moves') crash
          | @waiting world' outcome' lanes' moves' idle' =>
              cases lanes' with
              | nil => exact .reports (proceeds.trans moves') rfl rfl
              | cons lane rest =>
                  refine .stays (proceeds.trans moves') (by simp) fun other member => ?_
                  exact (idle' other member).earlier (Moves.later proceeds)

/-- The bench of a task that begins to work with an open device. -/
def workbench (task : Task) (world : World δ) (handle : Handle) : Bench δ :=
  let plan := task.work.plan task.device task.config handle
  { world, lanes := [{ rest := plan.lead }], later := plan.lanes
    outcome := { reports := plan.refused } }

/-- Looking after the opening of the device. -/
def opened (task : Task) (context : RequestContext) (world : World δ) (caller : Caller) :
    World δ × Caller :=
  world.lookAfter task.config.driver task.config.address context caller

/-- What comes of looking after a task. -/
inductive Polls (task : Task) (context : RequestContext) (world : World δ) :
    World δ × Task × Option Outcome → Prop
  | silent (isOver : task.phase = .reported) : Polls task context world (world, task, none)
  /-- The context ends before a new task has begun. -/
  | leavesOut {interruption : Interruption} (fresh : task.phase = .opening .fresh)
      (ended : world.interruption? context = some interruption) :
      Polls task context world (world, task.enter .reported,
        some (.ofDevice task.device (FieldError.context interruption).message))
  /-- The device cannot be opened. -/
  | fails {caller : Caller} {error : DriverError} (opening : task.phase = .opening caller)
      (live : caller = .fresh → world.interruption? context = none)
      (answer : (task.opened context world caller).2 = .answered (.error error)) :
      Polls task context world ((task.opened context world caller).1, task.enter .reported,
        some (.ofDevice task.device (FieldError.create error).message))
  /-- The context ends while the device is being opened. -/
  | givesUp {caller : Caller} {interruption : Interruption}
      (opening : task.phase = .opening caller)
      (live : caller = .fresh → world.interruption? context = none)
      (unanswered : (task.opened context world caller).2.answer? = none)
      (ended : (task.opened context world caller).1.interruption? context = some interruption) :
      Polls task context world ((task.opened context world caller).1, task.enter .reported,
        some (.ofDevice task.device (FieldError.context interruption).message))
  | waits {caller : Caller} (opening : task.phase = .opening caller)
      (live : caller = .fresh → world.interruption? context = none)
      (unanswered : (task.opened context world caller).2.answer? = none)
      (stillLive : (task.opened context world caller).1.interruption? context = none) :
      Polls task context world ((task.opened context world caller).1,
        task.enter (.opening (task.opened context world caller).2), none)
  /-- The device is open. -/
  | begins {caller : Caller} {handle : Handle} {result : World δ × Task × Option Outcome}
      (opening : task.phase = .opening caller)
      (live : caller = .fresh → world.interruption? context = none)
      (answer : (task.opened context world caller).2 = .answered (.ok handle))
      (works : task.Works context
        (task.workbench (task.opened context world caller).1 handle) result) :
      Polls task context world result
  | goesOn {lanes : List Lane} {later : List (List Command)} {outcome : Outcome}
      {result : World δ × Task × Option Outcome}
      (working : task.phase = .working lanes later outcome)
      (works : task.Works context { world, lanes, later, outcome } result) :
      Polls task context world result

theorem pollOpening_polls {task : Task} {context : RequestContext} {world : World δ}
    {caller : Caller} (opening : task.phase = .opening caller)
    (live : caller = .fresh → world.interruption? context = none) :
    task.Polls context world (task.pollOpening context world caller) := by
  have answer : ∀ caller', (task.opened context world caller).2 = caller' →
      task.opened context world caller = ((task.opened context world caller).1, caller') :=
    fun caller' same => Prod.ext rfl same
  have opens : world.lookAfter task.config.driver task.config.address context caller =
      task.opened context world caller := rfl
  simp only [pollOpening]
  rw [opens]
  cases told : (task.opened context world caller).2 with
  | answered result =>
      rw [answer _ told]
      cases result with
      | error error => exact .fails opening live told
      | ok handle => exact .begins opening live told (task.pollWork_works context _)
  | fresh | joined =>
      rw [answer _ told]
      dsimp only
      split
      · exact .givesUp opening live (by simp [told, Caller.answer?]) ‹_›
      · have waits := Polls.waits opening live (by simp [told, Caller.answer?]) ‹_›
        rwa [told] at waits

/-- Looking after a task has one of a few results. -/
theorem poll_polls (task : Task) (context : RequestContext) (world : World δ) :
    task.Polls context world (task.poll context world) := by
  simp only [poll]
  split
  · rename_i fresh
    split
    · exact .leavesOut fresh ‹_›
    · exact pollOpening_polls fresh fun _ => ‹_›
  · rename_i caller notFresh opening
    exact pollOpening_polls opening fun fresh => absurd fresh notFresh
  · rename_i lanes later outcome working
    exact .goesOn working (task.pollWork_works context ⟨world, lanes, later, outcome⟩)
  · rename_i isOver
    exact .silent isOver

variable {world : World δ} {result : World δ × Task × Option Outcome}

theorem Works.later {bench : Bench δ} (works : task.Works context bench result) :
    bench.world.Later result.1 := by
  cases works with
  | stays moves => exact Moves.later moves
  | reports moves => exact Moves.later moves
  | @crashes bench' _ moves crash =>
      rcases crash with ⟨before, call, rest, after, here, due, crashed⟩
      have later := World.later_finishCall bench'.world task.config call.command
      rw [crashed] at later
      exact (Moves.later moves).trans later

theorem Polls.later (polls : task.Polls context world result) : world.Later result.1 := by
  have opened : ∀ caller, world.Later (task.opened context world caller).1 :=
    fun caller => world.later_lookAfter _ _ _ _
  cases polls with
  | silent | leavesOut => exact .refl _
  | fails | givesUp | waits => exact opened _
  | begins opening live answer works => exact (opened _).trans works.later
  | goesOn working works => exact works.later

/-- Only the phase of a task changes. -/
theorem Polls.eq_enter (polls : task.Polls context world result) :
    ∃ phase, result.2.1 = task.enter phase := by
  cases polls with
  | silent => exact ⟨task.phase, rfl⟩
  | leavesOut | fails | givesUp | waits => exact ⟨_, rfl⟩
  | begins opening live answer works => cases works <;> exact ⟨_, rfl⟩
  | goesOn working works => cases works <;> exact ⟨_, rfl⟩

/-- A task reports exactly when it comes to its end. -/
theorem Polls.reports_iff (polls : task.Polls context world result) :
    result.2.2.isSome = true ↔ task.phase ≠ .reported ∧ result.2.1.phase = .reported := by
  cases polls with
  | silent isOver => simp [isOver]
  | leavesOut opening | fails opening | givesUp opening => simp [opening, enter]
  | waits opening => simp [opening, enter]
  | begins opening live answer works => cases works <;> simp [opening, enter]
  | goesOn working works => cases works <;> simp [working, enter]

end Task

end AvControl

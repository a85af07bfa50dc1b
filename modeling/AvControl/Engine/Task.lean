import AvControl.Engine.Plan
import AvControl.Engine.World

/-!
# Tasks

A task does the work of one request on one device. It opens the device, sends the commands of the
plan, and reports. Whenever it is looked after it goes on as far as it can without waiting. No
opening and no command begins under a context that has ended; a command that cannot begin is
reported and does not keep the others from being tried.
-/

namespace AvControl

/-- A row of commands, with the one that is under way. -/
structure Lane where
  call : Option Call := none
  rest : List Command := []

/-- How far a task has come. -/
inductive Phase
  | opening (caller : Caller)
  /-- Commands are under way; `later` begin when they are over. -/
  | working (lanes : List Lane) (later : List (List Command)) (outcome : Outcome)
  | reported

/-- The work of one request on one device. -/
structure Task where
  device : DeviceId
  config : DeviceConfig
  work : Work
  phase : Phase := .opening .fresh

/-- Whether a task has come to its end. -/
def Task.isOver (task : Task) : Bool :=
  match task.phase with
  | .reported => true
  | _ => false

/-- How far a row of commands has come after it was looked after. -/
inductive LaneEnd
  | waiting (lane : Lane)
  | finished
  | crashed

namespace Task

variable {δ : Type} [Driver δ]

/-- Add what came of a command to an outcome. -/
def note (task : Task) (outcome : Outcome) (command : Command) :
    Except FieldError command.Result → Outcome
  | .ok result => outcome.find command result
  | .error error => outcome.report (command.report task.device error)

/--
Send commands one after another until one has to wait. A driver that heeds the context does not
begin to wait under one that it has cancelled itself.
-/
def send (task : Task) (context : RequestContext) :
    World δ → Outcome → List Command → World δ × Outcome × LaneEnd
  | world, outcome, [] => (world, outcome, .finished)
  | world, outcome, command :: rest =>
    match world.interruption? context with
    | some interruption =>
      task.send context world (task.note outcome command (.error (.context interruption))) rest
    | none =>
      let (world, call) := world.beginCall task.config context command
      match call.heedsContext, world.interruption? context with
      | true, some interruption =>
        let error := World.interrupted call interruption
        task.send context world (task.note outcome command (.error error)) rest
      | _, _ =>
        match world.settle task.config context call with
        | (world, .waiting) => (world, outcome, .waiting { call := some call, rest })
        | (world, .done result) =>
          task.send context world (task.note outcome call.command result) rest
        | (world, .crashed) => (world, outcome, .crashed)

/-- Look after one row of commands. -/
def pollLane (task : Task) (context : RequestContext) (world : World δ) (outcome : Outcome)
    (lane : Lane) : World δ × Outcome × LaneEnd :=
  match lane.call with
  | none => task.send context world outcome lane.rest
  | some call =>
    match world.settle task.config context call with
    | (world, .waiting) => (world, outcome, .waiting lane)
    | (world, .done result) =>
      task.send context world (task.note outcome call.command result) lane.rest
    | (world, .crashed) => (world, outcome, .crashed)

/-- Look after several rows in their order; those that are not over remain. None if one crashed. -/
def pollLanes (task : Task) (context : RequestContext) :
    World δ → Outcome → List Lane → World δ × Outcome × Option (List Lane)
  | world, outcome, [] => (world, outcome, some [])
  | world, outcome, lane :: rest =>
    match task.pollLane context world outcome lane with
    | (world, outcome, .crashed) => (world, outcome, none)
    | (world, outcome, .finished) => task.pollLanes context world outcome rest
    | (world, outcome, .waiting lane) =>
      match task.pollLanes context world outcome rest with
      | (world, outcome, lanes) => (world, outcome, lanes.map (lane :: ·))

/-- The task in another phase. -/
def enter (task : Task) (phase : Phase) : Task := { task with phase }

/-- What is reported about a device whose driver broke down. -/
def crashText : String := "device task panicked"

/-- Look after rows of commands and go on with the later ones when they are over. -/
def pollWork (task : Task) (context : RequestContext) (world : World δ) (outcome : Outcome)
    (lanes : List Lane) (later : List (List Command)) : World δ × Task × Option Outcome :=
  match task.pollLanes context world outcome lanes with
  | (world, _, none) => (world, task.enter .reported, some (.ofDevice task.device crashText))
  | (world, outcome, some (lane :: rest)) =>
    (world, task.enter (.working (lane :: rest) later outcome), none)
  | (world, outcome, some []) =>
    match task.pollLanes context world outcome (later.map fun commands => { rest := commands }) with
    | (world, _, none) => (world, task.enter .reported, some (.ofDevice task.device crashText))
    | (world, outcome, some []) => (world, task.enter .reported, some outcome)
    | (world, outcome, some lanes) => (world, task.enter (.working lanes [] outcome), none)

/-- Begin to work with an open device. -/
def beginWork (task : Task) (context : RequestContext) (world : World δ) (handle : Handle) :
    World δ × Task × Option Outcome :=
  let plan := task.work.plan task.device task.config handle
  task.pollWork context world { reports := plan.refused } [{ rest := plan.lead }] plan.lanes

/-- Give up before there is an open device. -/
def fail (task : Task) (error : FieldError) : Task × Option Outcome :=
  (task.enter .reported, some (.ofDevice task.device error.message))

/-- Look after the opening of the device, its attempt first and then the context. -/
def pollOpening (task : Task) (context : RequestContext) (world : World δ) (caller : Caller) :
    World δ × Task × Option Outcome :=
  match world.lookAfter task.config.driver task.config.address context caller with
  | (world, .answered (.ok handle)) => task.beginWork context world handle
  | (world, .answered (.error error)) => (world, task.fail (.create error))
  | (world, caller) =>
    match world.interruption? context with
    | some interruption => (world, task.fail (.context interruption))
    | none => (world, task.enter (.opening caller), none)

/-- Look after a task. It may have an outcome to report, and does so only once. -/
def poll (task : Task) (context : RequestContext) (world : World δ) :
    World δ × Task × Option Outcome :=
  match task.phase with
  | .opening .fresh =>
    match world.interruption? context with
    | some interruption => (world, task.fail (.context interruption))
    | none => task.pollOpening context world .fresh
  | .opening caller => task.pollOpening context world caller
  | .working lanes later outcome => task.pollWork context world outcome lanes later
  | .reported => (world, task, none)

/-- The calls that are under way. -/
def calls (task : Task) : List Call :=
  match task.phase with
  | .working lanes _ _ => lanes.filterMap Lane.call
  | _ => []

/-- The attempt that the task waits for. -/
def attempt? (task : Task) (world : World δ) : Option Attempt :=
  match task.phase with
  | .opening (.joined number) =>
    (world.registry.get task.config.driver).bind fun cached => cached.attempts[number]?
  | _ => none

omit [Driver δ] in
/-- When the task is to be looked after again because a wait is over. -/
def wakes (task : Task) (world : World δ) : List Nat :=
  ((task.attempt? world).bind Attempt.wake?).toList ++ task.calls.filterMap Call.due

omit [Driver δ] in
/-- The places of the waits that are over, because their time has come. -/
def due (task : Task) (world : World δ) : List Nat :=
  (task.calls.filter fun call => call.due.any (· ≤ world.clock)).map Call.ticket ++
    ((task.attempt? world).filter fun attempt => attempt.isOver world.clock).toList.map
      Attempt.ticket

omit [Driver δ] in
/-- Whether a wait of the task is broken off, because its context has ended. -/
def isBrokenOff (task : Task) (context : RequestContext) (world : World δ) : Bool :=
  (world.interruption? context).isSome ||
    (task.attempt? world).any fun attempt => attempt.isCancelled world.tokens

omit [Driver δ] in
/-- The place of the oldest wait. -/
def oldestWait (task : Task) (world : World δ) : Nat :=
  (task.calls.map Call.ticket ++ (task.attempt? world).toList.map Attempt.ticket).min?.getD 0

omit [Driver δ] in
/--
The turn of a task that can go on: new tasks come first, then those with a wait that is over, and at
last those with a wait that is broken off, both in the order in which the waits began.
-/
def turn? (task : Task) (context : RequestContext) (world : World δ) : Option Nat :=
  match task.phase with
  | .reported => none
  | .opening .fresh => some 0
  | _ =>
    match (task.due world).min? with
    | some ticket => some (ticket + 1)
    | none =>
      if task.isBrokenOff context world then some (world.tickets + 1 + task.oldestWait world)
      else none

end Task

end AvControl

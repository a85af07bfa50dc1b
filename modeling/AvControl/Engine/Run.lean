import AvControl.Engine.Session

/-!
# Runs

Requests at work together. At any time the tasks that can go on are looked after one by one, in
their turns; when none is left the coordinators look at their mailboxes; and when nothing is left to
do the clock jumps to the next time at which a wait, a context or somebody's patience ends. After
every jump the coordinators come first, so that a request whose time is up ends before its tasks
notice.

What a run does is determined by what it started with, because everything but waiting takes no
time.
-/

namespace AvControl

/-- Requests at work in a world. -/
structure Run (δ : Type) where
  world : World δ
  sessions : List Session

/-- A request to a room, on its way to the engine. -/
structure RoomRequest where
  operation : Operation
  room : RoomConfig
  context : RequestContext
  /-- When somebody cancels the request, unless it is over by then. -/
  cancelAt : Option Nat := none

/-- The first entry with the least key. -/
def leastKeyed {α : Type} : List (Nat × α) → Option (Nat × α)
  | [] => none
  | entry :: rest =>
    match leastKeyed rest with
    | none => some entry
    | some other => if other.1 < entry.1 then some other else some entry

namespace Run

variable {δ : Type}

/-- Whether all requests are answered. -/
def finished (run : Run δ) : Bool := run.sessions.all Session.finished

/-- Let all coordinators look around. -/
def attendAll (world : World δ) : List Session → World δ × List Session
  | [] => (world, [])
  | session :: rest =>
    let (world, session) := session.attend world
    let (world, rest) := attendAll world rest
    (world, session :: rest)

/-- Let all coordinators look around. -/
def attend (run : Run δ) : Run δ :=
  let (world, sessions) := attendAll run.world run.sessions
  { world, sessions }

/-- The tasks that can go on, by their turns, as numbers of a session and a task in it. -/
def turns (run : Run δ) : List (Nat × Nat × Nat) :=
  run.sessions.zipIdx.flatMap fun (session, i) =>
    if session.finished then []
    else
      session.tasks.zipIdx.filterMap fun (task, j) =>
        (task.turn? session.context run.world).map fun turn => (turn, i, j)

/-- Whether a coordinator would find something in its mailbox. -/
def hasMail (run : Run δ) : Bool :=
  run.sessions.any fun session => !session.finished && !session.mailbox.isEmpty

/-- The times at which somebody has to be looked after again. -/
def wakes (run : Run δ) : List Nat :=
  run.sessions.flatMap fun session =>
    if session.finished then []
    else
      session.context.deadline.toList ++ session.cancelAt.toList ++
        session.tasks.flatMap fun task => task.wakes run.world

/-- The next time at which something happens, or at which patience ends. -/
def nextTime (run : Run δ) (patience : Option Nat) : Option Nat :=
  (patience.toList ++ run.wakes.filter fun time => run.world.clock < time).min?

variable [Driver δ]

/-- Look after one task. -/
def pollTask (run : Run δ) (i j : Nat) : Run δ :=
  match run.sessions[i]? with
  | none => run
  | some session =>
    match session.tasks[j]? with
    | none => run
    | some task =>
      let (world, task, outcome) := task.poll session.context run.world
      let session := { session with
        tasks := session.tasks.set j task
        mailbox := session.mailbox ++ (outcome.map fun outcome => (task.device, outcome)).toList }
      { world, sessions := run.sessions.set i session }

/-- What happens next, unless all is over or patience has ended. -/
def step (run : Run δ) (patience : Option Nat) : Option (Run δ) :=
  if run.finished || patience.any (· ≤ run.world.clock) then none
  else
    match leastKeyed run.turns with
    | some (_, i, j) => some (run.pollTask i j)
    | none =>
      if run.hasMail then some run.attend
      else
        (run.nextTime patience).map fun time =>
          attend { run with world := { run.world with clock := time } }

/-- Go on for a number of steps, or until nothing happens any more. -/
def go (patience : Option Nat) : Nat → Run δ → Run δ
  | 0, run => run
  | steps + 1, run =>
    match run.step patience with
    | none => run
    | some next => go patience steps next

/-- A bound on the number of steps that a run can take. -/
def bound (run : Run δ) : Nat := run.sessions.foldr (fun session total => session.effort + total) 4

/-- Go on until nothing happens any more. -/
def complete (run : Run δ) (patience : Option Nat) : Run δ := go patience run.bound run.attend

end Run

namespace World

variable {δ : Type} [Driver δ]

/-- The session of a request that passes the checks. -/
def prepare (world : World δ) (request : RoomRequest) : Except RequestError Session :=
  (request.operation.prepare world request.context request.room).map fun tasks =>
    { operation := request.operation
      context := request.context
      cancelAt := request.cancelAt
      tasks }

/-- Hand finished sessions out to the requests that they belong to. -/
def distribute : List (Except RequestError Session) → List Session →
    List (Except RequestError Answer)
  | [], _ => []
  | .error error :: rest, sessions => .error error :: distribute rest sessions
  | .ok _ :: rest, session :: sessions => .ok session.answer :: distribute rest sessions
  | .ok session :: rest, [] => .ok session.answer :: distribute rest []

/--
Serve some requests together. Without an answer to all of them when patience ends, or when nothing
would ever happen any more, there is no answer at all.
-/
def serve (world : World δ) (requests : List RoomRequest) (patience : Option Nat) :
    World δ × Option (List (Except RequestError Answer)) :=
  let prepared := requests.map world.prepare
  let sessions := prepared.filterMap fun session => session.toOption
  let run := Run.complete { world, sessions } patience
  if run.finished then (run.world, some (distribute prepared run.sessions))
  else (run.world, none)

/-- Serve one request. -/
def serveOne (world : World δ) (request : RoomRequest) (patience : Option Nat) :
    World δ × Option (Except RequestError Answer) :=
  let (world, answers) := world.serve [request] patience
  (world, answers.bind List.head?)

end World

end AvControl

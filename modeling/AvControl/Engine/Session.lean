import AvControl.Engine.Operation

/-!
# Sessions

A session is one request at work. Its tasks put their outcomes into a mailbox, and a coordinator
collects them, one for each device, until all tasks are over or the context ends. In the latter
case it takes the one outcome that has arrived first, if any has arrived, and gives up on all other
devices; their tasks are dropped. In the former case it gives up on devices whose tasks have come to
their end without an outcome, should there be any.
-/

namespace AvControl

/-- A request at work. -/
structure Session where
  operation : Operation
  context : RequestContext
  /-- When somebody cancels the request, unless it is over by then. -/
  cancelAt : Option Nat := none
  tasks : List Task
  /-- The outcomes that have arrived, first come first. -/
  mailbox : List (DeviceId × Outcome) := []
  /-- The outcomes that the coordinator has collected. -/
  collected : List (DeviceId × Outcome) := []
  finished : Bool := false

/-- The answer to a request. -/
structure Answer where
  operation : Operation
  response : RoomResponse operation.Data

namespace Session

/-- Whether the outcome for a device has been collected. -/
def hasCollected (session : Session) (device : DeviceId) : Bool :=
  session.collected.any fun outcome => outcome.1 = device

/-- The devices whose outcomes have not been collected. -/
def unreported (session : Session) : List DeviceId :=
  (session.tasks.map Task.device).filter fun device => !session.hasCollected device

/-- Take some outcomes out of the mailbox. -/
def collect (session : Session) (count : Nat) : Session :=
  { session with
    collected := session.collected ++ session.mailbox.take count
    mailbox := session.mailbox.drop count }

/-- Stop waiting for the devices that have not reported, and say why. -/
def giveUp (session : Session) (error : String) : Session :=
  { session with
    collected := session.collected ++ session.unreported.map fun device =>
      (device, .ofDevice device error)
    mailbox := []
    finished := true }

/-- What is reported about a device whose task is over without an outcome. -/
def silenceText : String := "device task failed to report"

/-- Let the coordinator look at the mailbox and at its context. -/
def coordinate (session : Session) (ended : Option Interruption) : Session :=
  match ended with
  | some interruption => (session.collect 1).giveUp interruption.message
  | none =>
    let session := session.collect session.mailbox.length
    if session.tasks.all Task.isOver then session.giveUp silenceText else session

/-- Whether the time has come to cancel the request. -/
def isToBeCancelled (session : Session) (now : Nat) : Bool := session.cancelAt.any (· ≤ now)

/-- Look after a session: its coordinator first, then whoever cancels it, then the coordinator. -/
def attend {δ : Type} (session : Session) (world : World δ) : World δ × Session :=
  if session.finished then (world, session)
  else
    let session := session.coordinate (world.interruption? session.context)
    if !session.finished && session.isToBeCancelled world.clock then
      let world := world.cancel session.context
      (world, session.coordinate (world.interruption? session.context))
    else (world, session)

/-- The response that the collected outcomes make up. -/
def answer (session : Session) : Answer where
  operation := session.operation
  response := RoomResponse.sortErrors {
    devices := SortedMap.ofList (session.collected.filterMap fun outcome =>
      (session.operation.summarize outcome.2.findings).map fun data => (outcome.1, data))
    errors := session.collected.flatMap fun outcome => outcome.2.reports }

/-- A bound on how often something can happen in the session. -/
def effort (session : Session) : Nat :=
  session.tasks.foldr (fun task total => 4 * (task.work.size + 4) + total) 8

end Session

end AvControl

import AvControl.Driver.Registry
import AvControl.Room

/-!
# The world

What all requests share: the clock, the cancellations, the drivers, and a journal of everything
that was asked of them. Time passes only when it is told to; whatever happens in between takes no
time.

Waits that are over at the same time are served in the order in which they began. For that, every
wait draws a ticket.
-/

namespace AvControl

/-- What was asked of a driver. -/
inductive Action
  | opening
  | call (command : Command)
deriving DecidableEq, Repr

/-- An entry of the journal. -/
structure Event where
  time : Nat
  driver : String
  address : String
  action : Action
deriving DecidableEq, Repr

namespace Event

/-- The entry as a line of a log, without its time. -/
def text (event : Event) : String :=
  " ".intercalate (event.address :: match event.action with
    | .opening => ["create"]
    | .call command => command.words)

end Event

/-- The clock, the cancellations, the drivers and the journal. -/
structure World (δ : Type) where
  clock : Nat := 0
  tokens : Tokens := {}
  registry : Registry δ := {}
  /-- Everything that was asked of drivers, oldest first. -/
  journal : List Event := []
  /-- The number of waits that have begun. -/
  tickets : Nat := 0

/-- A call of a device that is under way. -/
structure Call where
  command : Command
  due : Option Nat
  heedsContext : Bool
  ticket : Nat
deriving Repr

/-- What is known about a call. -/
inductive Verdict (command : Command)
  | waiting
  | done (result : Except FieldError command.Result)
  | crashed

namespace World

variable {δ : Type}

/-- Why a context has ended by now, if it has. -/
def interruption? (world : World δ) (context : RequestContext) : Option Interruption :=
  context.interruption? world.tokens world.clock

/-- Make a context that ends after some time, or never. -/
def createContext (world : World δ) (timeout : Option Nat) : World δ × RequestContext :=
  let (tokens, context) := RequestContext.create world.tokens (timeout.map (world.clock + ·))
  ({ world with tokens }, context)

/-- Cancel a context. -/
def cancel (world : World δ) (context : RequestContext) : World δ :=
  { world with tokens := world.tokens.cancel context.token }

/-- The world with one more entry in the journal. -/
def record (world : World δ) (driver address : String) (action : Action) : World δ :=
  { world with
    journal := world.journal ++ [{ time := world.clock, driver, address, action }] }

variable [Driver δ]

/-- Look after somebody who wants a device opened. -/
def lookAfter (world : World δ) (driver address : String) (context : RequestContext)
    (caller : Caller) : World δ × Caller :=
  match world.registry.get driver with
  | none => (world, caller)
  | some cached =>
    let polled := cached.poll world.tokens world.clock world.tickets context address caller
    let world := { world with
      registry := world.registry.set driver polled.cached
      tokens := polled.tokens }
    if polled.started then
      ({ world.record driver address .opening with tickets := world.tickets + 1 }, polled.caller)
    else (world, polled.caller)

/-- Begin to call a device. The driver may cancel the context at once. -/
def beginCall (world : World δ) (config : DeviceConfig) (context : RequestContext)
    (command : Command) : World δ × Call :=
  match world.registry.get config.driver with
  | none => (world, { command, due := none, heedsContext := false, ticket := world.tickets })
  | some cached =>
    let (driver, reaction) := Driver.beginCall cached.driver config.address command
    let world := { world with
      registry := world.registry.set config.driver { cached with driver }
      tokens := if reaction.cancels then world.tokens.cancel context.token else world.tokens }
    let call : Call := {
      command
      due := reaction.wait.due world.clock
      heedsContext := reaction.heedsContext
      ticket := world.tickets }
    ({ world.record config.driver config.address (.call command) with
      tickets := world.tickets + 1 }, call)

/-- Finish a call whose wait is over. -/
def finishCall (world : World δ) (config : DeviceConfig) (command : Command) :
    World δ × Verdict command :=
  match world.registry.get config.driver with
  | none => (world, .waiting)
  | some cached =>
    let (driver, reply) := Driver.finishCall cached.driver config.address command
    let world := { world with
      registry := world.registry.set config.driver { cached with driver } }
    match reply with
    | .ok result => (world, .done (.ok result))
    | .error error => (world, .done (.error (.driver error)))
    | .crash => (world, .crashed)

/-- What becomes of a call when its context has ended: the driver notices, or its caller does. -/
def interrupted (call : Call) (interruption : Interruption) : FieldError :=
  if call.heedsContext then .driver (.ofInterruption interruption) else .context interruption

/-- Look after a call: its wait is looked at first, then the context. -/
def settle (world : World δ) (config : DeviceConfig) (context : RequestContext) (call : Call) :
    World δ × Verdict call.command :=
  if call.due.any (· ≤ world.clock) then world.finishCall config call.command
  else
    match world.interruption? context with
    | some interruption => (world, .done (.error (interrupted call interruption)))
    | none => (world, .waiting)

end World

end AvControl

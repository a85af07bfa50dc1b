import AvControl.Driver.Basic

/-!
# Using a driver directly

Someone who uses a driver alone opens a device and calls it one step after another, each under a
context of its own, and waits every time until the driver is done. Nothing but the driver itself
looks at the context.
-/

namespace AvControl

/-- The only user of a driver. -/
structure SoleUser (δ : Type) where
  driver : δ
  clock : Nat := 0
  tokens : Tokens := {}

namespace SoleUser

variable {δ : Type} {α : Type}

/-- Why the context has ended by now, if it has. -/
def interruption? (user : SoleUser δ) (context : RequestContext) : Option Interruption :=
  context.interruption? user.tokens user.clock

/-- Make a context that ends after some time, or never. -/
def createContext (user : SoleUser δ) (timeout : Option Nat) : SoleUser δ × RequestContext :=
  let (tokens, context) := RequestContext.create user.tokens (timeout.map (user.clock + ·))
  ({ user with tokens }, context)

/-- Let time pass until a wait has ended. -/
def wait (user : SoleUser δ) (context : RequestContext) (reaction : Reaction) :
    SoleUser δ × RequestContext.WaitEnd :=
  let tokens := if reaction.cancels then user.tokens.cancel context.token else user.tokens
  let due := reaction.wait.due user.clock
  let ending :=
    if reaction.heedsContext then context.await tokens user.clock due none
    else
      match due with
      | some time => .finished time
      | none => .never
  match ending with
  | .finished time | .interrupted time _ => ({ user with tokens, clock := time }, ending)
  | .never => ({ user with tokens }, ending)

/-- Wait as a driver asks for, and then let it finish. There is no reply to a wait without end. -/
def complete (user : SoleUser δ) (context : RequestContext) (reaction : Reaction)
    (finish : δ → δ × Reply α) : SoleUser δ × Option (Reply α) :=
  match user.wait context reaction with
  | (user, .finished _) =>
    let (driver, reply) := finish user.driver
    ({ user with driver }, some reply)
  | (user, .interrupted _ interruption) => (user, some (.error (.ofInterruption interruption)))
  | (user, .never) => (user, none)

variable [Driver δ]

/-- Open the device at an address. -/
def openDevice (user : SoleUser δ) (context : RequestContext) (address : String) :
    SoleUser δ × Option (Reply Handle) :=
  let (driver, reaction) := Driver.beginOpen user.driver address
  complete { user with driver } context reaction fun driver => Driver.finishOpen driver address

/-- Call the device at an address. -/
def call (user : SoleUser δ) (context : RequestContext) (address : String) (command : Command) :
    SoleUser δ × Option (Reply command.Result) :=
  let (driver, reaction) := Driver.beginCall user.driver address command
  complete { user with driver } context reaction fun driver =>
    Driver.finishCall driver address command

end SoleUser

end AvControl

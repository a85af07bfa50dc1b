import AvControl.Driver.Basic

/-!
# Opening each device once

A driver with a memory opens the device at an address at most once at a time. The first caller
starts an attempt, and whoever asks for the same address meanwhile joins it and receives the same
result. The handle of a successful attempt is kept for good; a failure is kept by nobody, so that
the next caller starts afresh.

An attempt runs under the context of the caller that started it and makes progress only when a
caller looks after it. One that all its callers have abandoned stays as it is until somebody joins
it again. All attempts are remembered in the order in which they were started, each under its
number, so that callers that joined one find its result after it has ended.
-/

namespace AvControl

/-- How far an attempt to open a device has come. -/
inductive Attempt.Stage
  | waiting (due : Option Nat) (heedsContext : Bool)
  | ended (result : Except DriverError Handle)
deriving Repr

/-- An attempt to open the device at an address. -/
structure Attempt where
  address : String
  /-- The context of the caller that started the attempt. -/
  context : RequestContext
  /-- The place of the attempt's wait among all waits. -/
  ticket : Nat
  stage : Attempt.Stage
deriving Repr

namespace Attempt

/-- What came of the attempt, once it has ended. -/
def result? (attempt : Attempt) : Option (Except DriverError Handle) :=
  match attempt.stage with
  | .waiting _ _ => none
  | .ended result => some result

/-- When the attempt goes on by itself: when its wait is over or its context runs out. -/
def wake? (attempt : Attempt) : Option Nat :=
  match attempt.stage with
  | .waiting due heedsContext =>
    earlier due (if heedsContext then attempt.context.deadline else none)
  | .ended _ => none

/-- Whether a caller that looks after the attempt now finds it ended, because its time has come. -/
def isOver (attempt : Attempt) (now : Nat) : Bool :=
  match attempt.stage with
  | .waiting _ _ => attempt.wake?.any (· ≤ now)
  | .ended _ => true

/-- Whether a caller that looks after the attempt finds it cancelled. -/
def isCancelled (attempt : Attempt) (tokens : Tokens) : Bool :=
  match attempt.stage with
  | .waiting _ heedsContext => heedsContext && tokens.isCancelled attempt.context.token
  | .ended _ => false

end Attempt

/-- A driver that remembers the handles it has handed out. -/
structure CachedDriver (δ : Type) where
  driver : δ
  handles : SortedMap String Handle := SortedMap.empty
  /-- All attempts there ever were, oldest first. -/
  attempts : List Attempt := []
  /-- The number of the attempt that is in flight for an address. -/
  inFlight : SortedMap String Nat := SortedMap.empty

namespace CachedDriver

variable {δ : Type}

/-- End an attempt: keep the handle if there is one, and let the address go. -/
def conclude (cached : CachedDriver δ) (number : Nat) (address : String)
    (result : Except DriverError Handle) : CachedDriver δ :=
  { cached with
    handles := match result with
      | .ok handle => cached.handles.insert address handle
      | .error _ => cached.handles
    attempts := cached.attempts.modify number fun attempt => { attempt with stage := .ended result }
    inFlight := cached.inFlight.erase address }

/-- What a broken-down opening counts as. -/
def crashed : DriverError := { message := "device creation panicked" }

variable [Driver δ]

/-- End an attempt whose wait is over. -/
def finish (cached : CachedDriver δ) (number : Nat) (address : String) : CachedDriver δ :=
  let (driver, reply) := Driver.finishOpen cached.driver address
  let result := match reply with
    | .ok handle => .ok handle
    | .error error => .error error
    | .crash => .error crashed
  { cached with driver }.conclude number address result

/-- Look after an attempt: its wait is looked at first, then its context. -/
def advance (cached : CachedDriver δ) (tokens : Tokens) (now number : Nat) : CachedDriver δ :=
  match cached.attempts[number]? with
  | none => cached
  | some attempt =>
    match attempt.stage with
    | .ended _ => cached
    | .waiting due heedsContext =>
      if due.any (· ≤ now) then cached.finish number attempt.address
      else if heedsContext then
        match attempt.context.interruption? tokens now with
        | some interruption =>
          cached.conclude number attempt.address (.error (.ofInterruption interruption))
        | none => cached
      else cached

/--
Start an attempt under a context, which the driver may cancel at once. A context that has already
ended does not let a driver that heeds it begin to wait.
-/
def start (cached : CachedDriver δ) (tokens : Tokens) (now ticket : Nat) (context : RequestContext)
    (address : String) : CachedDriver δ × Tokens :=
  let (driver, reaction) := Driver.beginOpen cached.driver address
  let tokens := if reaction.cancels then tokens.cancel context.token else tokens
  let number := cached.attempts.length
  let attempt : Attempt :=
    { address, context, ticket, stage := .waiting (reaction.wait.due now) reaction.heedsContext }
  let cached := { cached with
    driver
    attempts := cached.attempts ++ [attempt]
    inFlight := cached.inFlight.insert address number }
  match reaction.heedsContext, context.interruption? tokens now with
  | true, some interruption =>
    (cached.conclude number address (.error (.ofInterruption interruption)), tokens)
  | _, _ => (cached.advance tokens now number, tokens)

end CachedDriver

/-- Somebody who wants the device at an address opened. -/
inductive Caller
  | fresh
  /-- The caller waits for an attempt. -/
  | joined (number : Nat)
  | answered (result : Except DriverError Handle)
deriving Repr

namespace Caller

/-- The answer to a caller that waits for an attempt, as soon as there is one. -/
def follow {δ : Type} (cached : CachedDriver δ) (number : Nat) : Caller :=
  match cached.attempts[number]?.bind Attempt.result? with
  | some result => .answered result
  | none => .joined number

/-- What the caller was answered, if it was. -/
def answer? : Caller → Option (Except DriverError Handle)
  | answered result => some result
  | _ => none

end Caller

/-- What comes of looking after a caller. -/
structure Polled (δ : Type) where
  cached : CachedDriver δ
  tokens : Tokens
  caller : Caller
  /-- Whether the caller had to start an attempt of its own. -/
  started : Bool := false

namespace CachedDriver

variable {δ : Type} [Driver δ]

/--
Look after a caller. A new one is given the remembered handle, or joins the attempt in flight, or
starts an attempt under its own context.
-/
def poll (cached : CachedDriver δ) (tokens : Tokens) (now ticket : Nat) (context : RequestContext)
    (address : String) (caller : Caller) : Polled δ :=
  match caller with
  | .answered _ => { cached, tokens, caller }
  | .joined number =>
    let cached := cached.advance tokens now number
    { cached, tokens, caller := .follow cached number }
  | .fresh =>
    match cached.handles.get? address with
    | some handle => { cached, tokens, caller := .answered (.ok handle) }
    | none =>
      match cached.inFlight.get? address with
      | some number =>
        let cached := cached.advance tokens now number
        { cached, tokens, caller := .follow cached number }
      | none =>
        let number := cached.attempts.length
        let (cached, tokens) := cached.start tokens now ticket context address
        { cached, tokens, caller := .follow cached number, started := true }

/-- Hand a configuration to the driver. Handles that are kept, and attempts, stay as they are. -/
def configure (cached : CachedDriver δ) (configuration : Json) :
    Except DriverError (CachedDriver δ) :=
  (Driver.configure cached.driver configuration).map fun driver => { cached with driver }

end CachedDriver

end AvControl

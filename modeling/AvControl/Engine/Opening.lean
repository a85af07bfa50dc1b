import AvControl.Engine.World

/-!
# Opening devices side by side

Several addresses of one driver are asked for at once, under one context. Every caller waits for its
own answer, and each answer is noted with the time at which it came.
-/

namespace AvControl

/-- Somebody who asks for an address, and when the answer came. -/
structure Applicant where
  address : String
  caller : Caller := .fresh
  answeredAt : Option Nat := none

namespace Applicant

/-- Whether the applicant has an answer. -/
def isAnswered (applicant : Applicant) : Bool := applicant.answeredAt.isSome

/-- The answer and its time. -/
def answer? (applicant : Applicant) : Option (Except DriverError Handle × Nat) :=
  match applicant.caller, applicant.answeredAt with
  | .answered result, some time => some (result, time)
  | _, _ => none

/-- The attempt that the applicant waits for. -/
def attempt? {δ : Type} (applicant : Applicant) (cached : CachedDriver δ) : Option Attempt :=
  match applicant.caller with
  | .joined number => cached.attempts[number]?
  | _ => none

/-- Whether the applicant would have an answer if it were looked after. -/
def isDue {δ : Type} (applicant : Applicant) (cached : CachedDriver δ) (tokens : Tokens)
    (now : Nat) : Bool :=
  (applicant.attempt? cached).any fun attempt => attempt.isOver now || attempt.isCancelled tokens

end Applicant

namespace World

variable {δ : Type} [Driver δ]

/-- Look after an applicant, and note the time if it is answered. -/
def attend (world : World δ) (driver : String) (context : RequestContext)
    (applicant : Applicant) : World δ × Applicant :=
  let (world, caller) := world.lookAfter driver applicant.address context applicant.caller
  let answeredAt := if applicant.isAnswered then applicant.answeredAt
    else caller.answer?.map fun _ => world.clock
  (world, { applicant with caller, answeredAt })

/-- Look after all applicants in their order. -/
def lookAfterAll (driver : String) (context : RequestContext) :
    World δ → List Applicant → World δ × List Applicant
  | world, [] => (world, [])
  | world, applicant :: rest =>
    let (world, applicant) := world.attend driver context applicant
    let (world, rest) := lookAfterAll driver context world rest
    (world, applicant :: rest)

/--
The next time at which somebody is to be looked after: now, if an attempt that somebody waits for
is over by now, and else when one of these attempts goes on by itself or patience ends.
-/
def nextOpening (world : World δ) (driver : String) (applicants : List Applicant)
    (patience : Option Nat) : Option Nat :=
  match world.registry.get driver with
  | none => patience
  | some cached =>
    if applicants.any fun applicant => applicant.isDue cached world.tokens world.clock then
      some world.clock
    else
      let wakes := applicants.filterMap fun applicant =>
        (applicant.attempt? cached).bind Attempt.wake?
      (patience.toList ++ wakes).min?

/-- Look after all applicants until they are answered, at most so many times. -/
def awaitOpenings (driver : String) (context : RequestContext) (patience : Option Nat) :
    Nat → World δ → List Applicant → World δ × List Applicant
  | 0, world, applicants => (world, applicants)
  | rounds + 1, world, applicants =>
    let (world, applicants) := lookAfterAll driver context world applicants
    if applicants.all Applicant.isAnswered || patience.any (· ≤ world.clock) then
      (world, applicants)
    else
      match world.nextOpening driver applicants patience with
      | none => (world, applicants)
      | some time =>
        awaitOpenings driver context patience rounds { world with clock := time } applicants

/--
Open some addresses of one driver at once. The answers come with their times; without an answer to
everybody when patience ends there is none.
-/
def openAll (world : World δ) (driver : String) (context : RequestContext)
    (addresses : List String) (patience : Option Nat) :
    World δ × Option (List (Except DriverError Handle × Nat)) :=
  let (world, applicants) :=
    awaitOpenings driver context patience (addresses.length + 2) world
      (addresses.map fun address => { address := address })
  (world, applicants.mapM Applicant.answer?)

end World

end AvControl

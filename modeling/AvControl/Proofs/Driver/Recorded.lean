import AvControl.Driver.Basic

/-!
# Recorded drivers

A recorded driver does what another driver does and writes down, one after another, the halves of
all openings and calls that it is asked for. Whoever is given a recorded driver can only use it as
any other driver, so the record says what a user asks of drivers in general.
-/

namespace AvControl

/-- How a call came out, leaving aside what it yielded. -/
inductive Reply.Kind
  | ok
  | error
  | crash
deriving DecidableEq, Repr

/-- How a call came out. -/
def Reply.kind {α : Type} : Reply α → Reply.Kind
  | .ok _ => .ok
  | .error _ => .error
  | .crash => .crash

/-- One half of an opening or of a call. -/
inductive Deed
  | beginOpen (address : String) (reaction : Reaction)
  | finishOpen (address : String) (reply : Reply Handle)
  | beginCall (address : String) (command : Command) (reaction : Reaction)
  | finishCall (address : String) (command : Command) (kind : Reply.Kind)
deriving DecidableEq, Repr

namespace Deed

/-- Whether the deed is the beginning of an opening of the device at an address. -/
def opens (address : String) : Deed → Bool
  | beginOpen other _ => other = address
  | _ => false

/--
What came of the openings of the device at an address, with one deed more. A reply is about the
opening that was begun last.
-/
def recount (address : String) (outcomes : List (Option (Reply Handle))) :
    Deed → List (Option (Reply Handle))
  | beginOpen other _ => if other = address then outcomes ++ [none] else outcomes
  | finishOpen other reply =>
    if other = address then outcomes.dropLast ++ [some reply] else outcomes
  | beginCall _ _ _ | finishCall _ _ _ => outcomes

end Deed

/-- A driver together with a record of what it was asked for, oldest first. -/
structure Recorded (δ : Type) where
  driver : δ
  deeds : List Deed := []

namespace Recorded

variable {δ : Type} [Driver δ]

instance : Driver (Recorded δ) where
  configure recorded configuration :=
    (Driver.configure recorded.driver configuration).map fun driver => { recorded with driver }
  beginOpen recorded address :=
    let (driver, reaction) := Driver.beginOpen recorded.driver address
    ({ driver, deeds := recorded.deeds ++ [.beginOpen address reaction] }, reaction)
  finishOpen recorded address :=
    let (driver, reply) := Driver.finishOpen recorded.driver address
    ({ driver, deeds := recorded.deeds ++ [.finishOpen address reply] }, reply)
  beginCall recorded address command :=
    let (driver, reaction) := Driver.beginCall recorded.driver address command
    ({ driver, deeds := recorded.deeds ++ [.beginCall address command reaction] }, reaction)
  finishCall recorded address command :=
    let (driver, reply) := Driver.finishCall recorded.driver address command
    ({ driver, deeds := recorded.deeds ++ [.finishCall address command reply.kind] }, reply)

omit [Driver δ] in
/-- How often the opening of the device at an address was begun. -/
def openings (recorded : Recorded δ) (address : String) : Nat :=
  recorded.deeds.countP (Deed.opens address)

omit [Driver δ] in
/-- What came of the openings of the device at an address, in the order in which they were begun.
Of one that is not over, or was given up, there is no reply. -/
def outcomes (recorded : Recorded δ) (address : String) : List (Option (Reply Handle)) :=
  recorded.deeds.foldl (Deed.recount address) []

@[simp]
theorem openings_beginOpen (recorded : Recorded δ) (address other : String) :
    (Driver.beginOpen recorded address).1.openings other =
      recorded.openings other + if address = other then 1 else 0 := by
  simp [openings, Driver.beginOpen, Deed.opens, List.countP_append, List.countP_cons]

@[simp]
theorem openings_finishOpen (recorded : Recorded δ) (address other : String) :
    (Driver.finishOpen recorded address).1.openings other = recorded.openings other := by
  simp [openings, Driver.finishOpen, Deed.opens, List.countP_append]

@[simp]
theorem outcomes_beginOpen (recorded : Recorded δ) (address other : String) :
    (Driver.beginOpen recorded address).1.outcomes other =
      if address = other then recorded.outcomes other ++ [none] else recorded.outcomes other := by
  simp [outcomes, Driver.beginOpen, Deed.recount, List.foldl_append]

@[simp]
theorem outcomes_finishOpen (recorded : Recorded δ) (address other : String) :
    (Driver.finishOpen recorded address).1.outcomes other =
      if address = other then
        (recorded.outcomes other).dropLast ++ [some (Driver.finishOpen recorded address).2]
      else recorded.outcomes other := by
  simp [outcomes, Driver.finishOpen, Deed.recount, List.foldl_append]

end Recorded

end AvControl

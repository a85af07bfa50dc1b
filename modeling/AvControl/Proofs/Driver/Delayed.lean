import AvControl.Proofs.Driver.Separation

/-!
# Drivers whose delays are up to somebody else

A delayed driver says what another driver says, but how long an opening or a call is kept waiting is
decided by an assignment of delays, which may look at everything that was asked for before. All that
was said is written down, so that runs under different assignments can be compared.
-/

namespace AvControl

/-- What a driver was asked for, and what it had to say. -/
structure Exchange where
  ask : Ask
  response : ask.Response

/-- How long the next opening or call is kept waiting, after some things were asked for. -/
abbrev Delays := List Ask → Ask → Nat

/-- A driver with assigned delays, and all that it has said, oldest first. -/
structure Delayed (δ : Type) where
  driver : δ
  delays : Delays
  exchanges : List Exchange := []

namespace Delayed

variable {δ : Type}

/-- The same driver, with one thing more that was said. -/
def note (delayed : Delayed δ) (driver : δ) (ask : Ask) (response : ask.Response) : Delayed δ :=
  { delayed with driver, exchanges := delayed.exchanges ++ [⟨ask, response⟩] }

/-- How the driver goes about it under the assigned delays. -/
def slowed (delayed : Delayed δ) (ask : Ask) (reaction : Reaction) : Reaction :=
  { reaction with wait := .ms (delayed.delays (delayed.exchanges.map Exchange.ask) ask) }

variable [Driver δ]

instance : Driver (Delayed δ) where
  configure delayed configuration :=
    (Driver.configure delayed.driver configuration).map fun driver => { delayed with driver }
  beginOpen delayed address :=
    let (driver, reaction) := Driver.beginOpen delayed.driver address
    let reaction := delayed.slowed (.beginOpen address) reaction
    (delayed.note driver (.beginOpen address) reaction, reaction)
  finishOpen delayed address :=
    let (driver, reply) := Driver.finishOpen delayed.driver address
    (delayed.note driver (.finishOpen address) reply, reply)
  beginCall delayed address command :=
    let (driver, reaction) := Driver.beginCall delayed.driver address command
    let reaction := delayed.slowed (.beginCall address command) reaction
    (delayed.note driver (.beginCall address command) reaction, reaction)
  finishCall delayed address command :=
    let (driver, reply) := Driver.finishCall delayed.driver address command
    (delayed.note driver (.finishCall address command) reply, reply)

/-- Whatever is said is written down. -/
theorem exchanges_ask (delayed : Delayed δ) (ask : Ask) :
    (Driver.ask delayed ask).1.exchanges =
      delayed.exchanges ++ [⟨ask, (Driver.ask delayed ask).2⟩] := by
  cases ask <;> rfl

/-- What was said once stays written down. -/
theorem exchanges_asked (asks : List Ask) : ∀ delayed : Delayed δ,
    delayed.exchanges ⊆ (Driver.asked delayed asks).exchanges := by
  induction asks with
  | nil => exact fun delayed => List.Subset.refl delayed.exchanges
  | cons ask rest ih =>
      intro delayed exchange member
      refine ih (Driver.ask delayed ask).1 ?_
      rw [exchanges_ask]
      exact List.mem_append_left _ member

/-- Nobody is kept waiting for ever. -/
theorem due_beginCall (delayed : Delayed δ) (address : String) (command : Command) (now : Nat) :
    ((Driver.beginCall delayed address command).2.wait.due now).isSome = true := rfl

end Delayed

end AvControl

import AvControl.Capability
import AvControl.Context

/-!
# Drivers

A driver speaks to a family of devices, each known by its address. Opening a device and calling it
are done in two halves with a wait between them: the first half says how the driver goes about it,
the second half, once the wait is over, says what came of it. In this way a driver is a pure state
machine, and time belongs to whoever runs it.
-/

namespace AvControl

/-- How long a driver keeps a call waiting. -/
inductive Wait
  | ms (duration : Nat)
  | forever
deriving DecidableEq, Repr

namespace Wait

/-- When a wait that begins now is over. -/
def due (wait : Wait) (now : Nat) : Option Nat :=
  match wait with
  | ms duration => some (now + duration)
  | forever => none

end Wait

/-- How a driver goes about a call. -/
structure Reaction where
  wait : Wait := .ms 0
  /-- The driver cancels the context it was called with. -/
  cancels : Bool := false
  /-- The driver gives the call up when the context ends before the wait is over. -/
  heedsContext : Bool := false
deriving DecidableEq, Repr

/-- What came of a call. -/
inductive Reply (α : Type)
  | ok (value : α)
  | error (error : DriverError)
  /-- The driver broke down. -/
  | crash
deriving DecidableEq, Repr

/-- The two halves of every call, and the configuration, as transitions of the driver's state. -/
class Driver (δ : Type) where
  /-- Take over driver-wide settings, or refuse them. -/
  configure : δ → Json → Except DriverError δ
  /-- Begin to open the device at an address. -/
  beginOpen : δ → String → δ × Reaction
  /-- Finish opening the device at an address. -/
  finishOpen : δ → String → δ × Reply Handle
  /-- Begin a call of the device at an address. -/
  beginCall : δ → String → Command → δ × Reaction
  /-- Finish a call of the device at an address. -/
  finishCall : δ → String → (command : Command) → δ × Reply command.Result

/-- A driver that is one of two kinds. -/
instance {δ ε : Type} [Driver δ] [Driver ε] : Driver (δ ⊕ ε) where
  configure
    | .inl driver, configuration => (Driver.configure driver configuration).map .inl
    | .inr driver, configuration => (Driver.configure driver configuration).map .inr
  beginOpen
    | .inl driver, address => (Driver.beginOpen driver address).map .inl id
    | .inr driver, address => (Driver.beginOpen driver address).map .inr id
  finishOpen
    | .inl driver, address => (Driver.finishOpen driver address).map .inl id
    | .inr driver, address => (Driver.finishOpen driver address).map .inr id
  beginCall
    | .inl driver, address, command => (Driver.beginCall driver address command).map .inl id
    | .inr driver, address, command => (Driver.beginCall driver address command).map .inr id
  finishCall
    | .inl driver, address, command => (Driver.finishCall driver address command).map .inl id
    | .inr driver, address, command => (Driver.finishCall driver address command).map .inr id

end AvControl

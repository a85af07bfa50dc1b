import AvControl.Error

/-!
# Request contexts

A request travels with a context that says how long it is worth working for: until a deadline, if
there is one, or until somebody cancels it. Cancellation goes down from a context to the contexts
made out of it. Time is a number of milliseconds.

The cancellations of all contexts are kept together in one `Tokens`, in which every context names
its own entry, so that contexts themselves are plain values that can be copied.
-/

namespace AvControl

/-- What is known about the cancellation of one context. -/
structure Token where
  /-- The entry whose cancellation is passed on to this one; it is an older entry. -/
  parent : Option Nat
  cancelled : Bool := false
deriving DecidableEq, Repr

/-- The cancellations of all contexts, oldest first. -/
structure Tokens where
  entries : List Token := []
deriving DecidableEq, Repr, Inhabited

namespace Tokens

/-- Add an entry, and name it. -/
def add (tokens : Tokens) (parent : Option Nat) : Tokens × Nat :=
  (⟨tokens.entries ++ [⟨parent, false⟩]⟩, tokens.entries.length)

/-- Cancel one entry. -/
def cancel (tokens : Tokens) (token : Nat) : Tokens :=
  ⟨tokens.entries.modify token fun entry => { entry with cancelled := true }⟩

/-- Whether an entry or one of the entries above it is cancelled, looking at most so far up. -/
def cancelledWithin (tokens : Tokens) : Nat → Nat → Bool
  | 0, _ => false
  | bound + 1, token =>
    match tokens.entries[token]? with
    | none => false
    | some entry =>
      entry.cancelled ||
        match entry.parent with
        | some parent => tokens.cancelledWithin bound parent
        | none => false

/-- Whether an entry is cancelled. There are no more entries above it than there are entries. -/
def isCancelled (tokens : Tokens) (token : Nat) : Bool :=
  tokens.cancelledWithin tokens.entries.length token

end Tokens

/-- The earlier of two optional times. -/
def earlier : Option Nat → Option Nat → Option Nat
  | some a, some b => some (min a b)
  | some a, none => some a
  | none, b => b

/-- How long a request is worth working for. -/
structure RequestContext where
  deadline : Option Nat
  token : Nat
deriving DecidableEq, Repr, Inhabited

namespace RequestContext

/-- A context with the given deadline, or without one. -/
def create (tokens : Tokens) (deadline : Option Nat) : Tokens × RequestContext :=
  let (tokens, token) := tokens.add none
  (tokens, ⟨deadline, token⟩)

/-- A context under another one, with a time of its own if one is given. -/
def child (parent : RequestContext) (tokens : Tokens) (now : Nat) (timeout : Option Nat) :
    Tokens × RequestContext :=
  let (tokens, token) := tokens.add (some parent.token)
  (tokens, ⟨earlier parent.deadline (timeout.map (now + ·)), token⟩)

/-- Why the context has ended by now, if it has. Cancellation is looked at first. -/
def interruption? (context : RequestContext) (tokens : Tokens) (now : Nat) :
    Option Interruption :=
  if tokens.isCancelled context.token then some .canceled
  else
    match context.deadline with
    | some deadline => if deadline ≤ now then some .deadlineExceeded else none
    | none => none

/-- How a wait under a context ends. -/
inductive WaitEnd
  | finished (time : Nat)
  | interrupted (time : Nat) (interruption : Interruption)
  /-- Nothing ever ends it. -/
  | never
deriving DecidableEq, Repr

/--
How a wait that begins now ends when it is over at `due` and somebody cancels the context at
`cancelAt`. The wait itself is looked at first, then the deadline, then the cancellation; a context
that has already ended does not let the wait begin.
-/
def await (context : RequestContext) (tokens : Tokens) (now : Nat) (due cancelAt : Option Nat) :
    WaitEnd :=
  match context.interruption? tokens now with
  | some interruption => .interrupted now interruption
  | none =>
    match earlier due (earlier context.deadline cancelAt) with
    | none => .never
    | some time =>
      if due = some time then .finished time
      else if context.deadline = some time then .interrupted time .deadlineExceeded
      else .interrupted time .canceled

end RequestContext

end AvControl

import AvControl.Context

/-!
# The end of contexts

Cancellations are never taken back. A context that has ended therefore stays ended, and a context
that is live was live before.
-/

namespace AvControl

namespace Tokens

/-- Everything that is cancelled in the one is cancelled in the other. -/
def Below (earlier later : Tokens) : Prop :=
  ∀ token, earlier.isCancelled token = true → later.isCancelled token = true

theorem Below.refl (tokens : Tokens) : tokens.Below tokens := fun _ cancelled => cancelled

theorem Below.trans {first middle last : Tokens} (earlier : first.Below middle)
    (later : middle.Below last) : first.Below last :=
  fun token cancelled => later token (earlier token cancelled)

theorem cancelledWithin_cancel {tokens : Tokens} {token other bound : Nat}
    (cancelled : tokens.cancelledWithin bound token = true) :
    (tokens.cancel other).cancelledWithin bound token = true := by
  induction bound generalizing token with
  | zero => simp [cancelledWithin] at cancelled
  | succ bound ih =>
      simp only [cancelledWithin] at cancelled ⊢
      cases found : tokens.entries[token]? with
      | none => simp [found] at cancelled
      | some entry =>
          simp only [found, Bool.or_eq_true] at cancelled
          simp only [cancel, List.getElem?_modify, found, Option.map_eq_map, Option.map_some]
          by_cases same : other = token
          · simp [same]
          · simp only [same, if_false, Bool.or_eq_true]
            apply cancelled.imp_right
            intro above
            cases parent : entry.parent with
            | none => simp [parent] at above
            | some ancestor =>
                simp only [parent] at above ⊢
                exact ih above

theorem cancelledWithin_add {tokens : Tokens} (parent : Option Nat) {token bound : Nat}
    (cancelled : tokens.cancelledWithin bound token = true) :
    (tokens.add parent).1.cancelledWithin (bound + 1) token = true := by
  induction bound generalizing token with
  | zero => simp [cancelledWithin] at cancelled
  | succ bound ih =>
      rw [cancelledWithin] at cancelled ⊢
      cases found : tokens.entries[token]? with
      | none => simp [found] at cancelled
      | some entry =>
          have inside := (List.getElem?_eq_some_iff.1 found).1
          simp only [found, Bool.or_eq_true] at cancelled
          simp only [add, List.getElem?_append_left inside, found, Bool.or_eq_true]
          apply cancelled.imp_right
          intro above
          cases parent : entry.parent with
          | none => simp [parent] at above
          | some ancestor =>
              simp only [parent] at above ⊢
              exact ih above

/-- New entries leave everything cancelled that was. -/
theorem below_add (tokens : Tokens) (parent : Option Nat) :
    tokens.Below (tokens.add parent).1 := by
  intro token cancelled
  have longer : (tokens.add parent).1.entries.length = tokens.entries.length + 1 := by simp [add]
  rw [isCancelled, longer]
  exact cancelledWithin_add parent cancelled

theorem below_cancel (tokens : Tokens) (token : Nat) : tokens.Below (tokens.cancel token) := by
  intro other cancelled
  have sameLength : (tokens.cancel token).entries.length = tokens.entries.length := by
    simp [cancel]
  simp only [isCancelled, sameLength] at cancelled ⊢
  exact cancelledWithin_cancel cancelled

end Tokens

namespace RequestContext

variable {context : RequestContext} {earlier later : Tokens} {now : Nat}

theorem interruption?_isSome (context : RequestContext) (tokens : Tokens) (now : Nat) :
    (context.interruption? tokens now).isSome = true ↔
      tokens.isCancelled context.token = true ∨ context.deadline.any (· ≤ now) = true := by
  simp only [interruption?]
  by_cases cancelled : tokens.isCancelled context.token = true
  · simp [cancelled]
  · cases context.deadline with
    | none => simp [cancelled]
    | some deadline =>
        by_cases past : deadline ≤ now
        · simp [cancelled, past]
        · simp [cancelled, past]

theorem isCancelled_of_live (live : context.interruption? later now = none) :
    later.isCancelled context.token = false := by
  rw [← Bool.not_eq_true]
  intro cancelled
  have ended := (context.interruption?_isSome later now).2 (Or.inl cancelled)
  simp [live] at ended

/-- A context that is live was live before anything more was cancelled. -/
theorem live_of_below (below : earlier.Below later)
    (live : context.interruption? later now = none) :
    context.interruption? earlier now = none := by
  rw [← Option.not_isSome_iff_eq_none, interruption?_isSome] at live ⊢
  intro ended
  exact live (ended.imp_left (below _))

end RequestContext

end AvControl

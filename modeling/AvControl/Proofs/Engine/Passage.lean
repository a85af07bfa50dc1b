import AvControl.Proofs.Engine.Progress

/-!
# The passage of time

While a run goes on time passes and contexts are cancelled, and neither is ever taken back. A
context that is live at some state of a run was live at all states before.
-/

namespace AvControl

namespace RequestContext

variable {context : RequestContext} {earlier later : Tokens} {now now' : Nat}

/-- A context that is live was live before. -/
theorem live_before (below : earlier.Below later) (passes : now ≤ now')
    (live : context.interruption? later now' = none) :
    context.interruption? earlier now = none := by
  rw [← Option.not_isSome_iff_eq_none, interruption?_isSome] at live ⊢
  intro ended
  apply live
  refine ended.imp (below _) ?_
  cases context.deadline with
  | none => simp
  | some deadline =>
      simp only [Option.any_some, decide_eq_true_eq]
      omega

/-- A context without a deadline is live as long as nothing more is cancelled. -/
theorem live_without_deadline (unbounded : context.deadline = none) (below : earlier.Below later)
    (live : context.interruption? later now' = none) :
    context.interruption? earlier now = none := by
  rw [← Option.not_isSome_iff_eq_none, interruption?_isSome] at live ⊢
  rw [unbounded] at live ⊢
  intro ended
  apply live
  exact ended.imp (below _) (by simp)

end RequestContext

namespace Run

variable {δ : Type} [Driver δ] {run : Run δ}

theorem Steps.tokens {next : Run δ} {patience : Option Nat} (steps : Steps patience run next) :
    run.world.tokens.Below next.world.tokens := by
  cases steps with
  | poll => exact (Task.poll_polls _ _ _).later.tokens
  | collect =>
      rcases run.world_attend with ⟨_, below, same⟩
      rw [same]
      exact below
  | @wait time =>
      rcases (run.wind time).world_attend with ⟨_, below, same⟩
      rw [same]
      exact below

theorem go_tokens (patience : Option Nat) (steps : Nat) (run : Run δ) :
    run.world.tokens.Below (go patience steps run).world.tokens := by
  have kept : ∀ middle next : Run δ, run.world.tokens.Below middle.world.tokens →
      middle.step patience = some next → run.world.tokens.Below next.world.tokens := by
    intro middle next below isNext
    exact below.trans (step_steps isNext).2.tokens
  exact go_induction kept steps (.refl _)

theorem Steps.clock_le {next : Run δ} (steps : Steps none run next) :
    run.world.clock ≤ next.world.clock := by
  cases steps with
  | poll => exact Nat.le_of_eq (Task.poll_polls _ _ _).later.clock.symm
  | collect => exact Nat.le_of_eq (attend_clock run).symm
  | wait idle noMail isNext =>
      rw [attend_clock]
      rcases nextTime_cases isNext with never | ⟨later, -⟩
      · cases never
      · exact Nat.le_of_lt later

theorem clock_le_go (steps : Nat) (run : Run δ) :
    run.world.clock ≤ (Run.go none steps run).world.clock := by
  have kept : ∀ middle next : Run δ, run.world.clock ≤ middle.world.clock →
      middle.step none = some next → run.world.clock ≤ next.world.clock := by
    intro middle next passes isNext
    exact Nat.le_trans passes (step_steps isNext).2.clock_le
  exact go_induction kept steps (Nat.le_refl _)

/-- The run after so many steps, unless it has come to its end before. -/
def after (run : Run δ) (steps : Nat) : Run δ := Run.go none steps run.attend

theorem after_succ {run next : Run δ} {steps : Nat}
    (isNext : (run.after steps).step none = some next) : run.after (steps + 1) = next := by
  rw [after, ← go_add]
  exact go_step isNext 0

theorem clock_le_after (run : Run δ) (steps : Nat) :
    run.world.clock ≤ (run.after steps).world.clock :=
  Nat.le_trans (Nat.le_of_eq (attend_clock run).symm) (clock_le_go steps run.attend)

theorem clock_after_mono (run : Run δ) {first second : Nat} (earlier : first ≤ second) :
    (run.after first).world.clock ≤ (run.after second).world.clock := by
  rcases Nat.exists_eq_add_of_le earlier with ⟨more, rfl⟩
  have passes := clock_le_go more (run.after first)
  rwa [after, go_add] at passes

end Run

end AvControl

import AvControl.Proofs.Driver.Coherence

/-!
# Handles stay

A driver with a memory is configured, and callers open devices with it, in any order and with any
success. Whatever a caller says of itself, looking after it makes nothing but moves. So a handle
that is remembered once is remembered for good, whatever driver it is.
-/

namespace AvControl

namespace CachedDriver

variable {δ : Type}

/-- What is remembered before is remembered after. -/
def Remembers (before after : CachedDriver δ) : Prop :=
  ∀ address handle, before.handles.get? address = some handle →
    after.handles.get? address = some handle

theorem exists_moves_advance [Driver δ] (cached : CachedDriver δ) (tokens : Tokens)
    (now number : Nat) :
    ∃ place, Moves ⟨tokens, now⟩ place cached (cached.advance tokens now number) := by
  cases found : cached.attempts[number]? with
  | some attempt => exact ⟨attempt.address, moves_advance found tokens now⟩
  | none =>
      have same : cached.advance tokens now number = cached := by simp [advance, found]
      rw [same]
      exact ⟨"", .refl cached⟩

/-- Looking after a caller makes moves at some address. -/
theorem exists_moves_poll [Driver δ] (cached : CachedDriver δ) (tokens : Tokens)
    (now ticket : Nat) (context : RequestContext) (address : String) (caller : Caller) :
    ∃ place, Moves ⟨(cached.poll tokens now ticket context address caller).tokens, now⟩ place cached
      (cached.poll tokens now ticket context address caller).cached := by
  cases caller with
  | answered result => exact ⟨address, .refl cached⟩
  | joined number => exact cached.exists_moves_advance tokens now number
  | fresh =>
      cases handled : cached.handles.get? address with
      | some handle =>
          simp only [CachedDriver.poll, handled]
          exact ⟨address, .refl cached⟩
      | none =>
          cases flying : cached.inFlight.get? address with
          | some number =>
              simp only [CachedDriver.poll, handled, flying]
              exact cached.exists_moves_advance tokens now number
          | none =>
              simp only [CachedDriver.poll, handled, flying]
              exact ⟨address, moves_start tokens now ticket context handled flying⟩

/-! ### Uses of one driver -/

/-- A caller is looked after, at a time and under some cancellations. -/
structure Visit where
  tokens : Tokens
  now : Nat
  ticket : Nat
  context : RequestContext
  address : String
  caller : Caller

/-- What is done with a driver that is registered. -/
inductive Use
  | configure (configuration : Json)
  | create (visit : Visit)

variable [Driver δ]

/-- A driver with a memory after it was used. -/
def used (cached : CachedDriver δ) : Use → CachedDriver δ
  | .configure configuration =>
    match cached.configure configuration with
    | .ok configured => configured
    | .error _ => cached
  | .create visit =>
    (cached.poll visit.tokens visit.now visit.ticket visit.context visit.address
      visit.caller).cached

theorem Coherent.used {cached : CachedDriver δ} (coherent : cached.Coherent) (use : Use) :
    (cached.used use).Coherent ∧ cached.Remembers (cached.used use) := by
  cases use with
  | create visit =>
      rcases cached.exists_moves_poll visit.tokens visit.now visit.ticket visit.context
        visit.address visit.caller with ⟨place, moves⟩
      exact ⟨moves.coherent coherent, (moves.growsAt coherent).handles⟩
  | configure configuration =>
      cases told : Driver.configure cached.driver configuration with
      | error error =>
          simp only [CachedDriver.used, configure, told, Except.map]
          exact ⟨coherent, fun _ _ handled => handled⟩
      | ok driver =>
          simp only [CachedDriver.used, configure, told, Except.map]
          exact ⟨coherent.withDriver driver, fun _ _ handled => handled⟩

/-- Through any uses, handles stay. -/
theorem Coherent.foldl_used {cached : CachedDriver δ} (coherent : cached.Coherent)
    (uses : List Use) :
    (uses.foldl CachedDriver.used cached).Coherent ∧
      cached.Remembers (uses.foldl CachedDriver.used cached) := by
  induction uses generalizing cached with
  | nil => exact ⟨coherent, fun _ _ handled => handled⟩
  | cons use rest ih =>
      rcases coherent.used use with ⟨usedCoherent, remembers⟩
      rcases ih usedCoherent with ⟨afterCoherent, remembers'⟩
      exact ⟨afterCoherent, fun address handle handled =>
        remembers' address handle (remembers address handle handled)⟩

end CachedDriver

end AvControl

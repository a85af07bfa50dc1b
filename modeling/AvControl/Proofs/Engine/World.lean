import AvControl.Engine.World
import AvControl.Proofs.Context
import AvControl.Proofs.Driver.Registry

/-!
# What the work on devices does to the world

Opening and calling devices takes no time, takes no cancellation back and forgets no driver. A
context that is live after some work was therefore live at every moment of it.
-/

namespace AvControl

namespace CachedDriver

variable {δ : Type} [Driver δ]

theorem below_start (cached : CachedDriver δ) (tokens : Tokens) (now ticket : Nat)
    (context : RequestContext) (address : String) :
    tokens.Below (cached.start tokens now ticket context address).2 := by
  simp only [start]
  rcases Driver.beginOpen cached.driver address with ⟨driver, reaction⟩
  have below : tokens.Below
      (if reaction.cancels = true then tokens.cancel context.token else tokens) := by
    split
    · exact tokens.below_cancel _
    · exact .refl _
  dsimp only
  split <;> exact below

theorem below_poll (cached : CachedDriver δ) (tokens : Tokens) (now ticket : Nat)
    (context : RequestContext) (address : String) (caller : Caller) :
    tokens.Below (cached.poll tokens now ticket context address caller).tokens := by
  simp only [poll]
  split
  · exact .refl _
  · exact .refl _
  · split
    · exact .refl _
    · split
      · exact .refl _
      · exact cached.below_start tokens now ticket context address

end CachedDriver

namespace World

variable {δ : Type}

/-- The world has gone on without time passing. -/
structure Later (before after : World δ) : Prop where
  clock : after.clock = before.clock
  tokens : before.tokens.Below after.tokens
  registered : ∀ name, (before.registry.get name).isSome → (after.registry.get name).isSome

namespace Later

theorem refl (world : World δ) : world.Later world := ⟨rfl, .refl _, fun _ registered => registered⟩

theorem trans {first middle last : World δ} (earlier : first.Later middle)
    (later : middle.Later last) : first.Later last where
  clock := later.clock.trans earlier.clock
  tokens := earlier.tokens.trans later.tokens
  registered name registered := later.registered name (earlier.registered name registered)

variable {before after : World δ} {context : RequestContext}

/-- A context that is live afterwards was live before. -/
theorem live (later : before.Later after) (stillLive : after.interruption? context = none) :
    before.interruption? context = none := by
  simp only [interruption?] at stillLive ⊢
  rw [later.clock] at stillLive
  exact RequestContext.live_of_below later.tokens stillLive

end Later

theorem get_set (registry : Registry δ) (name : String) (cached : CachedDriver δ) :
    (registry.set name cached).get name = some cached := by
  rw [Registry.get_set, if_pos rfl]

theorem get_set_ne {registry : Registry δ} {name other : String} (cached : CachedDriver δ)
    (differs : other ≠ name) : (registry.set name cached).get other = registry.get other := by
  rw [Registry.get_set, if_neg differs]

theorem registered_set {registry : Registry δ} {name : String} {cached : CachedDriver δ}
    (other : String) (registered : (registry.get other).isSome) :
    ((registry.set name cached).get other).isSome := by
  rw [Registry.get_set]
  split
  · rfl
  · exact registered

variable [Driver δ]

theorem later_lookAfter (world : World δ) (driver address : String) (context : RequestContext)
    (caller : Caller) : world.Later (world.lookAfter driver address context caller).1 := by
  unfold lookAfter
  split
  · exact .refl _
  · rename_i cached found
    have below := cached.below_poll world.tokens world.clock world.tickets context address caller
    dsimp only
    split
    · exact ⟨rfl, below, registered_set⟩
    · exact ⟨rfl, below, registered_set⟩

/-- Looking after somebody who wants a device opened is up to the driver with its memory. -/
theorem lookAfter_eq {world : World δ} {driver : String} {cached : CachedDriver δ}
    (found : world.registry.get driver = some cached) (address : String)
    (context : RequestContext) (caller : Caller) : ∃ journal tickets,
      world.lookAfter driver address context caller =
        ({ world with
            registry := world.registry.set driver (cached.poll world.tokens world.clock
              world.tickets context address caller).cached
            tokens := (cached.poll world.tokens world.clock world.tickets context address
              caller).tokens
            journal, tickets },
          (cached.poll world.tokens world.clock world.tickets context address caller).caller) := by
  simp only [lookAfter, found]
  split <;> exact ⟨_, _, rfl⟩

theorem lookAfter_missing {world : World δ} {driver : String}
    (missing : world.registry.get driver = none) (address : String) (context : RequestContext)
    (caller : Caller) : world.lookAfter driver address context caller = (world, caller) := by
  simp only [lookAfter, missing]

theorem later_beginCall (world : World δ) (config : DeviceConfig) (context : RequestContext)
    (command : Command) : world.Later (world.beginCall config context command).1 := by
  simp only [beginCall]
  split
  · exact .refl _
  · rename_i cached found
    rcases Driver.beginCall cached.driver config.address command with ⟨driver, reaction⟩
    refine ⟨rfl, ?_, registered_set⟩
    dsimp only [record]
    split
    · exact world.tokens.below_cancel _
    · exact .refl _

@[simp]
theorem command_beginCall (world : World δ) (config : DeviceConfig) (context : RequestContext)
    (command : Command) : (world.beginCall config context command).2.command = command := by
  simp only [beginCall]
  split <;> rfl

/-- What is known about a call once its driver has replied. -/
def verdict {command : Command} : Reply command.Result → Verdict command
  | .ok result => .done (.ok result)
  | .error error => .done (.error (.driver error))
  | .crash => .crashed

/-- Finishing a call is up to the driver. -/
theorem finishCall_eq {world : World δ} {config : DeviceConfig} {cached : CachedDriver δ}
    (found : world.registry.get config.driver = some cached) (command : Command) :
    world.finishCall config command =
      ({ world with
          registry := world.registry.set config.driver
            { cached with driver := (Driver.finishCall cached.driver config.address command).1 } },
        verdict (Driver.finishCall cached.driver config.address command).2) := by
  simp only [finishCall, found]
  rcases Driver.finishCall cached.driver config.address command with ⟨driver, _ | _ | _⟩ <;> rfl

theorem finishCall_missing {world : World δ} {config : DeviceConfig}
    (missing : world.registry.get config.driver = none) (command : Command) :
    world.finishCall config command = (world, .waiting) := by
  simp only [finishCall, missing]

theorem later_finishCall (world : World δ) (config : DeviceConfig) (command : Command) :
    world.Later (world.finishCall config command).1 := by
  cases found : world.registry.get config.driver with
  | none =>
      rw [finishCall_missing found]
      exact .refl _
  | some cached =>
      rw [finishCall_eq found]
      exact ⟨rfl, .refl _, registered_set⟩

/-- Only a call without its driver is waited for when its time has come, and nothing happens. -/
theorem finishCall_waiting {world world' : World δ} {config : DeviceConfig} {command : Command}
    (waiting : world.finishCall config command = (world', .waiting)) :
    world' = world ∧ world.registry.get config.driver = none := by
  cases found : world.registry.get config.driver with
  | none =>
      rw [finishCall_missing found, Prod.mk.injEq] at waiting
      exact ⟨waiting.1.symm, rfl⟩
  | some cached =>
      rw [finishCall_eq found, Prod.mk.injEq] at waiting
      cases replied : (Driver.finishCall cached.driver config.address command).2 <;>
        simp [replied, verdict] at waiting

end World

end AvControl

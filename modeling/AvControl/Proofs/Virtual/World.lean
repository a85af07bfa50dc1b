import AvControl.Proofs.Driver.Registry
import AvControl.Proofs.Engine.Happenings
import AvControl.Proofs.Virtual.Readings
import AvControl.Proofs.Virtual.Wiring

/-!
# Worlds of virtual devices

Whatever happens in a world of virtual devices, the wiring stays in order, and a device changes only
when somebody is done with a command to it. The reachable worlds are those in which things have
happened since the drivers were registered; in all of them the wiring is in order.
-/

namespace AvControl

open Relation Virtual

namespace World

variable {δ : Type} [Driver δ] [Enacts δ]

/-- The device that a driver has at an address, if there is such a driver. -/
def hardwareAt (world : World δ) (driver address : String) : Option Hardware :=
  (world.registry.get driver).map fun cached => cached.hardwareAt address

/-- What a field of a device is set to, if the device has it. -/
def setting? (world : World δ) (driver address : String) (field : Field) : Option Setting :=
  (world.hardwareAt driver address).bind fun hardware => hardware.setting? field

/-- What a driver is wired to at an address is in order. -/
def WiredAt (world : World δ) (driver address : String) : Prop :=
  ∀ cached, world.registry.get driver = some cached → cached.WiredAt address

/-- All wiring is in order. -/
def Wired (world : World δ) : Prop := ∀ driver address, world.WiredAt driver address

theorem hardwareAt_eq {world : World δ} {driver : String} {cached : CachedDriver δ}
    (found : world.registry.get driver = some cached) (address : String) :
    world.hardwareAt driver address = some (cached.hardwareAt address) := by
  simp [hardwareAt, found]

theorem isSome_hardwareAt (world : World δ) (driver address : String) :
    (world.hardwareAt driver address).isSome = (world.registry.get driver).isSome :=
  Option.isSome_map

/-- The wiring stays in order, and every device stays as it is. -/
def Preserves (before after : World δ) : Prop :=
  ∀ driver address, before.WiredAt driver address →
    after.WiredAt driver address ∧
      after.hardwareAt driver address = before.hardwareAt driver address

/-- The wiring stays in order, and one device becomes another one. -/
def Changes (before : World δ) (driver address : String) (hardware : Hardware)
    (after : World δ) : Prop :=
  ∀ driver' address', before.WiredAt driver' address' →
    after.WiredAt driver' address' ∧ after.hardwareAt driver' address' =
      if driver' = driver ∧ address' = address then some hardware
      else before.hardwareAt driver' address'

namespace Preserves

variable {before after : World δ}

theorem of_registry (same : after.registry = before.registry) : before.Preserves after := by
  intro driver address wired
  rw [WiredAt, hardwareAt, same]
  exact ⟨wired, rfl⟩

theorem refl (world : World δ) : world.Preserves world := of_registry rfl

theorem of_set {name : String} {cached cached' : CachedDriver δ}
    (found : before.registry.get name = some cached)
    (isSet : after.registry = before.registry.set name cached')
    (preserves : cached.Preserves cached') : before.Preserves after := by
  intro driver address wired
  by_cases same : driver = name
  · subst same
    have found' : after.registry.get driver = some cached' := by rw [isSet, get_set]
    rcases preserves address (wired cached found) with ⟨wired', sameHardware⟩
    refine ⟨fun other isOther => ?_, ?_⟩
    · exact Option.some.inj (found'.symm.trans isOther) ▸ wired'
    · rw [hardwareAt_eq found', hardwareAt_eq found, sameHardware]
  · have elsewhere : after.registry.get driver = before.registry.get driver := by
      rw [isSet, get_set_ne _ same]
    rw [WiredAt, hardwareAt, elsewhere]
    exact ⟨wired, rfl⟩

theorem wired (preserves : before.Preserves after) (wired : before.Wired) : after.Wired :=
  fun driver address => (preserves driver address (wired driver address)).1

end Preserves

/-! ### What is done to devices -/

theorem preserves_lookAfter (world : World δ) (driver address : String)
    (context : RequestContext) (caller : Caller) :
    world.Preserves (world.lookAfter driver address context caller).1 := by
  cases found : world.registry.get driver with
  | none =>
      rw [lookAfter_missing found]
      exact .refl world
  | some cached =>
      rcases lookAfter_eq found address context caller with ⟨journal, tickets, same⟩
      rw [same]
      exact .of_set found rfl (cached.preserves_poll _ _ _ _ _ _)

theorem tokens_lookAfter (world : World δ) (driver address : String)
    (context : RequestContext) (caller : Caller) :
    (world.lookAfter driver address context caller).1.tokens = world.tokens := by
  cases found : world.registry.get driver with
  | none => rw [lookAfter_missing found]
  | some cached =>
      rcases lookAfter_eq found address context caller with ⟨journal, tickets, same⟩
      rw [same]
      exact cached.tokens_poll _ _ _ _ _ _

theorem preserves_beginCall (world : World δ) (config : DeviceConfig) (context : RequestContext)
    (command : Command) : world.Preserves (world.beginCall config context command).1 := by
  cases found : world.registry.get config.driver with
  | none =>
      simp only [beginCall, found]
      exact .refl world
  | some cached =>
      simp only [beginCall, found]
      exact .of_set found rfl (cached.preserves_beginCall config.address command)

theorem tokens_beginCall (world : World δ) (config : DeviceConfig) (context : RequestContext)
    (command : Command) :
    (world.beginCall config context command).1.tokens = world.tokens := by
  cases found : world.registry.get config.driver with
  | none => simp only [beginCall, found]
  | some cached =>
      simp only [beginCall, found, (Enacts.beginCall cached.driver config.address command).2]
      rfl

/-- What comes of the end of a call. -/
inductive EndsCall (world : World δ) (config : DeviceConfig) (command : Command) :
    World δ × Verdict command → Prop
  | missing (missing : world.registry.get config.driver = none) :
      EndsCall world config command (world, .waiting)
  | disconnected {world' : World δ} {cached : CachedDriver δ}
      (found : world.registry.get config.driver = some cached)
      (nothing : cached.player.hardware? config.address = none)
      (preserves : world.Preserves world') :
      EndsCall world config command (world', .done (.error (.driver notOffered)))
  | connected {world' : World δ} {cached : CachedDriver δ} {hardware : Hardware}
      (found : world.registry.get config.driver = some cached)
      (isHardware : cached.player.hardware? config.address = some hardware)
      (changes : world.Changes config.driver config.address
        (hardware.after config.address command) world') :
      EndsCall world config command
        (world', .done (hardware.deal config.address command).result)

theorem verdict_of_connected {cached : CachedDriver δ} {address : String} {hardware : Hardware}
    (isHardware : cached.player.hardware? address = some hardware) (command : Command) :
    verdict (Driver.finishCall cached.driver address command).2 =
      .done (hardware.deal address command).result := by
  simp only [(CachedDriver.finishCall_of_connected isHardware command).2, Hardware.deal]
  cases hardware.reply address command <;> rfl

theorem finishCall_endsCall (world : World δ) (config : DeviceConfig) (command : Command) :
    world.EndsCall config command (world.finishCall config command) := by
  cases found : world.registry.get config.driver with
  | none =>
      rw [finishCall_missing found]
      exact .missing found
  | some cached =>
      rw [finishCall_eq found]
      cases isHardware : cached.player.hardware? config.address with
      | none =>
          rcases CachedDriver.finishCall_of_disconnected isHardware command with
            ⟨preserves, replied⟩
          rw [replied]
          exact .disconnected found isHardware (.of_set found rfl preserves)
      | some hardware =>
          have changes := (CachedDriver.finishCall_of_connected isHardware command).1
          rw [verdict_of_connected isHardware command]
          refine .connected found isHardware fun driver address wired => ?_
          by_cases same : driver = config.driver
          · subst same
            have found' : ({ world with
                registry := world.registry.set config.driver
                  (cached.finishCall config.address command) } : World δ).registry.get
                    config.driver = some (cached.finishCall config.address command) :=
              get_set _ _ _
            rcases changes address (wired cached found) with ⟨wired', sameHardware⟩
            refine ⟨fun other isOther => ?_, ?_⟩
            · exact Option.some.inj (found'.symm.trans isOther) ▸ wired'
            · refine (hardwareAt_eq found' address).trans ?_
              rw [sameHardware, hardwareAt_eq found]
              by_cases here : address = config.address <;> simp [here]
          · rw [WiredAt, hardwareAt, get_set_ne _ same, if_neg fun both => same both.1]
            exact ⟨wired, rfl⟩

/-- The end of a call changes one device at most. -/
theorem finishCall_changes (world : World δ) (config : DeviceConfig) (command : Command) :
    world.Preserves (world.finishCall config command).1 ∨ ∃ hardware,
      world.Changes config.driver config.address hardware (world.finishCall config command).1 := by
  have ends := world.finishCall_endsCall config command
  generalize world.finishCall config command = ended at ends
  cases ends with
  | missing => exact Or.inl (.refl world)
  | disconnected _ _ preserves => exact Or.inl preserves
  | connected _ _ changes => exact Or.inr ⟨_, changes⟩

/-- Virtual devices do not break down. -/
theorem finishCall_sound (world : World δ) (config : DeviceConfig) (command : Command) :
    (world.finishCall config command).2 ≠ .crashed := by
  have ends := world.finishCall_endsCall config command
  generalize world.finishCall config command = ended at ends
  cases ends <;> simp

omit [Enacts δ] in
theorem tokens_finishCall (world : World δ) (config : DeviceConfig) (command : Command) :
    (world.finishCall config command).1.tokens = world.tokens := by
  cases found : world.registry.get config.driver with
  | none => rw [finishCall_missing found]
  | some cached => rw [finishCall_eq found]

theorem Changes.wired {before after : World δ} {driver address : String} {hardware : Hardware}
    (changes : before.Changes driver address hardware after) (wired : before.Wired) :
    after.Wired :=
  fun driver address => (changes driver address (wired driver address)).1

end World

/-! ### Tasks -/

namespace Task

variable {δ : Type} [Driver δ] [Enacts δ] {task : Task} {context : RequestContext}
  {world world' : World δ} {deal : Option Deal}

/-- What a task does, it does to its own device. -/
theorem Does.elsewhere (does : task.Does context world world' deal) {driver address : String}
    (apart : (task.config.driver, task.config.address) ≠ (driver, address))
    (wired : world.WiredAt driver address) :
    world'.WiredAt driver address ∧
      world'.hardwareAt driver address = world.hardwareAt driver address := by
  cases does with
  | rests => exact ⟨wired, rfl⟩
  | looks caller => exact world.preserves_lookAfter _ _ _ _ driver address wired
  | calls command => exact world.preserves_beginCall _ _ _ driver address wired
  | @finishes deal _ done =>
      have ends := world.finishCall_changes task.config deal.command
      rw [done] at ends
      rcases ends with preserves | ⟨hardware, changes⟩
      · exact preserves driver address wired
      · rcases changes driver address wired with ⟨wired', same⟩
        rw [if_neg fun both => apart (Prod.ext both.1.symm both.2.symm)] at same
        exact ⟨wired', same⟩

theorem Does.wired (does : task.Does context world world' deal) (wired : world.Wired) :
    world'.Wired := by
  cases does with
  | rests => exact wired
  | looks caller => exact (world.preserves_lookAfter _ _ _ _).wired wired
  | calls command => exact (world.preserves_beginCall _ _ _).wired wired
  | @finishes deal _ done =>
      have ends := world.finishCall_changes task.config deal.command
      rw [done] at ends
      rcases ends with preserves | ⟨hardware, changes⟩
      · exact preserves.wired wired
      · exact changes.wired wired

theorem Does.tokens (does : task.Does context world world' deal) :
    world'.tokens = world.tokens := by
  cases does with
  | rests => rfl
  | looks caller => exact world.tokens_lookAfter _ _ _ _
  | calls command => exact world.tokens_beginCall _ _ _
  | @finishes deal _ done =>
      have same := world.tokens_finishCall task.config deal.command
      rwa [done] at same

theorem Stirs.exists_does {result : World δ × Task × Option Outcome}
    (stirs : task.Stirs context world result) :
    ∃ deal : Option Deal, task.Does context world result.1 deal ∧
      result.2.1.findings ++ result.2.2.toList.flatMap Outcome.findings =
        task.findings ++ (deal.bind Deal.finding?).toList :=
  stirs.does fun command => world.finishCall_sound task.config command

end Task

/-! ### Runs -/

namespace Run

variable {δ : Type} [Driver δ] [Enacts δ] {run next : Run δ}

theorem Happens.wired (happens : Happens run next) (wired : run.world.Wired) :
    next.world.Wired := by
  cases happens with
  | arrives => exact wired
  | creates | cancels => exact World.Preserves.wired (.of_registry rfl) wired
  | visits => exact (run.world.preserves_lookAfter _ _ _ _).wired wired
  | @configures name configuration registry configured =>
      rcases Registry.configure_eq_ok configured with ⟨cached, cached', found, accepted, rfl⟩
      exact World.Preserves.wired
        (.of_set found rfl (CachedDriver.preserves_configure accepted)) wired
  | advances advances =>
      cases advances with
      | waits => exact World.Preserves.wired (.of_registry rfl) wired
      | stirs _ _ _ stirs =>
          rcases stirs.exists_does with ⟨deal, does, -⟩
          exact does.wired wired
      | @attends i session isSession =>
          rcases attend_world session run.world with ⟨tokens, -, same⟩
          rw [same]
          exact World.Preserves.wired (.of_registry rfl) wired

theorem Happenings.wired (happenings : run.Happenings next) (wired : run.world.Wired) :
    next.world.Wired := by
  induction happenings with
  | refl => exact wired
  | tail _ happens ih => exact happens.wired ih

/-- No request at work has a task for the device of a driver at an address. -/
def Spares (run : Run δ) (driver address : String) : Prop :=
  ∀ session ∈ run.sessions, ∀ task ∈ session.tasks,
    (task.config.driver, task.config.address) ≠ (driver, address)

end Run

namespace World

/-- All drivers are as they were registered. -/
def Unused (world : World VirtualDriver) : Prop :=
  ∀ name cached, world.registry.get name = some cached →
    ∃ model latency, cached = { driver := { model, latency } }

/-- A world in which things have happened since all drivers were registered. -/
def Reachable (world : World VirtualDriver) : Prop :=
  ∃ start sessions, Unused start ∧
    Run.Happenings { world := start, sessions := [] } { world, sessions }

theorem Unused.wired {world : World VirtualDriver} (unused : world.Unused) : world.Wired := by
  intro driver address cached found
  rcases unused driver cached found with ⟨model, latency, rfl⟩
  refine ⟨rfl, fun _ connected => ?_, fun _ flying => ?_, fun _ _ isAttempt => ?_⟩
  · cases connected
  · cases flying
  · cases isAttempt

theorem Unused.reachable {world : World VirtualDriver} (unused : world.Unused) :
    world.Reachable := ⟨world, [], unused, .refl⟩

theorem unused_labWorld (model : Model) :
    (labWorld ({ model } : VirtualDriver)).Unused := by
  intro name cached found
  simp only [labWorld, Registry.set, Registry.get, SortedMap.get?_insert] at found
  split at found
  · exact ⟨model, 0, (Option.some.inj found).symm⟩
  · cases found

/-- Switch the device of the lab on, and set its level and whether it is silent. -/
def labLevel (level : Int32) (muted : Bool) : StateRequest where
  devices := SortedMap.empty.insert ⟨"D1"⟩
    { poweredOn := some true
      volumes := some (SortedMap.empty.insert "" level)
      mutes := some (SortedMap.empty.insert "" muted) }

theorem Reachable.wired {world : World VirtualDriver} (reachable : world.Reachable) :
    world.Wired := by
  rcases reachable with ⟨start, sessions, unused, happenings⟩
  exact happenings.wired unused.wired

/-- What is reached by serving requests is reachable. -/
theorem Reachable.serve {world : World VirtualDriver} (reachable : world.Reachable)
    (requests : List RoomRequest) (patience : Option Nat) :
    (world.serve requests patience).1.Reachable := by
  rcases reachable with ⟨start, sessions, unused, happenings⟩
  have served := (Run.happenings_serve world requests patience).among sessions
  rw [List.append_nil] at served
  have same : ((world.engage requests).complete patience).world =
      (world.serve requests patience).1 := by
    rw [serve_eq]
    split <;> rfl
  exact ⟨start, _, unused, same ▸ happenings.trans served⟩

end World

end AvControl

import AvControl.Proofs.Driver.Coherence
import AvControl.Proofs.Driver.Separation
import AvControl.Proofs.Virtual.Hardware

/-!
# What a virtual driver is wired to

A virtual driver has a device at every address that it has connected, and a cached one has a handle
exactly there. What matters of a device that is not connected is that it would come out of the box.
However a cached driver is used, its wiring stays in order; and of all that can be done to it only
the end of a call changes a device, since nothing is dialled where a device is connected.
-/

namespace AvControl

open Virtual

/-- A driver that does as a virtual driver does. -/
class Virtual.Enacts (δ : Type) [Driver δ] where
  player : δ → VirtualDriver
  ask (driver : δ) (ask : Ask) : Driver.ask (player driver) ask =
    (player (Driver.ask driver ask).1, (Driver.ask driver ask).2)
  configure (driver : δ) (configuration : Json) :
    Driver.configure (player driver) configuration =
      (Driver.configure driver configuration).map player

instance : Virtual.Enacts VirtualDriver where
  player driver := driver
  ask _ _ := rfl
  configure driver configuration := by
    cases Driver.configure driver configuration <;> rfl

instance {δ : Type} [Driver δ] [Virtual.Enacts δ] : Virtual.Enacts (Recorded δ) where
  player recorded := Virtual.Enacts.player recorded.driver
  ask recorded ask := by
    rw [Virtual.Enacts.ask]
    cases ask <;> rfl
  configure recorded configuration := by
    rw [Virtual.Enacts.configure]
    change _ = ((Driver.configure recorded.driver configuration).map _).map _
    cases Driver.configure recorded.driver configuration <;> rfl

/-! ### Virtual drivers -/

/-- The device at the other end, if it is connected. -/
def Virtual.Link.hardware? : Link → Option Hardware
  | dialing _ => none
  | connected _ hardware => some hardware

namespace VirtualDriver

/-- The device that is connected to an address. -/
def hardware? (driver : VirtualDriver) (address : String) : Option Hardware :=
  (driver.links.get? address).bind Link.hardware?

/-- The device at an address, which is as it comes out of the box until it is connected. -/
def hardwareAt (driver : VirtualDriver) (address : String) : Hardware :=
  (driver.hardware? address).getD driver.model.fresh

theorem hardware?_setLink (driver : VirtualDriver) (address other : String) (link : Link) :
    (driver.setLink address link).hardware? other =
      if other = address then link.hardware? else driver.hardware? other := by
  simp only [hardware?, setLink, SortedMap.get?_insert]
  split <;> rfl

theorem hardware?_connect (driver : VirtualDriver) (address other : String) :
    (driver.connect address).1.hardware? other =
      if other = address ∧ unreachable address = false then some driver.model.fresh
      else driver.hardware? other := by
  unfold connect
  cases unreachable address with
  | true => simp
  | false => simp [hardware?_setLink, Link.hardware?]

@[simp]
theorem model_connect (driver : VirtualDriver) (address : String) :
    (driver.connect address).1.model = driver.model := by
  unfold connect
  split <;> rfl

/-- What whoever opens a device is told. -/
theorem reply_connect (driver : VirtualDriver) (address : String) :
    (driver.connect address).2 =
      if unreachable address then .error { message := "dial " ++ address ++ ": no such host" }
      else .ok driver.model.handle := by
  unfold connect
  split <;> rfl

theorem perform_of_disconnected {driver : VirtualDriver} {address : String}
    (disconnected : driver.hardware? address = none) (command : Command) :
    driver.perform address command = (driver, .error notOffered) := by
  unfold perform
  split
  · rename_i latency hardware isLink
    simp [hardware?, isLink, Link.hardware?] at disconnected
  · rfl

/-- A device that is connected does what is asked of it, and no other device does anything. -/
theorem perform_of_connected {driver : VirtualDriver} {address : String} {hardware : Hardware}
    (connected : driver.hardware? address = some hardware) (command : Command) :
    (driver.perform address command).1.model = driver.model ∧
      (∀ other, (driver.perform address command).1.hardware? other =
        if other = address then some (hardware.after address command)
        else driver.hardware? other) ∧
      (driver.perform address command).2 = match hardware.reply address command with
        | .ok result => .ok result
        | .error error => .error error := by
  rcases Option.bind_eq_some_iff.1 connected with ⟨link, isLink, isHardware⟩
  cases link with
  | dialing => cases isHardware
  | connected latency state =>
      obtain rfl := Option.some.inj isHardware
      simp only [perform, isLink]
      cases replied : state.reply address command with
      | ok result =>
          rw [Hardware.perform_of_reply replied]
          exact ⟨rfl, fun other => hardware?_setLink _ _ _ _, rfl⟩
      | error error =>
          have failed : state.perform address command = .error error := by
            unfold Hardware.reply at replied
            cases performed : state.perform address command with
            | error => simpa [performed, Except.map] using replied
            | ok => simp [performed, Except.map] at replied
          simp only [failed, Hardware.after_of_error replied, true_and, and_true]
          intro other
          split
          · rename_i same
            rw [same, connected]
          · rfl

end VirtualDriver

/-! ### Drivers that do as they do -/

namespace Virtual.Enacts

variable {δ : Type} [Driver δ] [Enacts δ]

theorem beginOpen (driver : δ) (address : String) :
    player (Driver.beginOpen driver address).1 =
        (player driver).setLink address (.dialing (player driver).latency) ∧
      (Driver.beginOpen driver address).2 = VirtualDriver.roundTrip (player driver).latency := by
  have both := Enacts.ask driver (.beginOpen address)
  exact ⟨(congrArg Prod.fst both).symm, (congrArg Prod.snd both).symm⟩

theorem finishOpen (driver : δ) (address : String) :
    player (Driver.finishOpen driver address).1 = ((player driver).connect address).1 ∧
      (Driver.finishOpen driver address).2 = ((player driver).connect address).2 := by
  have both := Enacts.ask driver (.finishOpen address)
  exact ⟨(congrArg Prod.fst both).symm, (congrArg Prod.snd both).symm⟩

theorem beginCall (driver : δ) (address : String) (command : Command) :
    player (Driver.beginCall driver address command).1 = player driver ∧
      (Driver.beginCall driver address command).2 =
        VirtualDriver.roundTrip ((player driver).latencyAt address) := by
  have both := Enacts.ask driver (.beginCall address command)
  exact ⟨(congrArg Prod.fst both).symm, (congrArg Prod.snd both).symm⟩

theorem finishCall (driver : δ) (address : String) (command : Command) :
    player (Driver.finishCall driver address command).1 =
        ((player driver).perform address command).1 ∧
      (Driver.finishCall driver address command).2 =
        ((player driver).perform address command).2 := by
  have both := Enacts.ask driver (.finishCall address command)
  exact ⟨(congrArg Prod.fst both).symm, (congrArg Prod.snd both).symm⟩

end Virtual.Enacts

namespace CachedDriver

variable {δ : Type} [Driver δ] [Enacts δ] {cached : CachedDriver δ} {address : String}

/-- The virtual driver that a cached driver plays. -/
def player (cached : CachedDriver δ) : VirtualDriver := Enacts.player cached.driver

/-- The device at an address. -/
def hardwareAt (cached : CachedDriver δ) (address : String) : Hardware :=
  cached.player.hardwareAt address

/-- What is wired to an address is in order. -/
structure WiredAt (cached : CachedDriver δ) (address : String) : Prop where
  /-- There is a handle exactly where a device is connected. -/
  paired : cached.handles.get? address =
    (cached.player.hardware? address).map fun _ => cached.player.model.handle
  reached : ∀ hardware, cached.player.hardware? address = some hardware →
    VirtualDriver.unreachable address = false ∧ hardware.model = cached.player.model
  rooted : ∀ number, cached.inFlight.get? address = some number →
    cached.handles.get? address = none ∧ ∃ attempt due, cached.attempts[number]? = some attempt ∧
      attempt.address = address ∧ attempt.stage = .waiting (some due) true
  waiting : ∀ (number : Nat) (attempt : Attempt), cached.attempts[number]? = some attempt →
    attempt.address = address → attempt.result? = none →
      cached.inFlight.get? address = some number

namespace WiredAt

theorem handle_eq_none (wired : cached.WiredAt address) :
    cached.handles.get? address = none ↔ cached.player.hardware? address = none := by
  rw [wired.paired, Option.map_eq_none_iff]

/-- Where an attempt waits nothing is connected. -/
theorem disconnected (wired : cached.WiredAt address) {number : Nat} {attempt : Attempt}
    (found : cached.attempts[number]? = some attempt) (here : attempt.address = address)
    (waits : attempt.result? = none) : cached.player.hardware? address = none :=
  wired.handle_eq_none.1 (wired.rooted number (wired.waiting number attempt found here waits)).1

/-- The wiring stays in order where no device and no handle comes or goes. -/
theorem keeps {after : CachedDriver δ} (wired : cached.WiredAt address)
    (model : after.player.model = cached.player.model)
    (hardware : after.player.hardware? address = cached.player.hardware? address)
    (handles : after.handles.get? address = cached.handles.get? address)
    (rooted : ∀ number, after.inFlight.get? address = some number →
      cached.handles.get? address = none ∧ ∃ attempt due,
        after.attempts[number]? = some attempt ∧ attempt.address = address ∧
          attempt.stage = .waiting (some due) true)
    (waiting : ∀ (number : Nat) (attempt : Attempt), after.attempts[number]? = some attempt →
      attempt.address = address → attempt.result? = none →
        after.inFlight.get? address = some number) :
    after.WiredAt address ∧ after.hardwareAt address = cached.hardwareAt address := by
  refine ⟨⟨?_, ?_, handles ▸ rooted, waiting⟩, ?_⟩
  · rw [handles, hardware, model]
    exact wired.paired
  · rw [hardware, model]
    exact wired.reached
  · simp only [hardwareAt, VirtualDriver.hardwareAt, hardware, model]

end WiredAt

/-- The wiring stays in order, and every device stays as it is. -/
def Preserves (before after : CachedDriver δ) : Prop :=
  ∀ address, before.WiredAt address →
    after.WiredAt address ∧ after.hardwareAt address = before.hardwareAt address

namespace Preserves

theorem refl (cached : CachedDriver δ) : cached.Preserves cached :=
  fun _ wired => ⟨wired, rfl⟩

theorem trans {first middle last : CachedDriver δ} (earlier : first.Preserves middle)
    (later : middle.Preserves last) : first.Preserves last := by
  intro address wired
  rcases earlier address wired with ⟨wired', same⟩
  rcases later address wired' with ⟨wired'', same'⟩
  exact ⟨wired'', same'.trans same⟩

/-- Changes to the driver that connect and disconnect nothing. -/
theorem of_player {driver : δ} (model : (Enacts.player driver).model = cached.player.model)
    (hardware : ∀ address, (Enacts.player driver).hardware? address =
      cached.player.hardware? address) :
    cached.Preserves { cached with driver } :=
  fun address wired => wired.keeps model (hardware address) rfl wired.rooted wired.waiting

end Preserves

/-! ### Openings -/

/-- What the end of an attempt comes to: a new device, or none. -/
def Connects (cached : CachedDriver δ) (address : String) (driver : δ)
    (result : Except DriverError Handle) : Prop :=
  (Enacts.player driver).model = cached.player.model ∧
    (∀ other, other ≠ address →
      (Enacts.player driver).hardware? other = cached.player.hardware? other) ∧
    ((∃ error, result = .error error) ∧
        (Enacts.player driver).hardware? address = cached.player.hardware? address ∨
      result = .ok cached.player.model.handle ∧ VirtualDriver.unreachable address = false ∧
        (Enacts.player driver).hardware? address = some cached.player.model.fresh)

omit [Driver δ] [Enacts δ] in
/-- What waits after the end of an attempt is another one, which has waited before. -/
theorem waiting_conclude {number other : Nat} {attempt attempt' : Attempt} {driver : δ}
    {result : Except DriverError Handle} (found : cached.attempts[number]? = some attempt)
    (found' : (({ cached with driver } : CachedDriver δ).conclude number address
      result).attempts[other]? = some attempt') (waits : attempt'.result? = none) :
    other ≠ number ∧ cached.attempts[other]? = some attempt' := by
  have isThere : ({ cached with driver } : CachedDriver δ).attempts[number]? = some attempt := found
  rw [getElem?_conclude isThere] at found'
  split at found'
  · obtain rfl := Option.some.inj found'
    cases waits
  · exact ⟨‹_›, found'⟩

namespace Connects

variable {number : Nat} {attempt : Attempt} {driver : δ} {result : Except DriverError Handle}

/-- Where an attempt ends, its device is connected, or could not be reached. -/
theorem preserves_here (connects : cached.Connects attempt.address driver result)
    (found : cached.attempts[number]? = some attempt) (waits : attempt.result? = none)
    (wired : cached.WiredAt attempt.address) {after : CachedDriver δ}
    (isAfter : after = ({ cached with driver } : CachedDriver δ).conclude number attempt.address
      result) :
    after.WiredAt attempt.address ∧
      after.hardwareAt attempt.address = cached.hardwareAt attempt.address := by
  rcases connects with ⟨model, -, here⟩
  have samePlayer : after.player = Enacts.player driver := by
    rw [isAfter]
    rfl
  have disconnected := wired.disconnected found rfl waits
  have noHandle := wired.handle_eq_none.2 disconnected
  have nothing : after.inFlight.get? attempt.address = none := by
    rw [isAfter, get?_inFlight_conclude, if_pos rfl]
  have handle : after.handles.get? attempt.address = result.toOption := by
    rw [isAfter, get?_handles_conclude, if_pos rfl]
    exact (congrArg _ noHandle).trans (Option.or_none)
  have noneWaits : ∀ (other : Nat) (attempt' : Attempt),
      after.attempts[other]? = some attempt' → attempt'.address = attempt.address →
      attempt'.result? = none → after.inFlight.get? attempt.address = some other := by
    intro other attempt' found' there waits'
    rw [isAfter] at found'
    rcases waiting_conclude found found' waits' with ⟨differs, isOld⟩
    have flying := wired.waiting other attempt' isOld there waits'
    rw [wired.waiting number attempt found rfl waits] at flying
    exact absurd (Option.some.inj flying).symm differs
  rcases here with ⟨⟨error, rfl⟩, unconnected⟩ | ⟨rfl, reachable, connected⟩
  · exact wired.keeps (samePlayer ▸ model) (samePlayer ▸ unconnected) (handle.trans noHandle.symm)
      (by simp [nothing]) noneWaits
  · refine ⟨⟨?_, ?_, by simp [nothing], noneWaits⟩, ?_⟩
    · rw [handle, samePlayer, connected, model]
      rfl
    · intro hardware isHardware
      rw [samePlayer, connected] at isHardware
      obtain rfl := Option.some.inj isHardware
      refine ⟨reachable, ?_⟩
      rw [samePlayer, model]
      cases cached.player.model <;> rfl
    · simp [hardwareAt, VirtualDriver.hardwareAt, samePlayer, connected, disconnected]

theorem preserves_elsewhere (connects : cached.Connects attempt.address driver result)
    (found : cached.attempts[number]? = some attempt) (wired : cached.WiredAt address)
    (differs : address ≠ attempt.address) {after : CachedDriver δ}
    (isAfter : after = ({ cached with driver } : CachedDriver δ).conclude number attempt.address
      result) :
    after.WiredAt address ∧ after.hardwareAt address = cached.hardwareAt address := by
  rcases connects with ⟨model, elsewhere, -⟩
  have samePlayer : after.player = Enacts.player driver := by
    rw [isAfter]
    rfl
  have handles : after.handles.get? address = cached.handles.get? address := by
    rw [isAfter, get?_handles_conclude, if_neg differs]
  have inFlight : after.inFlight.get? address = cached.inFlight.get? address := by
    rw [isAfter, get?_inFlight_conclude, if_neg differs]
  refine wired.keeps (samePlayer ▸ model) (samePlayer ▸ elsewhere address differs) handles
    (fun other flying => ?_) fun other attempt' found' there waits' => ?_
  · rw [inFlight] at flying
    rcases wired.rooted other flying with ⟨noHandle, attempt', due, isAttempt, there, stage⟩
    refine ⟨noHandle, attempt', due, ?_, there, stage⟩
    have isThere : ({ cached with driver } : CachedDriver δ).attempts[number]? = some attempt :=
      found
    rw [isAfter, getElem?_conclude isThere, if_neg]
    · exact isAttempt
    · rintro rfl
      obtain rfl := Option.some.inj (found.symm.trans isAttempt)
      exact differs there.symm
  · rw [isAfter] at found'
    rw [inFlight]
    exact wired.waiting other attempt' (waiting_conclude found found' waits').2 there waits'

/-- The end of an attempt leaves every device as it is, be it connected now or before. -/
theorem preserves (connects : cached.Connects attempt.address driver result)
    (found : cached.attempts[number]? = some attempt) (waits : attempt.result? = none) :
    cached.Preserves (({ cached with driver } : CachedDriver δ).conclude number attempt.address
      result) := by
  intro address wired
  by_cases here : address = attempt.address
  · subst here
    exact connects.preserves_here found waits wired rfl
  · exact connects.preserves_elsewhere found wired here rfl

end Connects

theorem connects_failed (cached : CachedDriver δ) (address : String) (error : DriverError) :
    cached.Connects address cached.driver (.error error) :=
  ⟨rfl, fun _ _ => rfl, Or.inl ⟨⟨_, rfl⟩, rfl⟩⟩

/-- When the wait of an attempt is over, a device is connected if it can be reached. -/
theorem connects_finishOpen (cached : CachedDriver δ) (address : String) :
    cached.Connects address (Driver.finishOpen cached.driver address).1
      (match (Driver.finishOpen cached.driver address).2 with
        | .ok handle => .ok handle
        | .error error => .error error
        | .crash => .error crashed) := by
  rcases Enacts.finishOpen cached.driver address with ⟨isPlayer, isReply⟩
  rw [Connects, isPlayer, isReply, VirtualDriver.reply_connect]
  refine ⟨VirtualDriver.model_connect _ _, fun other differs => ?_, ?_⟩
  · rw [VirtualDriver.hardware?_connect, if_neg fun both => differs both.1]
    rfl
  · rw [VirtualDriver.hardware?_connect]
    cases reachable : VirtualDriver.unreachable address with
    | true => exact Or.inl ⟨⟨_, rfl⟩, by simp [player]⟩
    | false => exact Or.inr ⟨rfl, rfl, by simp [player]⟩

theorem preserves_advance (cached : CachedDriver δ) (tokens : Tokens) (now number : Nat) :
    cached.Preserves (cached.advance tokens now number) := by
  simp only [advance]
  split
  · exact .refl _
  · rename_i attempt found
    split
    · exact .refl _
    · rename_i due heedsContext waiting
      have waits : attempt.result? = none := by simp [Attempt.result?, waiting]
      split
      · exact (cached.connects_finishOpen attempt.address).preserves found waits
      · split
        · split
          · exact (cached.connects_failed attempt.address _).preserves found waits
          · exact .refl _
        · exact .refl _

/-- An attempt begins where nothing is connected and no other attempt waits. -/
theorem preserves_begin (cached : CachedDriver δ) (attempt : Attempt)
    (waits : ∃ due, attempt.stage = .waiting (some due) true)
    (noHandle : cached.handles.get? attempt.address = none)
    (grounded : cached.inFlight.get? attempt.address = none) :
    cached.Preserves { cached with
      driver := (Driver.beginOpen cached.driver attempt.address).1
      attempts := cached.attempts ++ [attempt]
      inFlight := cached.inFlight.insert attempt.address cached.attempts.length } := by
  intro address wired
  generalize isAfter : ({ cached with
    driver := (Driver.beginOpen cached.driver attempt.address).1
    attempts := cached.attempts ++ [attempt]
    inFlight := cached.inFlight.insert attempt.address cached.attempts.length } :
      CachedDriver δ) = after
  have samePlayer : after.player = cached.player.setLink attempt.address
      (.dialing cached.player.latency) := by
    rw [← isAfter]
    exact (Enacts.beginOpen cached.driver attempt.address).1
  have hardware : after.player.hardware? address = cached.player.hardware? address := by
    rw [samePlayer, VirtualDriver.hardware?_setLink]
    split
    · rename_i same
      subst same
      exact (wired.handle_eq_none.1 noHandle).symm
    · rfl
  have attempts : ∀ (number : Nat) (attempt' : Attempt), after.attempts[number]? = some attempt' ↔
      cached.attempts[number]? = some attempt' ∨
        number = cached.attempts.length ∧ attempt = attempt' := by
    intro number attempt'
    rw [← isAfter]
    exact getElem?_concat_eq_some
  have inFlight : after.inFlight.get? address =
      if address = attempt.address then some cached.attempts.length
      else cached.inFlight.get? address := by
    rw [← isAfter]
    exact SortedMap.get?_insert _ _ _ _
  refine wired.keeps (by rw [samePlayer]; rfl) hardware (by rw [← isAfter])
    (fun number flying => ?_) fun number attempt' found there waits' => ?_
  · rw [inFlight] at flying
    split at flying
    · rename_i same
      rcases waits with ⟨due, stage⟩
      refine ⟨same ▸ noHandle, attempt, due, ?_, same.symm, stage⟩
      exact (attempts number attempt).2 (Or.inr ⟨(Option.some.inj flying).symm, rfl⟩)
    · rcases wired.rooted number flying with ⟨noHandle', attempt', due, isAttempt, there, stage⟩
      exact ⟨noHandle', attempt', due, (attempts number attempt').2 (Or.inl isAttempt), there,
        stage⟩
  · rw [inFlight]
    rcases (attempts number attempt').1 found with isOld | ⟨rfl, rfl⟩
    · have flying := wired.waiting number attempt' isOld there waits'
      rw [if_neg, flying]
      rintro rfl
      rw [grounded] at flying
      cases flying
    · rw [if_pos there.symm]

theorem preserves_start (cached : CachedDriver δ) (tokens : Tokens) (now ticket : Nat)
    (context : RequestContext) {address : String} (noHandle : cached.handles.get? address = none)
    (grounded : cached.inFlight.get? address = none) :
    cached.Preserves (cached.start tokens now ticket context address).1 := by
  have reaction := (Enacts.beginOpen cached.driver address).2
  let attempt : Attempt := {
    address, context, ticket
    stage := .waiting ((Driver.beginOpen cached.driver address).2.wait.due now)
      (Driver.beginOpen cached.driver address).2.heedsContext }
  have waits : ∃ due, attempt.stage = .waiting (some due) true := by
    simp only [attempt, reaction]
    exact ⟨_, rfl⟩
  have begins := cached.preserves_begin attempt waits noHandle grounded
  refine begins.trans ?_
  unfold start
  dsimp only
  split
  · exact (connects_failed _ attempt.address _).preserves List.getElem?_concat_length rfl
  · exact preserves_advance _ _ _ _

/-- Looking after somebody who wants a device opened changes no device. -/
theorem preserves_poll (cached : CachedDriver δ) (tokens : Tokens) (now ticket : Nat)
    (context : RequestContext) (address : String) (caller : Caller) :
    cached.Preserves (cached.poll tokens now ticket context address caller).cached := by
  simp only [poll]
  split
  · exact .refl _
  · exact cached.preserves_advance tokens now _
  · split
    · exact .refl _
    · split
      · exact cached.preserves_advance tokens now _
      · exact cached.preserves_start tokens now ticket context ‹_› ‹_›

theorem tokens_poll (cached : CachedDriver δ) (tokens : Tokens) (now ticket : Nat)
    (context : RequestContext) (address : String) (caller : Caller) :
    (cached.poll tokens now ticket context address caller).tokens = tokens := by
  have reaction := (Enacts.beginOpen cached.driver address).2
  simp only [poll]
  split
  · rfl
  · rfl
  · split
    · rfl
    · split
      · rfl
      · unfold start
        dsimp only
        rw [reaction]
        split <;> rfl

theorem preserves_configure {configuration : Json} {after : CachedDriver δ}
    (configured : cached.configure configuration = .ok after) : cached.Preserves after := by
  rcases exists_of_map_eq_ok configured with ⟨driver, accepted, rfl⟩
  have enacted := Enacts.configure cached.driver configuration
  rw [accepted] at enacted
  rcases exists_of_map_eq_ok enacted with ⟨latency, -, same⟩
  refine .of_player ?_ fun address => ?_
  · rw [← same]
    rfl
  · rw [← same]
    rfl

theorem preserves_beginCall (cached : CachedDriver δ) (address : String) (command : Command) :
    cached.Preserves
      { cached with driver := (Driver.beginCall cached.driver address command).1 } := by
  have same := (Enacts.beginCall cached.driver address command).1
  exact .of_player (by rw [same]; rfl) fun other => by rw [same]; rfl

/-! ### Calls -/

/-- The cached driver after the end of a call. -/
def finishCall (cached : CachedDriver δ) (address : String) (command : Command) :
    CachedDriver δ :=
  { cached with driver := (Driver.finishCall cached.driver address command).1 }

theorem finishCall_of_disconnected (disconnected : cached.player.hardware? address = none)
    (command : Command) : cached.Preserves (cached.finishCall address command) ∧
      (Driver.finishCall cached.driver address command).2 = .error notOffered := by
  rcases Enacts.finishCall cached.driver address command with ⟨isPlayer, isReply⟩
  have nothing := VirtualDriver.perform_of_disconnected disconnected command
  rw [player] at nothing
  rw [nothing] at isPlayer isReply
  exact ⟨.of_player (by rw [isPlayer]; rfl) fun other => by rw [isPlayer]; rfl, isReply⟩

/-- A call of a device that is connected has it do what is asked of it, and no other device. -/
theorem finishCall_of_connected {hardware : Hardware}
    (connected : cached.player.hardware? address = some hardware) (command : Command) :
    (∀ other, cached.WiredAt other → (cached.finishCall address command).WiredAt other ∧
      (cached.finishCall address command).hardwareAt other =
        if other = address then hardware.after address command else cached.hardwareAt other) ∧
      (Driver.finishCall cached.driver address command).2 =
        match hardware.reply address command with
          | .ok result => .ok result
          | .error error => .error error := by
  rcases Enacts.finishCall cached.driver address command with ⟨isPlayer, isReply⟩
  rcases VirtualDriver.perform_of_connected connected command with ⟨model, others, replies⟩
  have isPlayer' : (cached.finishCall address command).player =
      (cached.player.perform address command).1 := isPlayer
  refine ⟨fun other wired => ?_, isReply.trans replies⟩
  have here := others other
  rw [← isPlayer'] at here model
  refine ⟨⟨?_, ?_, wired.rooted, wired.waiting⟩, ?_⟩
  · refine wired.paired.trans ?_
    rw [here, model]
    split
    · rename_i same
      rw [same, connected]
      rfl
    · rfl
  · intro state isState
    rw [model]
    rw [here] at isState
    split at isState
    · rename_i same
      obtain rfl := Option.some.inj isState
      rw [Hardware.model_after]
      exact wired.reached hardware (same ▸ connected)
    · exact wired.reached state isState
  · simp only [hardwareAt, VirtualDriver.hardwareAt, here, model]
    split <;> rfl

end CachedDriver

end AvControl

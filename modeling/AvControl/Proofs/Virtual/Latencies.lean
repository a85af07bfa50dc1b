import AvControl.Proofs.Virtual.Configuration
import AvControl.Proofs.Virtual.Wiring

/-!
# How long the devices of a virtual driver take

The latency of a virtual driver is read once for each device, when an attempt to open it begins.
From then on it belongs to the connection: it is what the attempt waits for, and once the device is
connected it is what every call of it takes. Looking after a caller ends an attempt, or begins one
that it may end at once; neither touches the latency of any other connection, so each attempt keeps
the one with which it began.
-/

namespace AvControl

open Virtual

namespace VirtualDriver

variable {driver : VirtualDriver} {address other : String} {latency : Nat}

/-- The latency of the connection to an address, if there is one. -/
def linked? (driver : VirtualDriver) (address : String) : Option Nat :=
  (driver.links.get? address).map Link.latency

theorem latencyAt_of_linked (linked : driver.linked? address = some latency) :
    driver.latencyAt address = latency := by
  rcases Option.map_eq_some_iff.1 linked with ⟨link, isLink, same⟩
  simp only [latencyAt, isLink, same]

theorem linked?_setLink (driver : VirtualDriver) (address other : String) (link : Link) :
    (driver.setLink address link).linked? other =
      if other = address then some link.latency else driver.linked? other := by
  simp only [linked?, setLink, SortedMap.get?_insert]
  split <;> rfl

theorem linked_connect (linked : driver.linked? other = some latency) :
    (driver.connect address).1.linked? other = some latency := by
  unfold connect
  split
  · exact linked
  · rw [linked?_setLink]
    split
    · rename_i same
      subst same
      simp only [Link.latency, latencyAt_of_linked linked]
    · exact linked

theorem latency_connect (driver : VirtualDriver) (address : String) :
    (driver.connect address).1.latency = driver.latency := by
  unfold connect
  split <;> rfl

/-- Calls change what a device is set to, and not how it is connected. -/
theorem linked?_perform (driver : VirtualDriver) (address other : String) (command : Command) :
    (driver.perform address command).1.linked? other = driver.linked? other := by
  unfold perform
  split
  · rename_i latency hardware isLink
    split
    · rw [linked?_setLink]
      split
      · rename_i same
        simp [linked?, same, isLink, Link.latency]
      · rfl
    · rfl
  · rfl

theorem latency_perform (driver : VirtualDriver) (address : String) (command : Command) :
    (driver.perform address command).1.latency = driver.latency := by
  unfold perform
  split
  · split <;> rfl
  · rfl

end VirtualDriver

/-- The beginning of an attempt: where and when, and the latency of the driver at this time. -/
structure Opening where
  address : String
  time : Nat
  latency : Nat

namespace CachedDriver

/-- What looking after a caller at a time may do, and the attempts that it begins. -/
inductive Proceeds (now : Nat) :
    CachedDriver VirtualDriver → List Opening → CachedDriver VirtualDriver → Prop
  | rests (cached : CachedDriver VirtualDriver) : Proceeds now cached [] cached
  | ends {cached : CachedDriver VirtualDriver} {number : Nat} {attempt : Attempt}
      {driver : VirtualDriver} {result : Except DriverError Handle}
      (found : cached.attempts[number]? = some attempt) (waits : attempt.result? = none)
      (connects : cached.Connects attempt.address driver result)
      (linked : ∀ address latency, cached.driver.linked? address = some latency →
        driver.linked? address = some latency)
      (latency : driver.latency = cached.driver.latency) :
    Proceeds now cached [] (({ cached with driver } : CachedDriver VirtualDriver).conclude number
      attempt.address result)
  | begins {cached after : CachedDriver VirtualDriver} {attempt : Attempt}
      (unhandled : cached.handles.get? attempt.address = none)
      (grounded : cached.inFlight.get? attempt.address = none)
      (stage : attempt.stage = .waiting (some (now + cached.driver.latency)) true)
      (proceeds : Proceeds now { cached with
        driver := cached.driver.setLink attempt.address (.dialing cached.driver.latency)
        attempts := cached.attempts ++ [attempt]
        inFlight := cached.inFlight.insert attempt.address cached.attempts.length } [] after) :
    Proceeds now cached [⟨attempt.address, now, cached.driver.latency⟩] after

variable {cached after : CachedDriver VirtualDriver} {now : Nat} {openings begun : List Opening}

theorem proceeds_advance (cached : CachedDriver VirtualDriver) (tokens : Tokens)
    (now number : Nat) : Proceeds now cached [] (cached.advance tokens now number) := by
  unfold advance
  split
  · exact .rests cached
  · rename_i attempt found
    split
    · exact .rests cached
    · rename_i due heedsContext waiting
      have waits : attempt.result? = none := by simp [Attempt.result?, waiting]
      split
      · exact .ends found waits (cached.connects_finishOpen attempt.address)
          (fun _ _ => VirtualDriver.linked_connect) (VirtualDriver.latency_connect _ _)
      · split
        · split
          · exact .ends found waits (cached.connects_failed attempt.address _)
              (fun _ _ linked => linked) rfl
          · exact .rests cached
        · exact .rests cached

theorem proceeds_start (cached : CachedDriver VirtualDriver) (tokens : Tokens) (now ticket : Nat)
    (context : RequestContext) {address : String} (unhandled : cached.handles.get? address = none)
    (grounded : cached.inFlight.get? address = none) :
    Proceeds now cached [⟨address, now, cached.driver.latency⟩]
      (cached.start tokens now ticket context address).1 := by
  let attempt : Attempt := {
    address, context, ticket, stage := .waiting (some (now + cached.driver.latency)) true }
  have unhandled' : cached.handles.get? attempt.address = none := unhandled
  refine .begins unhandled' grounded rfl ?_
  unfold start
  dsimp only
  split
  · exact .ends List.getElem?_concat_length rfl (connects_failed _ attempt.address _)
      (fun _ _ linked => linked) rfl
  · exact proceeds_advance _ _ _ _

/-- Looking after a caller begins an attempt exactly when it says so. -/
theorem proceeds_poll (cached : CachedDriver VirtualDriver) (tokens : Tokens) (now ticket : Nat)
    (context : RequestContext) (address : String) (caller : Caller) :
    Proceeds now cached
      (if (cached.poll tokens now ticket context address caller).started then
        [⟨address, now, cached.driver.latency⟩] else [])
      (cached.poll tokens now ticket context address caller).cached := by
  unfold poll
  split
  · exact .rests cached
  · exact cached.proceeds_advance tokens now _
  · split
    · exact .rests cached
    · split
      · exact cached.proceeds_advance tokens now _
      · exact cached.proceeds_start tokens now ticket context ‹_› ‹_›

namespace Proceeds

theorem latency (proceeds : Proceeds now cached begun after) :
    after.driver.latency = cached.driver.latency := by
  induction proceeds with
  | rests => rfl
  | ends _ _ _ _ latency => exact latency
  | begins _ _ _ _ ih => exact ih

end Proceeds

/-! ### Attempts -/

/-- Every attempt stays as it is, or ends. -/
def Lasts (before after : CachedDriver VirtualDriver) : Prop :=
  ∀ (number : Nat) (attempt : Attempt), before.attempts[number]? = some attempt →
    after.attempts[number]? = some attempt ∨
      attempt.result? = none ∧ ∃ result, after.attempts[number]? = some (attempt.ended result)

namespace Lasts

theorem refl (cached : CachedDriver VirtualDriver) : cached.Lasts cached :=
  fun _ _ found => Or.inl found

theorem trans {first middle last : CachedDriver VirtualDriver} (earlier : first.Lasts middle)
    (later : middle.Lasts last) : first.Lasts last := by
  intro number attempt found
  rcases earlier number attempt found with same | ⟨waits, result, ended⟩
  · exact later number attempt same
  · right
    refine ⟨waits, result, ?_⟩
    rcases later number _ ended with same | ⟨waits', -⟩
    · exact same
    · cases waits'

end Lasts

theorem Proceeds.lasts (proceeds : Proceeds now cached begun after) : cached.Lasts after := by
  induction proceeds with
  | rests cached => exact .refl cached
  | @ends cached number attempt driver result found waits =>
      intro other attempt' found'
      have isThere : ({ cached with driver } : CachedDriver VirtualDriver).attempts[number]? =
          some attempt := found
      rw [getElem?_conclude isThere]
      by_cases same : other = number
      · subst same
        obtain rfl := Option.some.inj (found.symm.trans found')
        exact Or.inr ⟨waits, result, if_pos rfl⟩
      · exact Or.inl ((if_neg same).trans found')
  | begins _ _ _ _ ih =>
      intro number attempt found
      exact ih number attempt (getElem?_concat_eq_some.2 (Or.inl found))

/-- An attempt keeps the latency with which it began. -/
structure Pays (cached : CachedDriver VirtualDriver) (attempt : Attempt) (opening : Opening) :
    Prop where
  address : opening.address = attempt.address
  waits : ∀ due heedsContext, attempt.stage = .waiting due heedsContext →
    due = some (opening.time + opening.latency) ∧ heedsContext = true
  /-- Its connection has this latency, unless the attempt has failed. -/
  linked : (∀ error, attempt.result? ≠ some (.error error)) →
    cached.driver.linked? attempt.address = some opening.latency

/-- All attempts keep the latencies with which they began, and so do the devices. -/
structure Timed (cached : CachedDriver VirtualDriver) (openings : List Opening) : Prop where
  wired : ∀ address, cached.WiredAt address
  counted : openings.length = cached.attempts.length
  pays : ∀ (number : Nat) (attempt : Attempt) (opening : Opening),
    cached.attempts[number]? = some attempt → openings[number]? = some opening →
      cached.Pays attempt opening
  /-- There is a handle exactly where an attempt has yielded one. -/
  kept : ∀ address handle, cached.handles.get? address = some handle ↔
    ∃ (number : Nat) (attempt : Attempt), cached.attempts[number]? = some attempt ∧
      attempt.address = address ∧ attempt.result? = some (.ok handle)

namespace Timed

theorem fresh (model : Model) (latency : Nat) : Timed { driver := { model, latency } } [] where
  wired address := by
    refine ⟨rfl, fun _ connected => ?_, fun _ flying => ?_, fun _ _ isAttempt => ?_⟩
    · cases connected
    · cases flying
    · cases isAttempt
  counted := rfl
  pays _ _ _ isAttempt := by cases isAttempt
  kept address handle := by
    constructor
    · intro handled
      cases handled
    · rintro ⟨_, _, isAttempt, -⟩
      cases isAttempt

theorem unhandled (timed : cached.Timed openings) {number : Nat} {attempt : Attempt}
    (found : cached.attempts[number]? = some attempt) (waits : attempt.result? = none) :
    cached.handles.get? attempt.address = none :=
  ((timed.wired attempt.address).rooted number
    ((timed.wired attempt.address).waiting number attempt found rfl waits)).1

/-- The driver may change as it likes where nothing is connected. -/
theorem keeps (timed : cached.Timed openings) {driver : VirtualDriver}
    (wired : ∀ address, ({ cached with driver } : CachedDriver VirtualDriver).WiredAt address)
    (linked : ∀ address latency, cached.driver.linked? address = some latency →
      driver.linked? address = some latency) :
    ({ cached with driver } : CachedDriver VirtualDriver).Timed openings where
  wired := wired
  counted := timed.counted
  pays number attempt opening found isOpening := by
    have pays := timed.pays number attempt opening found isOpening
    exact ⟨pays.address, pays.waits, fun unfailed => linked _ _ (pays.linked unfailed)⟩
  kept := timed.kept

theorem ends (timed : cached.Timed openings) {number : Nat} {attempt : Attempt}
    {driver : VirtualDriver} {result : Except DriverError Handle}
    (found : cached.attempts[number]? = some attempt) (waits : attempt.result? = none)
    (connects : cached.Connects attempt.address driver result)
    (linked : ∀ address latency, cached.driver.linked? address = some latency →
      driver.linked? address = some latency) :
    (({ cached with driver } : CachedDriver VirtualDriver).conclude number attempt.address
      result).Timed openings := by
  have isThere : ({ cached with driver } : CachedDriver VirtualDriver).attempts[number]? =
      some attempt := found
  have after := getElem?_conclude isThere attempt.address result
  constructor
  case wired => exact fun address => (connects.preserves found waits address (timed.wired _)).1
  case counted => simpa [conclude] using timed.counted
  case pays =>
    intro other attempt' opening found' isOpening
    rw [after] at found'
    split at found'
    · rename_i same
      subst same
      obtain rfl := Option.some.inj found'
      have pays := timed.pays other attempt opening found isOpening
      have unfailed : ∀ error, attempt.result? ≠ some (.error error) := by simp [waits]
      refine ⟨pays.address, fun due heedsContext stage => ?_, fun _ => ?_⟩
      · cases stage
      · exact linked _ _ (pays.linked unfailed)
    · have pays := timed.pays other attempt' opening found' isOpening
      exact ⟨pays.address, pays.waits, fun unfailed => linked _ _ (pays.linked unfailed)⟩
  case kept =>
    intro address handle
    rw [get?_handles_conclude]
    by_cases here : address = attempt.address
    · subst here
      rw [if_pos rfl, timed.unhandled found waits, Option.or_none]
      constructor
      · intro yields
        have isOk : result = .ok handle := by
          cases result with
          | error => cases yields
          | ok => exact congrArg _ (Option.some.inj yields)
        exact ⟨number, attempt.ended result, by rw [after, if_pos rfl], rfl, by simp [isOk]⟩
      · rintro ⟨other, attempt', found', there, yields⟩
        rw [after] at found'
        split at found'
        · obtain rfl := Option.some.inj found'
          obtain rfl := Option.some.inj yields
          rfl
        · have handled := (timed.kept _ _).2 ⟨other, attempt', found', there, yields⟩
          cases (timed.unhandled found waits).symm.trans handled
    · rw [if_neg here, timed.kept]
      refine exists_congr fun other => exists_congr fun attempt' => ?_
      rw [after]
      split
      · rename_i same
        subst same
        constructor
        · rintro ⟨found', there, -⟩
          obtain rfl := Option.some.inj (found.symm.trans found')
          exact absurd there.symm here
        · rintro ⟨found', there, -⟩
          obtain rfl := Option.some.inj found'
          exact absurd there.symm here
      · rfl

theorem begins (timed : cached.Timed openings) {attempt : Attempt}
    (unhandled : cached.handles.get? attempt.address = none)
    (grounded : cached.inFlight.get? attempt.address = none)
    (stage : attempt.stage = .waiting (some (now + cached.driver.latency)) true) :
    ({ cached with
      driver := cached.driver.setLink attempt.address (.dialing cached.driver.latency)
      attempts := cached.attempts ++ [attempt]
      inFlight := cached.inFlight.insert attempt.address cached.attempts.length } :
        CachedDriver VirtualDriver).Timed
      (openings ++ [⟨attempt.address, now, cached.driver.latency⟩]) := by
  have unended : attempt.result? = none := by simp [Attempt.result?, stage]
  constructor
  case wired =>
    intro address
    exact (cached.preserves_begin attempt ⟨_, stage⟩ unhandled grounded address
      (timed.wired address)).1
  case counted => simp [timed.counted]
  case pays =>
    intro number attempt' opening found isOpening
    rcases getElem?_concat_eq_some.1 found with isOld | ⟨rfl, rfl⟩
    · have inside : number < openings.length := by
        rw [timed.counted]
        exact (List.getElem?_eq_some_iff.1 isOld).1
      rw [List.getElem?_append_left inside] at isOpening
      have pays := timed.pays number attempt' opening isOld isOpening
      refine ⟨pays.address, pays.waits, fun unfailed => ?_⟩
      rw [VirtualDriver.linked?_setLink, if_neg]
      · exact pays.linked unfailed
      · intro here
        cases ended : attempt'.result? with
        | none =>
            have flying := (timed.wired _).waiting number attempt' isOld rfl ended
            cases grounded.symm.trans (here ▸ flying)
        | some result =>
            cases result with
            | error error => exact unfailed error ended
            | ok handle =>
                have handled := (timed.kept _ _).2 ⟨number, attempt', isOld, here, ended⟩
                cases unhandled.symm.trans handled
    · rw [← timed.counted, List.getElem?_concat_length] at isOpening
      obtain rfl := Option.some.inj isOpening
      refine ⟨rfl, fun due heedsContext isStage => ?_, fun _ => ?_⟩
      · cases stage.symm.trans isStage
        exact ⟨rfl, rfl⟩
      · rw [VirtualDriver.linked?_setLink, if_pos rfl, Link.latency]
  case kept =>
    intro address handle
    rw [timed.kept]
    refine exists_congr fun number => exists_congr fun attempt' => ?_
    rw [getElem?_concat_eq_some]
    constructor
    · rintro ⟨isOld, there, yields⟩
      exact ⟨Or.inl isOld, there, yields⟩
    · rintro ⟨isOld | ⟨-, rfl⟩, there, yields⟩
      · exact ⟨isOld, there, yields⟩
      · cases unended.symm.trans yields

theorem proceeds (proceeds : Proceeds now cached begun after) :
    ∀ {openings : List Opening}, cached.Timed openings → after.Timed (openings ++ begun) := by
  induction proceeds with
  | rests =>
      intro openings timed
      simpa using timed
  | ends found waits connects linked =>
      intro openings timed
      simpa using timed.ends found waits connects linked
  | begins unhandled grounded stage _ ih =>
      intro openings timed
      simpa using ih (timed.begins unhandled grounded stage)

theorem told (timed : cached.Timed openings) (latency : Nat) :
    ({ cached with driver := { cached.driver with latency } } :
      CachedDriver VirtualDriver).Timed openings := by
  have preserves : cached.Preserves { cached with driver := { cached.driver with latency } } :=
    .of_player rfl fun _ => rfl
  exact timed.keeps (fun address => (preserves address (timed.wired address)).1)
    fun _ _ linked => linked

theorem finishCall (timed : cached.Timed openings) (address : String) (command : Command) :
    (cached.finishCall address command).Timed openings := by
  refine timed.keeps (fun other => ?_) fun other latency linked => ?_
  · cases isHardware : cached.player.hardware? address with
    | none => exact ((finishCall_of_disconnected isHardware command).1 other (timed.wired other)).1
    | some hardware =>
        exact ((finishCall_of_connected isHardware command).1 other (timed.wired other)).1
  · exact (VirtualDriver.linked?_perform _ _ _ _).trans linked

theorem exists_opening (timed : cached.Timed openings) {number : Nat} {attempt : Attempt}
    (found : cached.attempts[number]? = some attempt) :
    ∃ opening, openings[number]? = some opening ∧ cached.Pays attempt opening := by
  have inside : number < openings.length := by
    rw [timed.counted]
    exact (List.getElem?_eq_some_iff.1 found).1
  have isOpening := List.getElem?_eq_getElem inside
  exact ⟨_, isOpening, timed.pays number attempt _ found isOpening⟩

end Timed

theorem configure_eq_ok {configuration : Json} :
    cached.configure configuration = .ok after ↔ ∃ latency, AsksLatency configuration latency ∧
      after = { cached with driver := { cached.driver with latency } } := by
  constructor
  · intro configured
    rcases exists_of_map_eq_ok configured with ⟨driver, accepted, rfl⟩
    rcases VirtualDriver.configure_eq_ok.1 accepted with ⟨latency, asks, rfl⟩
    exact ⟨latency, asks, rfl⟩
  · rintro ⟨latency, asks, rfl⟩
    have accepted : Driver.configure cached.driver configuration =
        .ok { cached.driver with latency } := VirtualDriver.configure_eq_ok.2 ⟨latency, asks, rfl⟩
    rw [configure, accepted]
    rfl

end CachedDriver

end AvControl

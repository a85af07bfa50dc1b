import AvControl.Proofs.Driver.Separation
import AvControl.Proofs.Engine.Workload

/-!
# The timetable of a device

When a script lets a device be opened, and lets no call of it hang, break down or cancel a context,
then it says when the device will be open and how long every call will take. Whoever asks for the
device before it is open waits for the one attempt to open it, which ends at the same time for all.
-/

namespace AvControl

namespace Script.Rule

variable {rule : Rule}

/-- A call under the rule ends after the delay, well or not. -/
structure Ends (rule : Rule) : Prop where
  cancels : rule.cancels = false
  hangs : rule.hangs = false
  crashes : rule.crashes = false

/-- An opening under the rule succeeds after the delay. -/
structure Opens (rule : Rule) : Prop extends rule.Ends where
  fails : rule.fails = none

instance (rule : Rule) : Decidable rule.Ends :=
  decidable_of_iff (rule.cancels = false ∧ rule.hangs = false ∧ rule.crashes = false)
    ⟨fun all => ⟨all.1, all.2.1, all.2.2⟩, fun ends => ⟨ends.cancels, ends.hangs, ends.crashes⟩⟩

instance (rule : Rule) : Decidable rule.Opens :=
  decidable_of_iff (rule.Ends ∧ rule.fails = none)
    ⟨fun both => ⟨both.1, both.2⟩, fun opens => ⟨opens.toEnds, opens.fails⟩⟩

theorem opens_default : Opens {} := ⟨⟨rfl, rfl, rfl⟩, rfl⟩

theorem Ends.reaction_eq (ends : rule.Ends) : rule.reaction = { wait := .ms rule.delay } := by
  simp [reaction, ends.cancels, ends.hangs]

theorem Ends.refusal_ne {α : Type} (ends : rule.Ends) :
    (rule.refusal? : Option (Reply α)) ≠ some .crash := by
  simp [refusal?, ends.crashes]

theorem Opens.refusal_eq {α : Type} (opens : rule.Opens) :
    (rule.refusal? : Option (Reply α)) = none := by
  simp [refusal?, opens.crashes, opens.fails]

end Script.Rule

/-- A script by which every device can be opened, and every call ends. -/
def Script.Smooth (script : Script) : Prop :=
  (∀ entry ∈ script.openRules.entries, entry.2.Opens) ∧
    ∀ entry ∈ script.devices.entries, ∀ rule ∈ entry.2.rules.entries, rule.2.Ends

instance (script : Script) : Decidable script.Smooth := inferInstanceAs (Decidable (_ ∧ _))

namespace ScriptedDriver

variable {address : String} {a b : ScriptedDriver}

/-- Two scripted drivers that would open the device at an address in the same way. -/
structure OpensAlike (address : String) (a b : ScriptedDriver) : Prop where
  script : b.script = a.script
  attempts : b.attempts.get? address = a.attempts.get? address

namespace OpensAlike

theorem openRule (alike : OpensAlike address a b) : b.openRule address = a.openRule address := by
  simp only [ScriptedDriver.openRule, attemptsAt, alike.script, alike.attempts]
  rfl

theorem countAttempt (alike : OpensAlike address a b) :
    OpensAlike address (a.countAttempt address) (b.countAttempt address) :=
  ⟨alike.script, by simp [ScriptedDriver.countAttempt, attemptsAt, alike.attempts]⟩

theorem of_elsewhere (driver : ScriptedDriver) {asks : List Ask}
    (away : ∀ ask ∈ asks, ask.address ≠ address) :
    OpensAlike address driver (Driver.asked driver asks) := by
  have start : SameAt address driver driver := ⟨rfl, rfl, rfl⟩
  have same := SameAt.asked_only asks start
  have nothing : Ask.only address asks = [] :=
    List.filter_eq_nil_iff.2 fun ask member here => away ask member (of_decide_eq_true here)
  rw [nothing] at same
  exact ⟨same.script, same.attempts⟩

theorem of_finishOpen (address : String) (driver : ScriptedDriver) (other : String) :
    OpensAlike address driver (Driver.finishOpen driver other).1 := by
  simp only [Driver.finishOpen]
  split <;> exact ⟨rfl, rfl⟩

theorem of_finishCall (address : String) (driver : ScriptedDriver) (other : String)
    (command : Command) :
    OpensAlike address driver (Driver.finishCall driver other command).1 := by
  simp only [Driver.finishCall]
  split <;> exact ⟨rfl, rfl⟩

end OpensAlike

theorem finishCall_ne_crash (driver : ScriptedDriver) {command : Command}
    (ends : ((driver.script.device address).ruleFor command).Ends) :
    (Driver.finishCall driver address command).2 ≠ .crash := by
  have notCrash : (((driver.script.device address).ruleFor command).refusal? :
      Option (Reply command.Result)) ≠ some .crash := ends.refusal_ne
  simp only [Driver.finishCall]
  cases refusal : ((driver.script.device address).ruleFor command).refusal? with
  | none => simp
  | some reply =>
      intro crash
      obtain rfl : reply = .crash := crash
      exact notCrash refusal

end ScriptedDriver

/-- When a device at some address will be open, and how long its calls will take. -/
structure Timetable where
  driver : String
  address : String
  /-- The time from which on somebody may ask for the device. -/
  start : Nat
  opened : Nat
  handle : Handle
  delay : Command → Nat

/-- The timetable of a device that is reached in some way. -/
structure Timetable.IsOf (timetable : Timetable) (config : DeviceConfig) : Prop where
  driver : config.driver = timetable.driver
  address : config.address = timetable.address

namespace CachedDriver

section Scripted

variable (cached : CachedDriver ScriptedDriver) (address : String)

/-- The rule for the next attempt to open the device at an address. -/
def nextOpening : Script.Rule := (cached.driver.countAttempt address).openRule address

/-- The rule for a call of the device at an address. -/
def callRule (command : Command) : Script.Rule :=
  (cached.driver.script.device address).ruleFor command

/-- How long it takes to open the device at an address; no time at all if it is open. -/
def openingDelay : Nat :=
  if (cached.handles.get? address).isSome then 0 else (cached.nextOpening address).delay

/-- The handle of the device at an address once it is open. -/
def handleAt : Handle :=
  (cached.handles.get? address).getD ⟨(cached.driver.script.device address).capabilities⟩

/-- The device at an address is open or can be opened, and all its calls end. -/
structure Reliable : Prop where
  opens : cached.handles.get? address = none → (cached.nextOpening address).Opens
  ends : ∀ command, (cached.callRule address command).Ends

end Scripted

/-- Under a script all of whose rules are harmless, all devices are reliable. -/
theorem reliable_of_smooth {cached : CachedDriver ScriptedDriver}
    (smooth : cached.driver.script.Smooth) (address : String) : cached.Reliable address := by
  refine ⟨fun _ => ?_, fun command => ?_⟩
  · have opens := smooth.1
    simp only [nextOpening, ScriptedDriver.openRule]
    change ∀ entry ∈ (cached.driver.countAttempt address).script.openRules.entries, _ at opens
    cases found : (cached.driver.countAttempt address).script.openRules.get? address with
    | none => exact Script.Rule.opens_default
    | some rule =>
        have ruleOpens := opens (address, rule) (SortedMap.mem_entries_iff.2 found)
        dsimp only
        split
        · exact ruleOpens
        · split
          · exact ruleOpens
          · exact Script.Rule.opens_default
  · have ends : ∀ name rule, (cached.driver.script.device address).rules.get? name = some rule →
        rule.Ends := by
      intro name rule found
      cases isDevice : cached.driver.script.devices.get? address with
      | none => simp [Script.device, isDevice] at found
      | some device =>
          simp only [Script.device, isDevice, Option.getD_some] at found
          exact smooth.2 (address, device) (SortedMap.mem_entries_iff.2 isDevice) (name, rule)
            (SortedMap.mem_entries_iff.2 found)
    simp only [callRule, Script.Device.ruleFor]
    split
    · exact Script.Rule.opens_default.toEnds
    · rename_i name arguments _
      cases particular : (cached.driver.script.device address).rules.get?
          (name ++ ":" ++ arguments.headD "") with
      | some rule => exact ends _ rule particular
      | none =>
          cases general : (cached.driver.script.device address).rules.get? name with
          | some rule => exact ends name rule general
          | none => exact Script.Rule.opens_default.toEnds

variable {cached cached' : CachedDriver ScriptedDriver} {timetable : Timetable} {now : Nat}

/-- All calls of a device take as long as its timetable says. -/
def Keeps (cached : CachedDriver ScriptedDriver) (timetable : Timetable) : Prop :=
  ∀ command, (cached.callRule timetable.address command).Ends ∧
    (cached.callRule timetable.address command).delay = timetable.delay command

/-- An attempt is over at its time, with the handle of the timetable, or waits for this time. -/
def Yields (cached : CachedDriver ScriptedDriver) (timetable : Timetable) (now number : Nat) :
    Prop :=
  ∃ attempt, cached.attempts[number]? = some attempt ∧ attempt.address = timetable.address ∧
    (attempt.stage = .ended (.ok timetable.handle) ∧ timetable.opened ≤ now ∨
      attempt.stage = .waiting (some timetable.opened) false ∧
        cached.inFlight.get? timetable.address = some number)

/-- The device at an address will have the capabilities that its timetable promises. -/
def Promises (cached : CachedDriver ScriptedDriver) (timetable : Timetable) : Prop :=
  timetable.handle = ⟨(cached.driver.script.device timetable.address).capabilities⟩

/-- The opening of a device goes by its timetable. -/
inductive Stands (timetable : Timetable) (now : Nat) (cached : CachedDriver ScriptedDriver) : Prop
  | closed (unopened : cached.handles.get? timetable.address = none)
      (grounded : cached.inFlight.get? timetable.address = none)
      (opens : (cached.nextOpening timetable.address).Opens)
      (delay : timetable.start + (cached.nextOpening timetable.address).delay = timetable.opened)
      (promises : cached.Promises timetable)
  | dialling {number : Nat} (unopened : cached.handles.get? timetable.address = none)
      (yields : cached.Yields timetable now number)
      (flying : cached.inFlight.get? timetable.address = some number)
      (opens : (cached.driver.openRule timetable.address).Opens)
      (promises : cached.Promises timetable)
  | opened (handled : cached.handles.get? timetable.address = some timetable.handle)
      (grounded : cached.inFlight.get? timetable.address = none)
      (past : timetable.opened ≤ now)

theorem Keeps.congr (keeps : cached.Keeps timetable)
    (same : cached'.driver.script = cached.driver.script) : cached'.Keeps timetable := by
  intro command
  have sameRule : cached'.callRule timetable.address command =
      cached.callRule timetable.address command := by simp only [callRule, same]
  rw [sameRule]
  exact keeps command

theorem Promises.congr (promises : cached.Promises timetable)
    (same : cached'.driver.script = cached.driver.script) : cached'.Promises timetable := by
  rwa [Promises, same]

theorem Yields.congr {number : Nat} (yields : cached.Yields timetable now number)
    (same : cached.SameAt timetable.address cached') : cached'.Yields timetable now number := by
  rcases yields with ⟨attempt, isAttempt, here, stage⟩
  refine ⟨attempt, (same.attempts number attempt here).2 isAttempt, here, ?_⟩
  rwa [same.inFlight]

theorem Yields.later {number later : Nat} (yields : cached.Yields timetable now number)
    (passes : now ≤ later) : cached.Yields timetable later number := by
  rcases yields with ⟨attempt, isAttempt, here, stage⟩
  refine ⟨attempt, isAttempt, here, stage.imp_left fun ended => ⟨ended.1, ?_⟩⟩
  exact ended.2.trans passes

theorem Stands.congr (stands : cached.Stands timetable now)
    (same : cached.SameAt timetable.address cached')
    (alike : cached.driver.OpensAlike timetable.address cached'.driver) :
    cached'.Stands timetable now := by
  have sameNext : cached'.nextOpening timetable.address = cached.nextOpening timetable.address :=
    alike.countAttempt.openRule
  cases stands with
  | closed unopened grounded opens delay promises =>
      apply Stands.closed
      · rw [same.handles, unopened]
      · rw [same.inFlight, grounded]
      · rwa [sameNext]
      · rwa [sameNext]
      · exact promises.congr alike.script
  | dialling unopened yields flying opens promises =>
      apply Stands.dialling
      · rw [same.handles, unopened]
      · exact yields.congr same
      · rw [same.inFlight, flying]
      · rwa [alike.openRule]
      · exact promises.congr alike.script
  | opened handled grounded past =>
      apply Stands.opened
      · rw [same.handles, handled]
      · rw [same.inFlight, grounded]
      · exact past

theorem Stands.later {later : Nat} (stands : cached.Stands timetable now) (passes : now ≤ later) :
    cached.Stands timetable later := by
  cases stands with
  | closed unopened grounded opens delay promises =>
      exact .closed unopened grounded opens delay promises
  | dialling unopened yields flying opens promises =>
      exact .dialling unopened (yields.later passes) flying opens promises
  | opened handled grounded past => exact .opened handled grounded (past.trans passes)

/-- The opening of a device goes on by its timetable, and whoever waits for it still does. -/
structure Advances (timetable : Timetable) (now : Nat)
    (before after : CachedDriver ScriptedDriver) : Prop where
  script : after.driver.script = before.driver.script
  stands : after.Stands timetable now
  yields : ∀ number, before.Yields timetable now number → after.Yields timetable now number

theorem Advances.refl (stands : cached.Stands timetable now) :
    Advances timetable now cached cached := ⟨rfl, stands, fun _ yields => yields⟩

theorem Advances.trans {first middle last : CachedDriver ScriptedDriver}
    (earlier : Advances timetable now first middle) (later : Advances timetable now middle last) :
    Advances timetable now first last where
  script := later.script.trans earlier.script
  stands := later.stands
  yields number yields := later.yields number (earlier.yields number yields)

/-- Somebody who wants a device waits for it until it is open. -/
inductive Informs (timetable : Timetable) (now : Nat) (cached : CachedDriver ScriptedDriver) :
    Caller → Prop
  | waits {number : Nat} (yields : cached.Yields timetable now number)
      (early : now < timetable.opened) : Informs timetable now cached (.joined number)
  | opens (past : timetable.opened ≤ now) :
      Informs timetable now cached (.answered (.ok timetable.handle))

/-- The attempt that opens the device yields its handle at its time. -/
theorem Stands.finishes (stands : cached.Stands timetable now) {number : Nat} {attempt : Attempt}
    (isAttempt : cached.attempts[number]? = some attempt)
    (here : attempt.address = timetable.address)
    (flying : cached.inFlight.get? timetable.address = some number)
    (past : timetable.opened ≤ now) :
    Advances timetable now cached (cached.finish number attempt.address) ∧
      Caller.follow (cached.finish number attempt.address) number =
        .answered (.ok timetable.handle) := by
  cases stands with
  | closed _ grounded | opened _ grounded =>
      rw [flying] at grounded
      cases grounded
  | dialling _ _ _ opens promises =>
      have sameScript := (ScriptedDriver.OpensAlike.of_finishOpen timetable.address
        cached.driver timetable.address).script
      have replies : (Driver.finishOpen cached.driver timetable.address).2 =
          .ok timetable.handle := by
        rw [promises]
        simp only [Driver.finishOpen, opens.refusal_eq]
      simp only [finish, here]
      rcases replied : Driver.finishOpen cached.driver timetable.address with ⟨driver, reply⟩
      rw [replied] at sameScript replies
      obtain rfl : reply = .ok timetable.handle := replies
      have isAttempt' : ({ cached with driver } : CachedDriver ScriptedDriver).attempts[number]? =
          some attempt := isAttempt
      dsimp only
      refine ⟨⟨sameScript, ?_, ?_⟩, follow_conclude isAttempt' _ _⟩
      · apply Stands.opened
        · simp [Except.toOption]
        · simp
        · exact past
      · rintro other ⟨attempt', isOther, here', stage⟩
        by_cases same : other = number
        · exact ⟨attempt.ended (.ok timetable.handle),
            by simp [getElem?_conclude isAttempt', same], here, Or.inl ⟨rfl, past⟩⟩
        · refine ⟨attempt', by simp [getElem?_conclude isAttempt', same, isOther], here', ?_⟩
          rcases stage with ended | ⟨-, flying'⟩
          · exact Or.inl ended
          · rw [flying, Option.some.injEq] at flying'
            exact absurd flying'.symm same

theorem Stands.follows (stands : cached.Stands timetable now) {number : Nat}
    (yields : cached.Yields timetable now number) (tokens : Tokens) :
    Advances timetable now cached (cached.advance tokens now number) ∧
      Informs timetable now (cached.advance tokens now number)
        (.follow (cached.advance tokens now number) number) := by
  have isYield := yields
  rcases yields with ⟨attempt, isAttempt, here, ⟨stage, past⟩ | ⟨stage, flying⟩⟩
  · have stays : cached.advance tokens now number = cached := by
      simp only [CachedDriver.advance, isAttempt, stage]
    have follows : Caller.follow cached number = .answered (.ok timetable.handle) := by
      simp [Caller.follow, isAttempt, Attempt.result?, stage]
    rw [stays, follows]
    exact ⟨.refl stands, .opens past⟩
  · by_cases past : timetable.opened ≤ now
    · have ends : cached.advance tokens now number = cached.finish number attempt.address := by
        simp [CachedDriver.advance, isAttempt, stage, past]
      rcases stands.finishes isAttempt here flying past with ⟨advances, follows⟩
      rw [ends, follows]
      exact ⟨advances, .opens past⟩
    · have stays : cached.advance tokens now number = cached := by
        simp [CachedDriver.advance, isAttempt, stage, past]
      have follows : Caller.follow cached number = .joined number := by
        simp [Caller.follow, isAttempt, Attempt.result?, stage]
      rw [stays, follows]
      exact ⟨.refl stands, .waits isYield (Nat.lt_of_not_le past)⟩

/-- The first to ask for a device starts the attempt that opens it in time. -/
theorem advances_begin (unopened : cached.handles.get? timetable.address = none)
    (grounded : cached.inFlight.get? timetable.address = none)
    (opens : (cached.nextOpening timetable.address).Opens)
    (promises : cached.Promises timetable) (ticket : Nat) (context : RequestContext) :
    let begun : CachedDriver ScriptedDriver := { cached with
      driver := cached.driver.countAttempt timetable.address
      attempts := cached.attempts ++ [{
        address := timetable.address, context, ticket
        stage := .waiting (some timetable.opened) false }]
      inFlight := cached.inFlight.insert timetable.address cached.attempts.length }
    Advances timetable now cached begun ∧ begun.Yields timetable now cached.attempts.length := by
  intro begun
  have flying : begun.inFlight.get? timetable.address = some cached.attempts.length := by
    simp [begun]
  have yields : begun.Yields timetable now cached.attempts.length :=
    ⟨_, getElem?_concat_eq_some.2 (Or.inr ⟨rfl, rfl⟩), rfl, Or.inr ⟨rfl, flying⟩⟩
  refine ⟨⟨rfl, .dialling unopened yields flying opens promises, ?_⟩, yields⟩
  rintro other ⟨attempt, isAttempt, here, ended | ⟨-, flying'⟩⟩
  · exact ⟨attempt, getElem?_concat_eq_some.2 (Or.inl isAttempt), here, Or.inl ended⟩
  · rw [grounded] at flying'
    cases flying'

/-- Somebody who seeks a device in time, or waits for it already. -/
inductive Seeks (cached : CachedDriver ScriptedDriver) (timetable : Timetable) (now : Nat) :
    Caller → Prop
  | fresh (inTime : now = timetable.start) : Seeks cached timetable now .fresh
  | joined {number : Nat} (yields : cached.Yields timetable now number) :
      Seeks cached timetable now (.joined number)

theorem Stands.informs (stands : cached.Stands timetable now) {caller : Caller}
    (seeks : cached.Seeks timetable now caller) (tokens : Tokens) (ticket : Nat)
    (context : RequestContext) :
    let polled := cached.poll tokens now ticket context timetable.address caller
    polled.tokens = tokens ∧ Advances timetable now cached polled.cached ∧
      Informs timetable now polled.cached polled.caller := by
  cases seeks with
  | joined yields => exact ⟨rfl, stands.follows yields tokens⟩
  | fresh inTime =>
      subst inTime
      have isStands := stands
      cases stands with
      | opened handled grounded past =>
          simp only [poll, handled]
          exact ⟨trivial, .refl isStands, .opens past⟩
      | dialling unopened yields flying =>
          simp only [poll, unopened, flying]
          exact ⟨trivial, isStands.follows yields tokens⟩
      | closed unopened grounded opens delay promises =>
          rcases advances_begin unopened grounded opens promises ticket context with
            ⟨begins, yields⟩
          rcases begins.stands.follows yields tokens with ⟨goesOn, informs⟩
          have reacts : Driver.beginOpen cached.driver timetable.address =
              (cached.driver.countAttempt timetable.address,
                { wait := .ms (cached.nextOpening timetable.address).delay }) :=
            Prod.ext rfl opens.reaction_eq
          simp only [poll, unopened, grounded, start, reacts, Wait.due, delay, Bool.false_eq_true,
            if_false]
          exact ⟨trivial, begins.trans goesOn, informs⟩

end CachedDriver

end AvControl

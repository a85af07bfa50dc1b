import AvControl.Proofs.Virtual.Duty

/-!
# Opening a device again

An attempt that everybody has abandoned stays where it is, under a context that may have ended long
ago, and the next caller joins it. It may therefore be given an error that is none of its own. But
an error is given only where an attempt ends, and an attempt that ends lets its address go. So the
next caller starts an attempt under its own context; with nobody there to end that context it is
given a handle as soon as the wait of the attempt is over, and the handle is kept for everybody.
-/

namespace AvControl

open Relation Virtual

namespace CachedDriver

variable {δ : Type} [Driver δ] {cached cached' : CachedDriver δ} {address : String} {number : Nat}
  {tokens : Tokens} {now ticket : Nat} {context : RequestContext} {caller : Caller}

/-! ### A caller that is alone -/

/-- How things stand for somebody who wants a device opened, where nobody else does. -/
inductive Lone (cached : CachedDriver δ) (address : String) : Caller → Prop
  | fresh : Lone cached address .fresh
  | joined {number : Nat} {attempt : Attempt} (found : cached.attempts[number]? = some attempt)
      (here : attempt.address = address) (waits : attempt.result? = none) :
      Lone cached address (.joined number)
  /-- An error is given only where nothing is in flight any more. -/
  | failed {error : DriverError} (grounded : cached.inFlight.get? address = none) :
      Lone cached address (.answered (.error error))
  | opened {handle : Handle} : Lone cached address (.answered (.ok handle))

omit [Driver δ] in
theorem lone_conclude {attempt : Attempt} (found : cached.attempts[number]? = some attempt)
    (result : Except DriverError Handle) :
    (cached.conclude number attempt.address result).Lone attempt.address
      (.follow (cached.conclude number attempt.address result) number) := by
  rw [follow_conclude found]
  cases result with
  | ok handle => exact .opened
  | error error => exact .failed (by simp)

theorem lone_advance {attempt : Attempt} (found : cached.attempts[number]? = some attempt)
    (waits : attempt.result? = none) :
    (cached.advance tokens now number).Lone attempt.address
      (.follow (cached.advance tokens now number) number) := by
  have joined : cached.Lone attempt.address (.follow cached number) := by
    simp only [Caller.follow, found, Option.bind_some, waits]
    exact .joined found rfl waits
  unfold advance
  simp only [found]
  split
  · exact joined
  · split
    · let asked : CachedDriver δ :=
        { cached with driver := (Driver.finishOpen cached.driver attempt.address).1 }
      have found' : asked.attempts[number]? = some attempt := found
      exact lone_conclude found' _
    · split
      · split
        · exact lone_conclude found _
        · exact joined
      · exact joined

theorem lone_start (cached : CachedDriver δ) (tokens : Tokens) (now ticket : Nat)
    (context : RequestContext) (address : String) :
    (cached.start tokens now ticket context address).1.Lone address
      (.follow (cached.start tokens now ticket context address).1 cached.attempts.length) := by
  let attempt : Attempt := {
    address, context, ticket
    stage := .waiting ((Driver.beginOpen cached.driver address).2.wait.due now)
      (Driver.beginOpen cached.driver address).2.heedsContext }
  let begun : CachedDriver δ := { cached with
    driver := (Driver.beginOpen cached.driver address).1
    attempts := cached.attempts ++ [attempt]
    inFlight := cached.inFlight.insert address cached.attempts.length }
  have found : begun.attempts[cached.attempts.length]? = some attempt :=
    List.getElem?_concat_length
  unfold start
  dsimp only
  split
  · exact lone_conclude found (.error _)
  · exact lone_advance found rfl

variable [Enacts δ]

omit [Enacts δ] in
/-- Nobody who has been looked after is new any more. -/
theorem begun_poll (cached : CachedDriver δ) (tokens : Tokens) (now ticket : Nat)
    (context : RequestContext) (address : String) (caller : Caller) :
    (cached.poll tokens now ticket context address caller).caller ≠ .fresh := by
  have followed : ∀ (cached : CachedDriver δ) (number : Nat),
      Caller.follow cached number ≠ .fresh := by
    intro cached number
    unfold Caller.follow
    split <;> simp
  cases caller with
  | answered | joined => simp [poll, followed]
  | fresh =>
      simp only [poll]
      split
      · simp
      · split <;> exact followed _ _

/-- A caller that is alone stays alone. -/
theorem Lone.poll (lone : cached.Lone address caller) (wired : cached.WiredAt address) :
    (cached.poll tokens now ticket context address caller).cached.Lone address
      (cached.poll tokens now ticket context address caller).caller := by
  cases lone with
  | failed grounded => exact .failed grounded
  | opened => exact .opened
  | joined found here waits =>
      subst here
      exact lone_advance found waits
  | fresh =>
      simp only [CachedDriver.poll]
      cases handled : cached.handles.get? address with
      | some handle => exact .opened
      | none =>
          cases flying : cached.inFlight.get? address with
          | none => exact cached.lone_start tokens now ticket context address
          | some number =>
              rcases wired.rooted number flying with ⟨-, attempt, due, found, rfl, stage⟩
              exact lone_advance found (by simp [Attempt.result?, stage])

theorem Lone.same (lone : cached.Lone address caller)
    (same : cached.SameWiring address cached') : cached'.Lone address caller := by
  cases lone with
  | fresh => exact .fresh
  | joined found here waits => exact .joined ((same.attempts _ _ here).2 found) here waits
  | failed grounded => exact .failed (same.inFlight.trans grounded)
  | opened => exact .opened

/-! ### What is kept -/

/-- Where a handle is kept no attempt waits, and so it is not replaced. -/
theorem handle_advance {handle : Handle} (wired : cached.WiredAt address)
    (handled : cached.handles.get? address = some handle) :
    (cached.advance tokens now number).handles.get? address = some handle := by
  have concluded : ∀ (driver : δ) (attempt : Attempt) (result : Except DriverError Handle),
      cached.attempts[number]? = some attempt → attempt.result? = none →
      (({ cached with driver } : CachedDriver δ).conclude number attempt.address
        result).handles.get? address = some handle := by
    intro driver attempt result found waits
    rw [get?_handles_conclude, if_neg]
    · exact handled
    · rintro rfl
      have flying := wired.waiting number attempt found rfl waits
      rw [(wired.rooted number flying).1] at handled
      cases handled
  unfold advance
  split
  · exact handled
  · rename_i attempt found
    split
    · exact handled
    · rename_i due heedsContext stage
      have waits : attempt.result? = none := by simp [Attempt.result?, stage]
      split
      · exact concluded _ _ _ found waits
      · split
        · split
          · exact concluded cached.driver _ _ found waits
          · exact handled
        · exact handled

theorem handle_start {handle : Handle} {other : String} (wired : cached.WiredAt address)
    (handled : cached.handles.get? address = some handle)
    (unhandled : cached.handles.get? other = none) (grounded : cached.inFlight.get? other = none) :
    (cached.start tokens now ticket context other).1.handles.get? address = some handle := by
  have differs : address ≠ other := by
    rintro rfl
    rw [unhandled] at handled
    cases handled
  have reaction := (Enacts.beginOpen cached.driver other).2
  let attempt : Attempt := {
    address := other, context, ticket
    stage := .waiting ((Driver.beginOpen cached.driver other).2.wait.due now)
      (Driver.beginOpen cached.driver other).2.heedsContext }
  have waits : ∃ due, attempt.stage = .waiting (some due) true := by
    simp only [attempt, reaction]
    exact ⟨_, rfl⟩
  have begun := (cached.preserves_begin attempt waits unhandled grounded address wired).1
  unfold start
  dsimp only
  split
  · rw [get?_handles_conclude, if_neg differs]
    exact handled
  · exact handle_advance begun handled

/-- Once there is a handle for an address, it is there for good. -/
theorem handle_poll {handle : Handle} {other : String} (wired : cached.WiredAt address)
    (handled : cached.handles.get? address = some handle) :
    (cached.poll tokens now ticket context other caller).cached.handles.get? address =
      some handle := by
  unfold poll
  split
  · exact handled
  · exact handle_advance wired handled
  · split
    · exact handled
    · rename_i unhandled
      split
      · exact handle_advance wired handled
      · rename_i grounded
        exact handle_start wired handled unhandled grounded

/-! ### A caller that nothing disturbs -/

/-- The caller has a handle that is kept, or an attempt of its own, whose wait is over at a time. -/
inductive Expects (cached : CachedDriver δ) (context : RequestContext) (address : String)
    (due : Nat) : Caller → Prop
  | joined {number : Nat} {attempt : Attempt} (found : cached.attempts[number]? = some attempt)
      (here : attempt.address = address) (own : attempt.context = context)
      (waiting : attempt.stage = .waiting (some due) true) :
      Expects cached context address due (.joined number)
  | opened {handle : Handle} (handled : cached.handles.get? address = some handle) :
      Expects cached context address due (.answered (.ok handle))

theorem Dials.exists_expects (dials : cached.Dials context address caller)
    (wired : cached.WiredAt address) (reachable : VirtualDriver.unreachable address = false)
    (begun : caller ≠ .fresh) : ∃ due, cached.Expects context address due caller := by
  cases dials with
  | fresh => exact absurd rfl begun
  | joined found here own waiting => exact ⟨_, .joined found here own waiting⟩
  | refused _ unreachable => cases reachable.symm.trans unreachable
  | connected _ isHardware =>
      refine ⟨0, .opened ?_⟩
      rw [wired.paired, isHardware]
      rfl

theorem Expects.same {due : Nat} (expects : cached.Expects context address due caller)
    (same : cached.SameWiring address cached') : cached'.Expects context address due caller := by
  cases expects with
  | joined found here own waiting =>
      exact .joined ((same.attempts _ _ here).2 found) here own waiting
  | opened handled => exact .opened (same.handles.trans handled)

/-- Under a live context the attempt ends when its wait is over and not before. -/
theorem Expects.poll {due : Nat} (expects : cached.Expects context address due caller)
    (wired : cached.WiredAt address) (reachable : VirtualDriver.unreachable address = false)
    (live : context.interruption? tokens now = none) (ticket : Nat) :
    let polled := cached.poll tokens now ticket context address caller
    polled.cached.Expects context address due polled.caller ∧
      (due ≤ now → ∃ handle, polled.caller = .answered (.ok handle)) := by
  intro polled
  cases expects with
  | opened handled => exact ⟨.opened handled, fun _ => ⟨_, rfl⟩⟩
  | @joined number attempt found here own waiting =>
      subst here own
      by_cases isDue : due ≤ now
      · have elapsed : attempt.isOver now = true := by
          simp [Attempt.isOver, Attempt.wake?, waiting, any_earlier, isDue]
        have dials := dials_advance found waiting live
        have wired' := (cached.preserves_advance tokens now number _ wired).1
        rcases follow_advance found (Or.inl elapsed) with ⟨result, answered⟩
        change (cached.advance tokens now number).Expects _ _ _ (.follow _ number) ∧
          (_ → ∃ handle, Caller.follow _ number = _)
        rw [answered] at dials ⊢
        rcases dials.exists_expects wired' reachable (by simp) with ⟨_, _ | ⟨handled⟩⟩
        exact ⟨.opened handled, fun _ => ⟨_, rfl⟩⟩
      · have same : cached.advance tokens now number = cached := by
          simp [advance, found, waiting, isDue, live]
        have joined : Caller.follow cached number = .joined number := by
          simp [Caller.follow, found, Attempt.result?, waiting]
        change (cached.advance tokens now number).Expects _ _ _ (.follow _ number) ∧ _
        rw [same, joined]
        exact ⟨.joined found rfl rfl waiting, fun elapsed => absurd elapsed isDue⟩

end CachedDriver

/-! ### Worlds -/

namespace World

variable {δ : Type} [Driver δ]

/-- What can happen while nobody has a device opened. -/
inductive Meanwhile (world : World δ) : World δ → Prop
  | waits {time : Nat} (passes : world.clock ≤ time) : Meanwhile world { world with clock := time }
  /-- A context is made, perhaps under another one. -/
  | creates (parent : Option Nat) :
      Meanwhile world { world with tokens := (world.tokens.add parent).1 }
  | cancels (context : RequestContext) : Meanwhile world (world.cancel context)
  | configures {name : String} {configuration : Json} {registry : Registry δ}
      (configured : world.registry.configure name configuration = .ok registry) :
      Meanwhile world { world with registry }

/-- Somebody wants the device at an address opened, and nobody else wants any. -/
inductive Alone (driver address : String) (context : RequestContext) :
    World δ × Caller → World δ × Caller → Prop
  | looks (world : World δ) (caller : Caller) :
      Alone driver address context (world, caller) (world.lookAfter driver address context caller)
  | meanwhile {world world' : World δ} (caller : Caller) (meanwhile : world.Meanwhile world') :
      Alone driver address context (world, caller) (world', caller)

variable {world world' : World δ} {driver address : String} {context : RequestContext}
  {caller : Caller}

theorem Meanwhile.happens (meanwhile : world.Meanwhile world') (sessions : List Session) :
    Run.Happens { world, sessions } { world := world', sessions } := by
  cases meanwhile with
  | waits passes => exact .advances (.waits passes)
  | creates parent => exact .creates parent
  | cancels context => exact .cancels context
  | configures configured => exact .configures configured

/-- Somebody who is alone is one of the things that can happen. -/
theorem Alone.happens {before after : World δ × Caller}
    (alone : Alone driver address context before after) (sessions : List Session) :
    Run.Happens { world := before.1, sessions } { world := after.1, sessions } := by
  cases alone with
  | looks world caller => exact .visits driver address context caller
  | meanwhile caller meanwhile => exact meanwhile.happens sessions

theorem happenings_of_alone {before after : World δ × Caller}
    (alone : ReflTransGen (Alone driver address context) before after) (sessions : List Session) :
    Run.Happenings { world := before.1, sessions } { world := after.1, sessions } :=
  alone.lift (fun moment => ({ world := moment.1, sessions } : Run δ))
    fun _ _ next => next.happens sessions

theorem happenings_of_meanwhile (meanwhile : ReflTransGen Meanwhile world world')
    (sessions : List Session) : Run.Happenings { world, sessions } { world := world', sessions } :=
  meanwhile.lift (fun world => ({ world, sessions } : Run δ)) fun _ _ next => next.happens sessions

variable [Enacts δ] {hardware : Hardware} {due : Nat}

/-- Meanwhile no driver comes or goes, and nothing is wired in another way. -/
theorem Meanwhile.sameWiring (meanwhile : world.Meanwhile world') (driver address : String) :
    Option.Rel (CachedDriver.SameWiring address) (world.registry.get driver)
      (world'.registry.get driver) := by
  have refl : ∀ found : Option (CachedDriver δ),
      Option.Rel (CachedDriver.SameWiring address) found found := by
    intro found
    cases found with
    | none => exact .none
    | some cached => exact .some ⟨.refl address cached, rfl, rfl⟩
  cases meanwhile with
  | waits | creates | cancels => exact refl _
  | @configures name configuration registry configured =>
      rcases Registry.configure_eq_ok configured with ⟨cached, cached', found, accepted, rfl⟩
      by_cases here : driver = name
      · subst here
        rw [found]
        change Option.Rel _ _ ((world.registry.set driver cached').get driver)
        rw [get_set]
        rcases exists_of_map_eq_ok accepted with ⟨configured, accepted', rfl⟩
        have enacted := Enacts.configure cached.driver configuration
        rw [accepted'] at enacted
        rcases exists_of_map_eq_ok enacted with ⟨latency, -, same⟩
        refine .some ⟨⟨rfl, rfl, fun _ _ _ => Iff.rfl⟩, ?_, ?_⟩
        · simp only [CachedDriver.player, ← same]
          rfl
        · simp only [CachedDriver.player, ← same]
      · change Option.Rel _ _ ((world.registry.set name cached').get driver)
        rw [get_set_ne _ here]
        exact refl _

theorem Meanwhile.exists_sameWiring (meanwhile : world.Meanwhile world')
    {cached : CachedDriver δ} (found : world.registry.get driver = some cached)
    (address : String) :
    ∃ cached', world'.registry.get driver = some cached' ∧ cached.SameWiring address cached' := by
  have related := meanwhile.sameWiring driver address
  rw [found] at related
  generalize world'.registry.get driver = found' at related
  cases related with
  | some same => exact ⟨_, rfl, same⟩

/-! ### The first caller -/

/-- How things stand for somebody who wants a device opened, where nobody else does. -/
def Lone (world : World δ) (driver address : String) (caller : Caller) : Prop :=
  match world.registry.get driver with
  | none => caller = .fresh
  | some cached => cached.Lone address caller

omit [Driver δ] in
theorem lone_fresh (world : World δ) (driver address : String) :
    world.Lone driver address .fresh := by
  rw [Lone]
  split
  · rfl
  · exact .fresh

theorem Lone.looks (lone : world.Lone driver address caller) (wired : world.Wired) :
    (world.lookAfter driver address context caller).1.Lone driver address
      (world.lookAfter driver address context caller).2 := by
  cases found : world.registry.get driver with
  | none =>
      rw [lookAfter_missing found]
      exact lone
  | some cached =>
      rw [Lone, found] at lone
      rcases lookAfter_eq found address context caller with ⟨journal, tickets, same⟩
      rw [same]
      simp only [Lone, get_set]
      exact lone.poll (wired driver address cached found)

theorem Lone.meanwhile (lone : world.Lone driver address caller)
    (meanwhile : world.Meanwhile world') : world'.Lone driver address caller := by
  have related := meanwhile.sameWiring driver address
  simp only [Lone] at lone ⊢
  generalize world.registry.get driver = found at related lone
  generalize world'.registry.get driver = found' at related ⊢
  cases related with
  | none => exact lone
  | some same => exact lone.same same

theorem lone_of_alone {before after : World δ × Caller}
    (alone : ReflTransGen (Alone driver address context) before after) (wired : before.1.Wired)
    (lone : before.1.Lone driver address before.2) : after.1.Lone driver address after.2 := by
  induction alone with
  | refl => exact lone
  | tail earlier next ih =>
      cases next with
      | looks => exact ih.looks ((happenings_of_alone earlier []).wired wired)
      | meanwhile _ meanwhile => exact ih.meanwhile meanwhile

/-- Where a caller that is alone is given an error, nothing is in flight. -/
theorem Lone.exists_restsAt {error : DriverError}
    (lone : world.Lone driver address (.answered (.error error))) (wired : world.Wired) :
    ∃ hardware, world.RestsAt driver address hardware := by
  rw [Lone] at lone
  cases found : world.registry.get driver with
  | none =>
      rw [found] at lone
      cases lone
  | some cached =>
      rw [found] at lone
      cases lone with
      | failed grounded =>
          exact ⟨_, cached, found, wired driver address cached found, grounded, rfl⟩

/-! ### The next caller -/

/-- Somebody has a handle that is kept, or an attempt of its own, whose wait is over at a time. -/
def Expects (world : World δ) (driver address : String) (hardware : Hardware)
    (context : RequestContext) (due : Nat) (caller : Caller) : Prop :=
  ∃ cached, world.registry.get driver = some cached ∧ cached.WiredAt address ∧
    cached.hardwareAt address = hardware ∧ cached.Expects context address due caller

/-- A handle is kept for whoever wants the device at an address opened. -/
def Keeps (world : World δ) (driver address : String) (handle : Handle) : Prop :=
  ∃ cached, world.registry.get driver = some cached ∧ cached.handles.get? address = some handle

theorem RestsAt.meanwhile (rests : world.RestsAt driver address hardware)
    (meanwhile : world.Meanwhile world') : world'.RestsAt driver address hardware := by
  rcases rests with ⟨cached, found, wired, grounded, isHardware⟩
  rcases meanwhile.exists_sameWiring found address with ⟨cached', found', same⟩
  exact ⟨cached', found', same.wiredAt wired, same.inFlight.trans grounded,
    same.hardwareAt.trans isHardware⟩

theorem RestsAt.lull (rests : world.RestsAt driver address hardware)
    (lull : ReflTransGen Meanwhile world world') : world'.RestsAt driver address hardware := by
  induction lull with
  | refl => exact rests
  | tail _ meanwhile ih => exact ih.meanwhile meanwhile

theorem Expects.meanwhile (expects : world.Expects driver address hardware context due caller)
    (meanwhile : world.Meanwhile world') :
    world'.Expects driver address hardware context due caller := by
  rcases expects with ⟨cached, found, wired, isHardware, expects⟩
  rcases meanwhile.exists_sameWiring found address with ⟨cached', found', same⟩
  exact ⟨cached', found', same.wiredAt wired, same.hardwareAt.trans isHardware, expects.same same⟩

/-- A new caller that finds nothing in flight has an attempt of its own, or is given a handle. -/
theorem RestsAt.looks (rests : world.RestsAt driver address hardware)
    (reachable : VirtualDriver.unreachable address = false)
    (live : world.interruption? context = none) :
    ∃ due, (world.lookAfter driver address context .fresh).1.Expects driver address hardware
      context due (world.lookAfter driver address context .fresh).2 := by
  rcases rests with ⟨cached, found, wired, grounded, isHardware⟩
  rcases lookAfter_eq found address context .fresh with ⟨journal, tickets, same⟩
  have preserves := cached.preserves_poll world.tokens world.clock world.tickets context address
    .fresh address wired
  have dials : (cached.poll world.tokens world.clock world.tickets context address
      .fresh).cached.Dials context address (cached.poll world.tokens world.clock world.tickets
        context address .fresh).caller := CachedDriver.Dials.poll (.fresh grounded) wired live
  rcases dials.exists_expects preserves.1 reachable (CachedDriver.begun_poll _ _ _ _ _ _ _) with
    ⟨due, expects⟩
  rw [same]
  exact ⟨due, _, get_set _ _ _, preserves.1, preserves.2.trans isHardware, expects⟩

theorem Expects.looks (expects : world.Expects driver address hardware context due caller)
    (reachable : VirtualDriver.unreachable address = false)
    (live : world.interruption? context = none) :
    (world.lookAfter driver address context caller).1.Expects driver address hardware context due
        (world.lookAfter driver address context caller).2 ∧
      (due ≤ world.clock → ∃ handle,
        (world.lookAfter driver address context caller).2 = .answered (.ok handle)) := by
  rcases expects with ⟨cached, found, wired, isHardware, expects⟩
  rcases lookAfter_eq found address context caller with ⟨journal, tickets, same⟩
  have preserves := cached.preserves_poll world.tokens world.clock world.tickets context address
    caller address wired
  rcases expects.poll wired reachable live world.tickets with ⟨expects', answered⟩
  rw [same]
  exact ⟨⟨_, get_set _ _ _, preserves.1, preserves.2.trans isHardware, expects'⟩, answered⟩

/-- Who is looked after where nothing else is in flight has an attempt of its own by then. -/
theorem exists_expects_of_look (stands : caller = .fresh ∧ world.RestsAt driver address hardware ∨
      ∃ due, world.Expects driver address hardware context due caller)
    (reachable : VirtualDriver.unreachable address = false)
    (live : world.interruption? context = none) :
    ∃ due, (world.lookAfter driver address context caller).1.Expects driver address hardware
      context due (world.lookAfter driver address context caller).2 := by
  rcases stands with ⟨rfl, rests⟩ | ⟨due, expects⟩
  · exact rests.looks reachable live
  · exact ⟨due, (expects.looks reachable live).1⟩

/-- What a caller is given is the handle of the device, and it is kept. -/
theorem Expects.answered {result : Except DriverError Handle}
    (expects : world.Expects driver address hardware context due (.answered result)) :
    result = .ok hardware.model.handle ∧ world.Keeps driver address hardware.model.handle := by
  rcases expects with ⟨cached, found, wired, isHardware, _ | ⟨handled⟩⟩
  have paired := wired.paired.symm.trans handled
  rcases Option.map_eq_some_iff.1 paired with ⟨connected, isConnected, rfl⟩
  have same : connected = hardware := by
    rw [← isHardware, CachedDriver.hardwareAt, VirtualDriver.hardwareAt, isConnected]
    rfl
  rw [← same, (wired.reached connected isConnected).2]
  exact ⟨rfl, cached, found, handled⟩

omit [Enacts δ] in
theorem Alone.live_before {before after : World δ × Caller}
    (alone : Alone driver address context before after)
    {other : RequestContext} (live : after.1.interruption? other = none) :
    before.1.interruption? other = none :=
  (alone.happens []).live live

/-- While nobody else is there, an attempt goes on as it has begun. -/
theorem expects_of_alone {before after : World δ × Caller}
    (alone : ReflTransGen (Alone driver address context) before after)
    (reachable : VirtualDriver.unreachable address = false)
    (live : after.1.interruption? context = none)
    (expects : before.1.Expects driver address hardware context due before.2) :
    after.1.Expects driver address hardware context due after.2 := by
  induction alone with
  | refl => exact expects
  | tail _ next ih =>
      have live' := next.live_before live
      cases next with
      | looks => exact ((ih live').looks reachable live').1
      | meanwhile _ meanwhile => exact (ih live').meanwhile meanwhile

/-- A caller that comes where nothing is in flight is new or has an attempt of its own. -/
theorem rests_or_expects_of_alone {before after : World δ × Caller}
    (alone : ReflTransGen (Alone driver address context) before after)
    (reachable : VirtualDriver.unreachable address = false)
    (live : after.1.interruption? context = none)
    (fresh : before.2 = .fresh) (rests : before.1.RestsAt driver address hardware) :
    after.2 = .fresh ∧ after.1.RestsAt driver address hardware ∨
      ∃ due, after.1.Expects driver address hardware context due after.2 := by
  induction alone with
  | refl => exact Or.inl ⟨fresh, rests⟩
  | tail _ next ih =>
      have live' := next.live_before live
      cases next with
      | looks => exact Or.inr (exists_expects_of_look (ih live') reachable live')
      | meanwhile _ meanwhile =>
          rcases ih live' with ⟨isFresh, rests'⟩ | ⟨due, expects⟩
          · exact Or.inl ⟨isFresh, rests'.meanwhile meanwhile⟩
          · exact Or.inr ⟨due, expects.meanwhile meanwhile⟩

/-! ### Everybody later -/

omit [Driver δ] [Enacts δ] in
theorem Keeps.of_set {name : String} {cached cached' : CachedDriver δ} {handle : Handle}
    (keeps : world.Keeps driver address handle)
    (found : world.registry.get name = some cached)
    (isSet : world'.registry = world.registry.set name cached')
    (handles : cached.handles.get? address = some handle →
      cached'.handles.get? address = some handle) : world'.Keeps driver address handle := by
  rcases keeps with ⟨other, isOther, handled⟩
  rw [Keeps, isSet]
  by_cases here : driver = name
  · subst here
    obtain rfl := Option.some.inj (found.symm.trans isOther)
    exact ⟨cached', get_set _ _ _, handles handled⟩
  · exact ⟨other, (get_set_ne _ here).trans isOther, handled⟩

theorem Keeps.lookAfter {handle : Handle} (keeps : world.Keeps driver address handle)
    (wired : world.Wired) (name other : String) (context : RequestContext) (caller : Caller) :
    (world.lookAfter name other context caller).1.Keeps driver address handle := by
  cases found : world.registry.get name with
  | none =>
      rw [lookAfter_missing found]
      exact keeps
  | some cached =>
      rcases lookAfter_eq found other context caller with ⟨journal, tickets, same⟩
      rw [same]
      exact keeps.of_set found rfl (CachedDriver.handle_poll (wired name address cached found))

theorem Keeps.does {handle : Handle} {task : Task} {deal : Option Deal}
    (keeps : world.Keeps driver address handle) (wired : world.Wired)
    (does : task.Does context world world' deal) : world'.Keeps driver address handle := by
  cases does with
  | rests => exact keeps
  | looks caller => exact keeps.lookAfter wired _ _ _ _
  | calls command =>
      cases found : world.registry.get task.config.driver with
      | none =>
          simp only [beginCall, found]
          exact keeps
      | some cached =>
          simp only [beginCall, found]
          exact keeps.of_set found rfl id
  | finishes done =>
      cases found : world.registry.get task.config.driver with
      | none =>
          rw [finishCall_missing found] at done
          cases done
      | some cached =>
          rw [finishCall_eq found] at done
          obtain rfl := congrArg Prod.fst done
          exact keeps.of_set found rfl id

omit [Enacts δ] in
/-- A handle that is kept is given to whoever comes, and nothing is done for it. -/
theorem Keeps.gives {handle : Handle} (keeps : world.Keeps driver address handle)
    (context : RequestContext) :
    world.lookAfter driver address context .fresh = (world, .answered (.ok handle)) := by
  rcases keeps with ⟨cached, found, handled⟩
  have same : world.registry.set driver cached = world.registry := by
    have sameDrivers : world.registry.drivers.insert driver cached = world.registry.drivers := by
      refine SortedMap.ext_get? fun name => ?_
      rw [SortedMap.get?_insert]
      split
      · rename_i here
        rw [here]
        exact found.symm
      · rfl
    rw [Registry.set, sameDrivers]
  simp only [World.lookAfter, found, CachedDriver.poll, handled, same, Bool.false_eq_true, if_false]

end World

namespace Run

variable {δ : Type} [Driver δ] [Enacts δ] {run next : Run δ} {driver address : String}
  {handle : Handle}

theorem Happens.keeps (happens : Happens run next) (wired : run.world.Wired)
    (keeps : run.world.Keeps driver address handle) :
    next.world.Keeps driver address handle := by
  cases happens with
  | arrives | creates | cancels => exact keeps
  | visits => exact keeps.lookAfter wired _ _ _ _
  | configures configured =>
      rcases Registry.configure_eq_ok configured with ⟨cached, cached', found, accepted, rfl⟩
      rcases exists_of_map_eq_ok accepted with ⟨configured, -, rfl⟩
      exact keeps.of_set found rfl id
  | advances advances =>
      cases advances with
      | waits => exact keeps
      | stirs _ _ _ stirs =>
          rcases stirs.exists_does with ⟨deal, does, -⟩
          exact keeps.does wired does
      | @attends i session isSession =>
          rcases attend_world session run.world with ⟨tokens, -, same⟩
          rw [same]
          exact keeps

/-- A handle is kept for good, whatever happens. -/
theorem Happenings.keeps (happenings : run.Happenings next) (wired : run.world.Wired)
    (keeps : run.world.Keeps driver address handle) :
    next.world.Keeps driver address handle := by
  induction happenings with
  | refl => exact keeps
  | tail before happens ih => exact happens.keeps (Happenings.wired before wired) ih

end Run

namespace World

/--
However an attempt was left behind, it costs one caller at most. When a caller that is alone is
given an error at an address that can be reached, the next one that is alone is given a handle, as
long as its context has not ended: there is a time from which on it is given the handle when it is
looked after. From then on everybody is given that handle at once, whatever happens.
-/
theorem reopens {start failed rested : World VirtualDriver} {driver address : String}
    {first : RequestContext} {error : DriverError} (reachable : start.Reachable)
    (attainable : VirtualDriver.unreachable address = false)
    (fails : ReflTransGen (Alone driver address first) (start, .fresh)
      (failed, .answered (.error error)))
    (lull : ReflTransGen Meanwhile failed rested) :
    ∃ handle, ∀ (second : RequestContext) (served : World VirtualDriver) (caller : Caller),
      ReflTransGen (Alone driver address second) (rested, .fresh) (served, caller) →
      served.interruption? second = none →
      (∀ result, caller = .answered result → result = .ok handle) ∧
      (∃ due, ∀ (later : World VirtualDriver) (caller' : Caller),
        ReflTransGen (Alone driver address second)
          (served.lookAfter driver address second caller) (later, caller') →
        later.interruption? second = none → due ≤ later.clock →
        (later.lookAfter driver address second caller').2 = .answered (.ok handle)) ∧
      (caller = .answered (.ok handle) → ∀ (sessions : List Session) (next : Run VirtualDriver),
        Run.Happenings { world := served, sessions } next → ∀ visitor : RequestContext,
          next.world.lookAfter driver address visitor .fresh =
            (next.world, .answered (.ok handle))) := by
  have wired : failed.Wired := (happenings_of_alone fails []).wired reachable.wired
  have lone : failed.Lone driver address (.answered (.error error)) :=
    lone_of_alone fails reachable.wired (lone_fresh start driver address)
  rcases lone.exists_restsAt wired with ⟨hardware, rests⟩
  have wired' : rested.Wired := (happenings_of_meanwhile lull []).wired wired
  refine ⟨hardware.model.handle, fun second served caller alone live => ?_⟩
  have stands := rests_or_expects_of_alone alone attainable live rfl (rests.lull lull)
  refine ⟨?_, ?_, ?_⟩
  · rintro result rfl
    rcases stands with ⟨isFresh, -⟩ | ⟨due, expects⟩
    · cases isFresh
    · exact expects.answered.1
  · rcases exists_expects_of_look stands attainable live with ⟨due, expects⟩
    refine ⟨due, fun later caller' alone' live' isDue => ?_⟩
    have expects' := expects_of_alone alone' attainable live' expects
    rcases expects'.looks attainable live' with ⟨expects'', answered⟩
    rcases answered isDue with ⟨handle, isHandle⟩
    rw [isHandle] at expects'' ⊢
    rw [expects''.answered.1]
  · rintro rfl sessions next happenings visitor
    rcases stands with ⟨isFresh, -⟩ | ⟨due, expects⟩
    · cases isFresh
    · have served' : served.Wired := (happenings_of_alone alone []).wired wired'
      exact (happenings.keeps served' expects.answered.2).gives visitor

theorem reopens_lab :
    let slow := labWorld ({ model := .display, latency := 20 } : VirtualDriver)
    let hurried : RequestContext := { deadline := some 10, token := 0 }
    let start := { (slow.lookAfter "display" "lab" hurried .fresh).1 with clock := 15 }
    let background : RequestContext := { deadline := none, token := 1 }
    let failed := (start.lookAfter "display" "lab" background .fresh).1
    start.Reachable ∧ VirtualDriver.unreachable "lab" = false ∧
      Alone "display" "lab" background (start, .fresh)
        (failed, .answered (.error (.ofInterruption .deadlineExceeded))) ∧
      ∃ handle served,
        ReflTransGen (Alone "display" "lab" background) (failed, .fresh)
          (served, .answered (.ok handle)) ∧
        ∀ (sessions : List Session) (next : Run VirtualDriver),
          Run.Happenings { world := served, sessions } next → ∀ visitor : RequestContext,
            next.world.lookAfter "display" "lab" visitor .fresh =
              (next.world, .answered (.ok handle)) := by
  intro slow hurried start background failed
  have unused : slow.Unused := by
    intro name cached found
    simp only [slow, labWorld, Registry.set, Registry.get, SortedMap.get?_insert] at found
    split at found
    · exact ⟨.display, 20, (Option.some.inj found).symm⟩
    · cases found
  have reachable : start.Reachable := by
    refine ⟨slow, [], unused, .tail (.single (.visits "display" "lab" hurried .fresh)) ?_⟩
    exact .advances (.waits (by decide))
  have attainable : VirtualDriver.unreachable "lab" = false := by decide +kernel
  have fails : Alone "display" "lab" background (start, .fresh)
      (failed, .answered (.error (.ofInterruption .deadlineExceeded))) := .looks start .fresh
  refine ⟨reachable, attainable, fails, ?_⟩
  rcases reopens reachable attainable (.single fails) .refl with ⟨handle, given⟩
  rcases (given background failed .fresh .refl rfl).2.1 with ⟨due, gives⟩
  let begun := failed.lookAfter "display" "lab" background .fresh
  let later := { begun.1 with clock := max begun.1.clock due }
  have waits : Alone "display" "lab" background begun (later, begun.2) :=
    .meanwhile begun.2 (.waits (Nat.le_max_left _ _))
  have untouched : background.interruption? begun.1.tokens 0 = none := by decide +kernel
  have patient : later.interruption? background = none :=
    RequestContext.live_without_deadline rfl (.refl begun.1.tokens) untouched
  have answered := gives later begun.2 (.single waits) patient (Nat.le_max_right _ _)
  have alone : ReflTransGen (Alone "display" "lab" background) (failed, .fresh)
      ((later.lookAfter "display" "lab" background begun.2).1, .answered (.ok handle)) := by
    rw [← answered]
    exact ((ReflTransGen.single (.looks failed .fresh)).tail waits).tail (.looks later begun.2)
  have live : (later.lookAfter "display" "lab" background begun.2).1.interruption? background =
      none := by
    rw [interruption?, tokens_lookAfter]
    exact patient
  exact ⟨handle, _, alone, (given background _ _ alone live).2.2 rfl⟩

end World

end AvControl

import AvControl.Proofs.Driver.Coherence
import AvControl.Proofs.Driver.Separation
import AvControl.Proofs.Engine.Sessions
import AvControl.Proofs.Engine.Workload

/-!
# What a task leaves alone

A task that is looked after has to do with its own device only. Its driver is asked for something at
the address of this device, and of all handles and attempts only those at this address change;
nothing is cancelled but the context of the request itself. For this it matters that whoever waits
for an attempt waits for one at its own address, and that an address is in flight under the number
of an attempt at this address.
-/

namespace AvControl

/-- What is not cancelled by a cancellation is no entry at all. -/
theorem Tokens.cancel_of_live {tokens : Tokens} {token : Nat}
    (live : (tokens.cancel token).isCancelled token = false) : tokens.cancel token = tokens := by
  cases found : tokens.entries[token]? with
  | none =>
      have beyond := List.getElem?_eq_none_iff.1 found
      simp only [cancel, List.modify_eq_self beyond]
  | some entry =>
      exfalso
      rcases List.getElem?_eq_some_iff.1 found with ⟨inside, -⟩
      have some : tokens.entries.length ≠ 0 := Nat.ne_of_gt (Nat.zero_lt_of_lt inside)
      rcases Nat.exists_eq_succ_of_ne_zero some with ⟨bound, same⟩
      simp [isCancelled, cancel, cancelledWithin, same, found] at live

namespace CachedDriver

variable {δ : Type}

/-- What is in flight for an address is an attempt there. -/
def Rooted (cached : CachedDriver δ) : Prop :=
  ∀ address number, cached.inFlight.get? address = some number →
    ∃ attempt, cached.attempts[number]? = some attempt ∧ attempt.address = address

/-- Somebody who waits, if at all, for an attempt at an address. -/
def WaitsAt (cached : CachedDriver δ) (address : String) (caller : Caller) : Prop :=
  ∀ number, caller = .joined number →
    ∃ attempt, cached.attempts[number]? = some attempt ∧ attempt.address = address

theorem waitsAt_follow {cached : CachedDriver δ} {number : Nat} {attempt : Attempt}
    (found : cached.attempts[number]? = some attempt) :
    cached.WaitsAt attempt.address (.follow cached number) := by
  intro other joined
  rcases Task.follow_cases cached number with follows | ⟨result, follows⟩
  · rw [follows, Caller.joined.injEq] at joined
    exact ⟨attempt, joined ▸ found, rfl⟩
  · rw [follows] at joined
    cases joined

variable [Driver δ]

/-- Only what belongs to an address has changed. -/
structure Tends (address : String) (before after : CachedDriver δ) : Prop where
  asks : ∃ asks, (∀ ask ∈ asks, ask.address = address) ∧
    after.driver = Driver.asked before.driver asks
  elsewhere : ∀ other, other ≠ address → before.SameAt other after
  addresses : ∀ (number : Nat) (attempt : Attempt), before.attempts[number]? = some attempt →
    ∃ attempt', after.attempts[number]? = some attempt' ∧ attempt'.address = attempt.address
  rooted : before.Rooted → after.Rooted

namespace Tends

theorem refl (address : String) (cached : CachedDriver δ) : cached.Tends address cached where
  asks := ⟨[], by simp, rfl⟩
  elsewhere other _ := .refl other cached
  addresses _ attempt found := ⟨attempt, found, rfl⟩
  rooted rooted := rooted

theorem trans {address : String} {first middle last : CachedDriver δ}
    (earlier : first.Tends address middle) (later : middle.Tends address last) :
    first.Tends address last where
  asks := by
    rcases earlier.asks with ⟨asks, here, same⟩
    rcases later.asks with ⟨others, here', same'⟩
    refine ⟨asks ++ others, ?_, by rw [same', same, Driver.asked_append]⟩
    exact fun ask member => (List.mem_append.1 member).elim (here ask) (here' ask)
  elsewhere other differs := (earlier.elsewhere other differs).trans (later.elsewhere other differs)
  addresses number attempt found := by
    rcases earlier.addresses number attempt found with ⟨between, found', same⟩
    rcases later.addresses number between found' with ⟨attempt', found'', same'⟩
    exact ⟨attempt', found'', same'.trans same⟩
  rooted rooted := later.rooted (earlier.rooted rooted)

/-- The driver itself is asked for something. -/
theorem ask (cached : CachedDriver δ) (ask : Ask) :
    cached.Tends ask.address { cached with driver := (Driver.ask cached.driver ask).1 } where
  asks := ⟨[ask], by simp, rfl⟩
  elsewhere _ _ := ⟨rfl, rfl, fun _ _ _ => Iff.rfl⟩
  addresses _ attempt found := ⟨attempt, found, rfl⟩
  rooted rooted := rooted

theorem conclude {cached : CachedDriver δ} {number : Nat} {attempt : Attempt}
    (found : cached.attempts[number]? = some attempt) (result : Except DriverError Handle) :
    cached.Tends attempt.address (cached.conclude number attempt.address result) := by
  have addresses : ∀ (other : Nat) (attempt' : Attempt), cached.attempts[other]? = some attempt' →
      ∃ attempt'', (cached.conclude number attempt.address result).attempts[other]? =
        some attempt'' ∧ attempt''.address = attempt'.address := by
    intro other attempt' found'
    rw [getElem?_conclude found]
    by_cases same : other = number
    · subst same
      rw [found, Option.some.injEq] at found'
      subst found'
      exact ⟨_, if_pos rfl, rfl⟩
    · exact ⟨attempt', by rw [if_neg same, found'], rfl⟩
  refine ⟨⟨[], by simp, rfl⟩, fun other differs => .conclude found cached.driver result differs,
    addresses, ?_⟩
  intro rooted address other flying
  rw [get?_inFlight_conclude] at flying
  split at flying
  · cases flying
  · rcases rooted address other flying with ⟨attempt', found', here⟩
    rcases addresses other attempt' found' with ⟨attempt'', found'', same⟩
    exact ⟨attempt'', found'', same.trans here⟩

theorem begin (cached : CachedDriver δ) (attempt : Attempt) :
    cached.Tends attempt.address
      { cached with
        driver := (Driver.beginOpen cached.driver attempt.address).1
        attempts := cached.attempts ++ [attempt]
        inFlight := cached.inFlight.insert attempt.address cached.attempts.length } := by
  refine ⟨⟨[.beginOpen attempt.address], by simp [Ask.address], rfl⟩,
    fun other differs => .begin cached attempt _ differs,
    fun number attempt' found => ⟨attempt', getElem?_concat_eq_some.2 (Or.inl found), rfl⟩, ?_⟩
  intro rooted address number flying
  dsimp only at flying
  rw [SortedMap.get?_insert] at flying
  split at flying
  · rename_i here
    obtain rfl := Option.some.inj flying
    exact ⟨attempt, getElem?_concat_eq_some.2 (Or.inr ⟨rfl, rfl⟩), here.symm⟩
  · rcases rooted address number flying with ⟨attempt', found, here⟩
    exact ⟨attempt', getElem?_concat_eq_some.2 (Or.inl found), here⟩

end Tends

/-- Looking after an attempt has to do with its own address. -/
theorem tends_advance {cached : CachedDriver δ} {number : Nat} {attempt : Attempt}
    (found : cached.attempts[number]? = some attempt) (tokens : Tokens) (now : Nat) :
    cached.Tends attempt.address (cached.advance tokens now number) := by
  simp only [advance]
  simp only [found]
  split
  · exact .refl _ _
  · split
    · let asked : CachedDriver δ :=
        { cached with driver := (Driver.finishOpen cached.driver attempt.address).1 }
      have tends : cached.Tends attempt.address asked := .ask cached (.finishOpen attempt.address)
      have found' : asked.attempts[number]? = some attempt := found
      exact tends.trans (.conclude found' _)
    · split
      · split
        · exact .conclude found _
        · exact .refl _ _
      · exact .refl _ _

theorem tends_start (cached : CachedDriver δ) (tokens : Tokens) (now ticket : Nat)
    (context : RequestContext) (address : String) :
    cached.Tends address (cached.start tokens now ticket context address).1 ∧
      ∃ attempt, (cached.start tokens now ticket context address).1.attempts[
        cached.attempts.length]? = some attempt ∧ attempt.address = address := by
  let attempt : Attempt := {
    address, context, ticket
    stage := .waiting ((Driver.beginOpen cached.driver address).2.wait.due now)
      (Driver.beginOpen cached.driver address).2.heedsContext }
  let begun : CachedDriver δ := { cached with
    driver := (Driver.beginOpen cached.driver address).1
    attempts := cached.attempts ++ [attempt]
    inFlight := cached.inFlight.insert address cached.attempts.length }
  have begins : cached.Tends address begun := .begin cached attempt
  have found : begun.attempts[cached.attempts.length]? = some attempt := by simp [begun]
  have goesOn : ∀ after, begun.Tends address after → cached.Tends address after ∧
      ∃ attempt, after.attempts[cached.attempts.length]? = some attempt ∧
        attempt.address = address := by
    intro after tends
    rcases tends.addresses _ _ found with ⟨attempt', found', same⟩
    exact ⟨begins.trans tends, attempt', found', same⟩
  unfold start
  dsimp only
  split
  · rename_i interruption _ _
    exact goesOn (begun.conclude _ address (.error (.ofInterruption interruption)))
      (.conclude found _)
  · exact goesOn (begun.advance _ now _) (tends_advance found _ now)

theorem tokens_start (cached : CachedDriver δ) (tokens : Tokens) (now ticket : Nat)
    (context : RequestContext) (address : String) :
    (cached.start tokens now ticket context address).2 = tokens ∨
      (cached.start tokens now ticket context address).2 = tokens.cancel context.token := by
  have cancelled : ∀ cancels : Bool, (if cancels then tokens.cancel context.token else tokens) =
      tokens ∨ (if cancels then tokens.cancel context.token else tokens) =
        tokens.cancel context.token := by
    rintro (_ | _)
    · exact Or.inl rfl
    · exact Or.inr rfl
  unfold start
  dsimp only
  split <;> exact cancelled _

/-- Looking after somebody who wants a device opened has to do with the address of the device. -/
theorem tends_poll {cached : CachedDriver δ} (rooted : cached.Rooted) {address : String}
    {caller : Caller} (waits : cached.WaitsAt address caller) (tokens : Tokens) (now ticket : Nat)
    (context : RequestContext) :
    cached.Tends address (cached.poll tokens now ticket context address caller).cached ∧
      (cached.poll tokens now ticket context address caller).cached.WaitsAt address
        (cached.poll tokens now ticket context address caller).caller ∧
      ((cached.poll tokens now ticket context address caller).tokens = tokens ∨
        (cached.poll tokens now ticket context address caller).tokens =
          tokens.cancel context.token) := by
  have joins : ∀ {number : Nat} {attempt : Attempt}, cached.attempts[number]? = some attempt →
      attempt.address = address → cached.Tends address (cached.advance tokens now number) ∧
        (cached.advance tokens now number).WaitsAt address
          (.follow (cached.advance tokens now number) number) := by
    rintro number attempt found rfl
    have tends := tends_advance found tokens now
    rcases tends.addresses _ _ found with ⟨attempt', found', same⟩
    exact ⟨tends, same ▸ waitsAt_follow found'⟩
  simp only [poll]
  split
  · exact ⟨.refl _ _, waits, Or.inl rfl⟩
  · rename_i number
    rcases waits number rfl with ⟨attempt, found, here⟩
    rcases joins found here with ⟨tends, waits'⟩
    exact ⟨tends, waits', Or.inl rfl⟩
  · split
    · exact ⟨.refl _ _, by simp [WaitsAt], Or.inl rfl⟩
    · split
      · rename_i number flying
        rcases rooted address number flying with ⟨attempt, found, here⟩
        rcases joins found here with ⟨tends, waits'⟩
        exact ⟨tends, waits', Or.inl rfl⟩
      · rcases cached.tends_start tokens now ticket context address with
          ⟨tends, attempt, found, here⟩
        subst here
        exact ⟨tends, waitsAt_follow found, cached.tokens_start tokens now ticket context _⟩

end CachedDriver

namespace World

variable {δ : Type} [Driver δ] {context : RequestContext} {config : DeviceConfig}

omit [Driver δ] in
/-- Every address that is in flight is in flight under the number of an attempt there. -/
def Rooted (world : World δ) : Prop :=
  ∀ name cached, world.registry.get name = some cached → cached.Rooted

omit [Driver δ] in
/-- Nothing is being opened. -/
def Calm (world : World δ) : Prop :=
  ∀ name cached, world.registry.get name = some cached → ∀ address,
    cached.inFlight.get? address = none

omit [Driver δ] in
theorem Calm.rooted {world : World δ} (calm : world.Calm) : world.Rooted :=
  fun name cached found address number flying =>
    absurd ((calm name cached found address).symm.trans flying) (by simp)

/-- Between two moments of the same time something was done to one device under a context. -/
structure Tends (context : RequestContext) (config : DeviceConfig) (before after : World δ) :
    Prop where
  clock : after.clock = before.clock
  tokens : after.interruption? context = none → after.tokens = before.tokens
  others : ∀ name, name ≠ config.driver → after.registry.get name = before.registry.get name
  cached : Option.Rel (CachedDriver.Tends config.address) (before.registry.get config.driver)
    (after.registry.get config.driver)

/-- Between two moments of the same time nothing was done to a device. -/
structure Spares (config : DeviceConfig) (before after : World δ) : Prop where
  clock : after.clock = before.clock
  tokens : after.tokens = before.tokens
  cached : ∀ cached, before.registry.get config.driver = some cached →
    ∃ cached', after.registry.get config.driver = some cached' ∧
      cached.SameAt config.address cached' ∧
      ∃ asks, (∀ ask ∈ asks, ask.address ≠ config.address) ∧
        cached'.driver = Driver.asked cached.driver asks

namespace Tends

theorem refl (context : RequestContext) (config : DeviceConfig) (world : World δ) :
    Tends context config world world := by
  refine ⟨rfl, fun _ => rfl, fun _ _ => rfl, ?_⟩
  cases world.registry.get config.driver with
  | none => exact .none
  | some cached => exact .some (.refl _ cached)

theorem live {before after : World δ} (tends : Tends context config before after)
    (live : after.interruption? context = none) : before.interruption? context = none := by
  have same := tends.tokens live
  rwa [interruption?, tends.clock, same] at live

theorem trans {first middle last : World δ} (earlier : Tends context config first middle)
    (later : Tends context config middle last) : Tends context config first last where
  clock := later.clock.trans earlier.clock
  tokens live := (later.tokens live).trans (earlier.tokens (later.live live))
  others name differs := (later.others name differs).trans (earlier.others name differs)
  cached := by
    have before := earlier.cached
    have after := later.cached
    generalize first.registry.get config.driver = start at before ⊢
    generalize middle.registry.get config.driver = between at before after
    generalize last.registry.get config.driver = final at after ⊢
    cases before with
    | none =>
        cases after
        exact .none
    | some before =>
        cases after with
        | some after => exact .some (before.trans after)

theorem of_set {world : World δ} {cached cached' : CachedDriver δ}
    (found : world.registry.get config.driver = some cached)
    (tends : cached.Tends config.address cached') {tokens : Tokens}
    (cancelled : tokens = world.tokens ∨ tokens = world.tokens.cancel context.token)
    (journal : List Event) (tickets : Nat) :
    Tends context config world { world with
      registry := world.registry.set config.driver cached', tokens, journal, tickets } := by
  refine ⟨rfl, fun live => ?_, fun name differs => ?_, ?_⟩
  · rcases cancelled with same | cancelled
    · exact same
    · refine cancelled.trans (Tokens.cancel_of_live ?_)
      rw [← cancelled]
      exact RequestContext.isCancelled_of_live live
  · exact get_set_ne cached' differs
  · rw [found, get_set]
    exact .some tends

/-- What is done to one device is not done to another one. -/
theorem spares {before after : World δ} (tends : Tends context config before after)
    (live : after.interruption? context = none) {other : DeviceConfig}
    (apart : (other.driver, other.address) ≠ (config.driver, config.address)) :
    Spares other before after := by
  refine ⟨tends.clock, tends.tokens live, fun cached found => ?_⟩
  by_cases same : other.driver = config.driver
  · have differs : other.address ≠ config.address := fun here => apart (Prod.ext same here)
    have related := tends.cached
    rw [same] at found ⊢
    rw [found] at related
    generalize after.registry.get config.driver = found' at related
    cases related with
    | @some _ cached' tends =>
        rcases tends.asks with ⟨asks, here, asked⟩
        refine ⟨cached', rfl, tends.elsewhere _ differs, asks, fun ask member away => ?_, asked⟩
        exact differs (away.symm.trans (here ask member))
  · refine ⟨cached, (tends.others _ same).trans found, .refl _ cached, [], by simp, rfl⟩

theorem rooted {before after : World δ} (tends : Tends context config before after)
    (rooted : before.Rooted) : after.Rooted := by
  intro name cached' found'
  by_cases same : name = config.driver
  · subst same
    have related := tends.cached
    rw [found'] at related
    generalize isBefore : before.registry.get config.driver = found at related
    cases related with
    | some tends => exact tends.rooted (rooted _ _ isBefore)
  · exact rooted name cached' ((tends.others name same).symm.trans found')

end Tends

theorem tends_beginCall (world : World δ) (config : DeviceConfig) (context : RequestContext)
    (command : Command) :
    Tends context config world (world.beginCall config context command).1 := by
  cases found : world.registry.get config.driver with
  | none =>
      simp only [beginCall, found]
      exact .refl context config world
  | some cached =>
      simp only [beginCall, found, record]
      refine .of_set found (.ask cached (.beginCall config.address command)) ?_ _ _
      cases (Driver.beginCall cached.driver config.address command).2.cancels
      · exact Or.inl rfl
      · exact Or.inr rfl

theorem tends_finishCall (world : World δ) (config : DeviceConfig) (context : RequestContext)
    (command : Command) :
    Tends context config world (world.finishCall config command).1 := by
  cases found : world.registry.get config.driver with
  | none =>
      rw [finishCall_missing found]
      exact .refl context config world
  | some cached =>
      rw [finishCall_eq found]
      exact .of_set found (.ask cached (.finishCall config.address command)) (Or.inl rfl) _ _

end World

namespace Task

variable {δ : Type} [Driver δ] {task : Task} {context : RequestContext} {world : World δ}

omit [Driver δ] in
/-- A task that waits, if at all, for an attempt at the address of its device. -/
def AtHome (task : Task) (world : World δ) : Prop :=
  ∀ cached caller, world.registry.get task.config.driver = some cached →
    task.phase = .opening caller → cached.WaitsAt task.config.address caller

omit [Driver δ] in
theorem atHome_of_begun (begun : ∀ caller, task.phase ≠ .opening caller) : task.AtHome world :=
  fun _ caller _ opening => absurd opening (begun caller)

omit [Driver δ] in
theorem atHome_of_fresh (fresh : task.phase = .opening .fresh) : task.AtHome world := by
  intro cached caller _ opening number joined
  rw [fresh, joined] at opening
  cases opening

/-- A task waits for the same attempt whatever is done to other devices. -/
theorem AtHome.tends {world' : World δ} {config : DeviceConfig} (atHome : task.AtHome world)
    (tends : World.Tends context config world world') : task.AtHome world' := by
  intro cached' caller found' opening number joined
  by_cases same : task.config.driver = config.driver
  · have related := tends.cached
    rw [← same, found'] at related
    generalize isBefore : world.registry.get task.config.driver = found at related
    cases related with
    | @some cached _ tends =>
        rcases atHome cached caller isBefore opening number joined with ⟨attempt, isAttempt, here⟩
        rcases tends.addresses number attempt isAttempt with ⟨attempt', isAttempt', sameAddress⟩
        exact ⟨attempt', isAttempt', sameAddress.trans here⟩
  · exact atHome cached' caller ((tends.others _ same).symm.trans found') opening number joined

theorem tends_opened (rooted : world.Rooted) (atHome : task.AtHome world) {caller : Caller}
    (opening : task.phase = .opening caller) :
    World.Tends context task.config world (task.opened context world caller).1 ∧
      (task.enter (.opening (task.opened context world caller).2)).AtHome
        (task.opened context world caller).1 := by
  cases found : world.registry.get task.config.driver with
  | none =>
      rw [opened, World.lookAfter_missing found]
      refine ⟨.refl _ _ _, fun cached other found' opening' => ?_⟩
      exact absurd (found.symm.trans found') (by simp)
  | some cached =>
      have tends := CachedDriver.tends_poll (rooted _ _ found) (atHome cached caller found opening)
        world.tokens world.clock world.tickets context
      rcases tends with ⟨tends, waits, tokens⟩
      rcases World.lookAfter_eq found task.config.address context caller with
        ⟨journal, tickets, same⟩
      rw [opened, same]
      refine ⟨.of_set found tends tokens journal tickets, fun cached' other found' opening' => ?_⟩
      obtain rfl := Option.some.inj ((World.get_set _ _ _).symm.trans found')
      obtain rfl := Phase.opening.inj opening'
      exact waits

theorem Move.tends {bench bench' : Bench δ} (move : task.Move context bench bench') :
    World.Tends context task.config bench.world bench'.world := by
  cases move with
  | skip | breakOff | leave | proceed => exact .refl _ _ _
  | begin => exact World.tends_beginCall _ _ _ _
  | @finish _ _ call _ _ _ _ _ done =>
      have tends := World.tends_finishCall bench.world task.config context call.command
      rw [done] at tends
      exact tends

theorem Moves.tends {bench bench' : Bench δ} (moves : task.Moves context bench bench') :
    World.Tends context task.config bench.world bench'.world := by
  induction moves with
  | refl => exact .refl _ _ _
  | tail _ move ih => exact ih.trans move.tends

/-- A task at work has to do with its own device. -/
theorem Works.tends {bench : Bench δ} {result : World δ × Task × Option Outcome}
    (works : task.Works context bench result) :
    World.Tends context task.config bench.world result.1 ∧ result.2.1.AtHome result.1 := by
  cases works with
  | stays moves => exact ⟨Moves.tends moves, atHome_of_begun (by simp)⟩
  | reports moves => exact ⟨Moves.tends moves, atHome_of_begun (by simp)⟩
  | @crashes bench' _ moves crash =>
      rcases crash with ⟨before, call, rest, after, here, due, crashed⟩
      have tends := World.tends_finishCall bench'.world task.config context call.command
      rw [crashed] at tends
      exact ⟨(Moves.tends moves).trans tends, atHome_of_begun (by simp)⟩

/-- Whatever a task does when it is looked after, it does to its own device. -/
theorem Polls.tends {result : World δ × Task × Option Outcome}
    (polls : task.Polls context world result) (rooted : world.Rooted)
    (atHome : task.AtHome world) :
    World.Tends context task.config world result.1 ∧ result.2.1.AtHome result.1 := by
  cases polls with
  | silent => exact ⟨.refl _ _ _, atHome⟩
  | leavesOut => exact ⟨.refl _ _ _, atHome_of_begun (by simp)⟩
  | fails opening | givesUp opening =>
      exact ⟨(tends_opened rooted atHome opening).1, atHome_of_begun (by simp)⟩
  | waits opening => exact tends_opened rooted atHome opening
  | begins opening live answer works =>
      exact ⟨(tends_opened rooted atHome opening).1.trans works.tends.1, works.tends.2⟩
  | goesOn working works => exact works.tends

end Task

end AvControl

import AvControl.Proofs.Engine.Trace

/-!
# What a look asks of a driver

A task that is looked after turns to its own driver only. Whatever it begins it begins under a
context that is live at that very moment, even when its driver cancels the context meanwhile; it
finishes no call but those that it has begun itself; and it goes on with no opening but the one that
it has joined or begun.
-/

namespace AvControl

namespace Deed

/-- What is cancelled after a deed under a context. -/
def cancelling (context : RequestContext) (tokens : Tokens) : Deed → Tokens
  | beginOpen _ reaction | beginCall _ _ reaction =>
    if reaction.cancels then tokens.cancel context.token else tokens
  | finishOpen _ _ | finishCall _ _ _ => tokens

/-- Whether an opening or a call begins. -/
def begins : Deed → Bool
  | beginOpen _ _ | beginCall _ _ _ => true
  | finishOpen _ _ | finishCall _ _ _ => false

def begun? : Deed → Option Command
  | beginCall _ command _ => some command
  | _ => none

def finished? : Deed → Option Command
  | finishCall _ command _ => some command
  | _ => none

/-- The driver broke down. -/
def IsCrash : Deed → Prop
  | finishOpen _ reply => reply = .crash
  | finishCall _ _ kind => kind = .crash
  | beginOpen _ _ | beginCall _ _ _ => False

/-- Openings finish no call. -/
theorem filterMap_finished_of_openings {deeds : List Deed}
    (openings : ∀ deed ∈ deeds, deed.beat? = none) : deeds.filterMap finished? = [] := by
  refine List.filterMap_eq_nil_iff.2 fun deed member => ?_
  have noBeat := openings deed member
  cases deed with
  | finishCall => cases noBeat
  | beginOpen | finishOpen | beginCall => rfl

end Deed

/-- Whatever begins among some deeds begins under a live context, one deed after another. -/
def Gated (context : RequestContext) (now : Nat) : Tokens → List Deed → Prop
  | _, [] => True
  | tokens, deed :: rest =>
    (deed.begins = true → context.interruption? tokens now = none) ∧
      Gated context now (deed.cancelling context tokens) rest

theorem Gated.append {context : RequestContext} {now : Nat} {deeds others : List Deed} :
    ∀ {tokens : Tokens}, Gated context now tokens deeds →
      Gated context now (deeds.foldl (Deed.cancelling context) tokens) others →
        Gated context now tokens (deeds ++ others) := by
  induction deeds with
  | nil => exact fun _ later => later
  | cons deed rest ih =>
      rintro tokens ⟨first, gated⟩ later
      exact ⟨first, ih gated later⟩

/-- Nothing but the end of openings. -/
def OnlyFinishes (deeds : List Deed) : Prop :=
  ∀ deed ∈ deeds, ∃ address reply, deed = .finishOpen address reply

namespace OnlyFinishes

variable {deeds : List Deed} {context : RequestContext}

theorem cancelling (finishes : OnlyFinishes deeds) (tokens : Tokens) :
    deeds.foldl (Deed.cancelling context) tokens = tokens := by
  induction deeds with
  | nil => rfl
  | cons deed rest ih =>
      rcases List.forall_mem_cons.1 finishes with ⟨⟨address, reply, rfl⟩, others⟩
      exact ih others

theorem gated (finishes : OnlyFinishes deeds) (now : Nat) (tokens : Tokens) :
    Gated context now tokens deeds := by
  induction deeds with
  | nil => trivial
  | cons deed rest ih =>
      rcases List.forall_mem_cons.1 finishes with ⟨⟨address, reply, rfl⟩, others⟩
      refine ⟨?_, ih others⟩
      intro begins
      cases begins

end OnlyFinishes

namespace CachedDriver

variable {δ : Type}

/-- Somebody who wants the device at an address opened waits for an attempt, or is about to. -/
def Joins (cached : CachedDriver δ) (address : String) (caller : Caller) (number : Nat) : Prop :=
  caller = .joined number ∨ caller = .fresh ∧ cached.inFlight.get? address = some number

variable [Driver δ]

/-- Going on with an attempt asks the driver to finish it at most. -/
theorem asks_advance (cached : CachedDriver (Recorded δ)) (tokens : Tokens) (now number : Nat) :
    ∃ deeds, (cached.advance tokens now number).driver.deeds = cached.driver.deeds ++ deeds ∧
      OnlyFinishes deeds ∧
      (∀ deed ∈ deeds, deed.IsCrash →
        Caller.follow (cached.advance tokens now number) number = .answered (.error crashed)) ∧
      ∀ other, other ≠ number →
        (cached.advance tokens now number).attempts[other]? = cached.attempts[other]? := by
  have idle : ∃ deeds, cached.driver.deeds = cached.driver.deeds ++ deeds ∧ OnlyFinishes deeds ∧
      (∀ deed ∈ deeds, deed.IsCrash →
        Caller.follow cached number = .answered (.error crashed)) ∧
      ∀ other, other ≠ number → cached.attempts[other]? = cached.attempts[other]? :=
    ⟨[], by simp, by simp [OnlyFinishes], by simp, fun _ _ => rfl⟩
  simp only [advance]
  split
  · exact idle
  · rename_i attempt found
    split
    · exact idle
    · split
      · have found' : ({ cached with
            driver := (Driver.finishOpen cached.driver attempt.address).1 } :
              CachedDriver (Recorded δ)).attempts[number]? = some attempt := found
        refine ⟨[_], rfl, ?_, ?_, ?_⟩
        · simp [OnlyFinishes]
        · intro deed member isCrash
          obtain rfl := List.mem_singleton.1 member
          have broke : (Driver.finishOpen cached.driver attempt.address).2 = .crash := isCrash
          rw [finish, follow_conclude found', broke]
        · intro other differs
          rw [finish, getElem?_conclude found', if_neg differs]
      · split
        · split
          · refine ⟨[], by simp, by simp [OnlyFinishes], by simp, fun other differs => ?_⟩
            rw [getElem?_conclude found, if_neg differs]
          · exact idle
        · exact idle

/-- What comes of looking after somebody who wants a device opened. -/
structure Asks (cached : CachedDriver (Recorded δ)) (tokens : Tokens) (now : Nat)
    (context : RequestContext) (address : String) (caller : Caller)
    (polled : Polled (Recorded δ)) (deeds : List Deed) : Prop where
  added : polled.cached.driver.deeds = cached.driver.deeds ++ deeds
  cancelled : polled.tokens = deeds.foldl (Deed.cancelling context) tokens
  gated : (caller = .fresh → context.interruption? tokens now = none) →
    Gated context now tokens deeds
  openings : ∀ deed ∈ deeds, deed.beat? = none
  atHome : ∀ deed ∈ deeds, deed.begins = true → deed.address = address
  crash : ∀ deed ∈ deeds, deed.IsCrash → polled.caller = .answered (.error crashed)
  attempts : ∀ number attempt, cached.attempts[number]? = some attempt →
    polled.cached.attempts[number]? = some attempt ∨ cached.Joins address caller number

omit [Driver δ] in
theorem Asks.of_finishes {cached after : CachedDriver (Recorded δ)} {tokens : Tokens} {now : Nat}
    {context : RequestContext} {address : String} {caller caller' : Caller} {deeds : List Deed}
    (added : after.driver.deeds = cached.driver.deeds ++ deeds) (finishes : OnlyFinishes deeds)
    (crash : ∀ deed ∈ deeds, deed.IsCrash → caller' = .answered (.error crashed))
    (attempts : ∀ number attempt, cached.attempts[number]? = some attempt →
      after.attempts[number]? = some attempt ∨ cached.Joins address caller number) :
    cached.Asks tokens now context address caller { cached := after, tokens, caller := caller' }
      deeds where
  added := added
  cancelled := (finishes.cancelling tokens).symm
  gated _ := finishes.gated now tokens
  openings := by
    intro deed member
    rcases finishes deed member with ⟨_, _, rfl⟩
    rfl
  atHome := by
    intro deed member begins
    rcases finishes deed member with ⟨_, _, rfl⟩
    cases begins
  crash := crash
  attempts := attempts

theorem Asks.of_joins {cached : CachedDriver (Recorded δ)} {context : RequestContext}
    {address : String} {caller : Caller} {number : Nat} (joins : cached.Joins address caller number)
    (tokens : Tokens) (now : Nat) : ∃ deeds,
      cached.Asks tokens now context address caller
        { cached := cached.advance tokens now number, tokens
          caller := .follow (cached.advance tokens now number) number } deeds := by
  rcases cached.asks_advance tokens now number with ⟨deeds, added, finishes, crash, others⟩
  refine ⟨deeds, .of_finishes added finishes crash fun other attempt found => ?_⟩
  by_cases same : other = number
  · exact Or.inr (same ▸ joins)
  · exact Or.inl ((others other same).trans found)

omit [Driver δ] in
/-- An opening that begins is the first deed, and nothing but its end can follow. -/
theorem Asks.of_begin {cached after : CachedDriver (Recorded δ)} {tokens : Tokens} {now : Nat}
    {context : RequestContext} {address : String} {caller : Caller} {reaction : Reaction}
    {deeds : List Deed}
    (added : after.driver.deeds = cached.driver.deeds ++ .beginOpen address reaction :: deeds)
    (finishes : OnlyFinishes deeds)
    (crash : ∀ deed ∈ deeds, deed.IsCrash → caller = .answered (.error crashed))
    (attempts : ∀ (number : Nat) (attempt : Attempt), cached.attempts[number]? = some attempt →
      after.attempts[number]? = some attempt) :
    cached.Asks tokens now context address .fresh
      { cached := after
        tokens := Deed.cancelling context tokens (.beginOpen address reaction)
        caller := caller
        started := true } (.beginOpen address reaction :: deeds) where
  added := added
  cancelled := (finishes.cancelling _).symm
  gated live := ⟨fun _ => live rfl, finishes.gated now _⟩
  openings := by
    refine List.forall_mem_cons.2 ⟨rfl, fun deed member => ?_⟩
    rcases finishes deed member with ⟨_, _, rfl⟩
    rfl
  atHome := by
    refine List.forall_mem_cons.2 ⟨fun _ => rfl, fun deed member begins => ?_⟩
    rcases finishes deed member with ⟨_, _, rfl⟩
    cases begins
  crash := List.forall_mem_cons.2 ⟨False.elim, crash⟩
  attempts number attempt found := Or.inl (attempts number attempt found)

theorem asks_start (cached : CachedDriver (Recorded δ)) (tokens : Tokens) (now ticket : Nat)
    (context : RequestContext) (address : String) : ∃ deeds,
      cached.Asks tokens now context address .fresh
        { cached := (cached.start tokens now ticket context address).1
          tokens := (cached.start tokens now ticket context address).2
          caller := .follow (cached.start tokens now ticket context address).1
            cached.attempts.length
          started := true } deeds := by
  have older : ∀ {number : Nat} {attempt : Attempt},
      cached.attempts[number]? = some attempt → number ≠ cached.attempts.length := by
    intro number attempt found
    exact Nat.ne_of_lt (List.getElem?_eq_some_iff.1 found).1
  simp only [start]
  rcases opened : Driver.beginOpen cached.driver address with ⟨driver, reaction⟩
  have recorded : driver.deeds = cached.driver.deeds ++ [.beginOpen address reaction] := by
    simp only [Driver.beginOpen, Prod.mk.injEq] at opened
    rcases opened with ⟨rfl, rfl⟩
    rfl
  dsimp only
  split
  · refine ⟨_, .of_begin recorded (by simp [OnlyFinishes]) (by simp)
      fun number attempt found => ?_⟩
    rw [getElem?_conclude List.getElem?_concat_length, if_neg (older found)]
    exact getElem?_concat_eq_some.2 (Or.inl found)
  · let begun : CachedDriver (Recorded δ) := { cached with
      driver
      attempts := cached.attempts ++ [{
        address, context, ticket
        stage := .waiting (reaction.wait.due now) reaction.heedsContext }]
      inFlight := cached.inFlight.insert address cached.attempts.length }
    rcases begun.asks_advance (if reaction.cancels then tokens.cancel context.token else tokens) now
      cached.attempts.length with ⟨deeds, added, finishes, crash, others⟩
    refine ⟨_, .of_begin (added.trans ?_) finishes crash fun number attempt found => ?_⟩
    · rw [show begun.driver.deeds = _ from recorded, List.append_assoc, List.singleton_append]
    · rw [others number (older found)]
      exact getElem?_concat_eq_some.2 (Or.inl found)

theorem asks_poll (cached : CachedDriver (Recorded δ)) (tokens : Tokens) (now ticket : Nat)
    (context : RequestContext) (address : String) (caller : Caller) : ∃ deeds,
      cached.Asks tokens now context address caller
        (cached.poll tokens now ticket context address caller) deeds := by
  have idle : ∀ caller', ∃ deeds,
      cached.Asks tokens now context address caller { cached, tokens, caller := caller' } deeds :=
    fun caller' => ⟨[], .of_finishes (by simp) (by simp [OnlyFinishes]) (by simp)
      fun number attempt found => Or.inl found⟩
  simp only [poll]
  split
  · exact idle _
  · exact Asks.of_joins (Or.inl rfl) tokens now
  · split
    · exact idle _
    · split
      · exact Asks.of_joins (Or.inr ⟨rfl, ‹_›⟩) tokens now
      · exact cached.asks_start tokens now ticket context address

end CachedDriver

namespace World

variable {δ : Type}

/-- All attempts to open devices of a driver so far. -/
def attempts (world : World δ) (driver : String) : List Attempt :=
  ((world.registry.get driver).map CachedDriver.attempts).getD []

theorem attempts_eq {world : World δ} {driver : String} {cached : CachedDriver δ}
    (found : world.registry.get driver = some cached) :
    world.attempts driver = cached.attempts := by
  simp [attempts, found]

theorem attempts_of_set {world : World δ} {registry : Registry δ} {driver : String}
    {cached : CachedDriver δ} (isSet : world.registry = registry.set driver cached) :
    world.attempts driver = cached.attempts := by
  refine attempts_eq ?_
  simp [isSet, Registry.set, Registry.get, SortedMap.get?_insert]

/-- Between two moments one driver was asked for some deeds under a context, and no other was. -/
structure Asks (context : RequestContext) (driver : String) (before after : World (Recorded δ))
    (deeds : List Deed) : Prop where
  added : after.deeds driver = before.deeds driver ++ deeds
  others : ∀ name, name ≠ driver → after.registry.get name = before.registry.get name
  clock : after.clock = before.clock
  cancelled : after.tokens = deeds.foldl (Deed.cancelling context) before.tokens
  gated : Gated context before.clock before.tokens deeds

namespace Asks

variable {context : RequestContext} {driver : String}

theorem refl (world : World (Recorded δ)) : Asks context driver world world [] :=
  ⟨by simp, fun _ _ => rfl, rfl, rfl, trivial⟩

theorem trans {first middle last : World (Recorded δ)} {deeds others : List Deed}
    (earlier : Asks context driver first middle deeds)
    (later : Asks context driver middle last others) :
    Asks context driver first last (deeds ++ others) where
  added := by rw [later.added, earlier.added, List.append_assoc]
  others name differs := (later.others name differs).trans (earlier.others name differs)
  clock := later.clock.trans earlier.clock
  cancelled := by rw [later.cancelled, earlier.cancelled, List.foldl_append]
  gated := by
    refine earlier.gated.append ?_
    rw [← earlier.cancelled, ← earlier.clock]
    exact later.gated

end Asks

variable [Driver δ]

/-- Beginning a call under a live context is one deed. -/
theorem asks_beginCall {world : World (Recorded δ)} {config : DeviceConfig}
    {context : RequestContext}
    (registered : (world.registry.get config.driver).isSome = true)
    (live : world.interruption? context = none) (command : Command) : ∃ reaction,
      Asks context config.driver world (world.beginCall config context command).1
        [.beginCall config.address command reaction] ∧
      (world.beginCall config context command).1.attempts config.driver =
        world.attempts config.driver := by
  rcases Option.isSome_iff_exists.1 registered with ⟨cached, found⟩
  refine ⟨(Driver.beginCall cached.driver config.address command).2, ?_, ?_⟩
  · refine ⟨?_, ?_, ?_, ?_, ⟨fun _ => live, trivial⟩⟩
    · rw [deeds_eq found]
      simp only [beginCall, found]
      exact (deeds_of_set rfl).trans rfl
    · intro name differs
      simp only [beginCall, found]
      exact get_set_ne _ differs
    · simp only [beginCall, found]
      rfl
    · simp only [beginCall, found]
      rfl
  · rw [attempts_eq found]
    simp only [beginCall, found]
    rw [attempts_of_set (by rfl)]

/-- Finishing a call is one deed, and a crash if the driver breaks down. -/
theorem asks_finishCall {world world' : World (Recorded δ)} {config : DeviceConfig}
    {command : Command} {verdict : Verdict command} (context : RequestContext)
    (registered : (world.registry.get config.driver).isSome = true)
    (finished : world.finishCall config command = (world', verdict)) : ∃ kind,
      Asks context config.driver world world' [.finishCall config.address command kind] ∧
      (kind = .crash → verdict = .crashed) ∧
      world'.attempts config.driver = world.attempts config.driver := by
  rcases Option.isSome_iff_exists.1 registered with ⟨cached, found⟩
  rw [finishCall_eq found, Prod.mk.injEq] at finished
  rcases finished with ⟨rfl, rfl⟩
  refine ⟨(Driver.finishCall cached.driver config.address command).2.kind, ?_, ?_, ?_⟩
  · refine ⟨?_, fun name differs => get_set_ne _ differs, rfl, rfl, ⟨?_, trivial⟩⟩
    · rw [deeds_eq found]
      exact (deeds_of_set rfl).trans rfl
    · intro begins
      cases begins
  · intro broke
    cases replied : (Driver.finishCall cached.driver config.address command).2 with
    | crash => rfl
    | ok | error =>
        rw [replied] at broke
        cases broke
  · rw [attempts_eq found, attempts_of_set (by rfl)]

/-- What comes of looking after an opening: its driver is asked for openings only. -/
structure Opens (world : World (Recorded δ)) (driver address : String) (context : RequestContext)
    (caller : Caller) (deeds : List Deed) : Prop where
  asks : Asks context driver world (world.lookAfter driver address context caller).1 deeds
  openings : ∀ deed ∈ deeds, deed.beat? = none
  atHome : ∀ deed ∈ deeds, deed.begins = true → deed.address = address
  crash : ∀ deed ∈ deeds, deed.IsCrash →
    (world.lookAfter driver address context caller).2 = .answered (.error CachedDriver.crashed)
  attempts : ∀ number attempt, (world.attempts driver)[number]? = some attempt →
    ((world.lookAfter driver address context caller).1.attempts driver)[number]? = some attempt ∨
      ∃ cached, world.registry.get driver = some cached ∧ cached.Joins address caller number

theorem asks_lookAfter (world : World (Recorded δ)) (driver address : String)
    {context : RequestContext} {caller : Caller}
    (live : caller = .fresh → world.interruption? context = none) :
    ∃ deeds, world.Opens driver address context caller deeds := by
  cases found : world.registry.get driver with
  | none =>
      have same := lookAfter_missing found address context caller
      refine ⟨[], ?_, by simp, by simp, by simp, fun number attempt isAttempt => Or.inl ?_⟩
      · rw [same]
        exact .refl world
      · rw [same]
        exact isAttempt
  | some cached =>
      rcases cached.asks_poll world.tokens world.clock world.tickets context address caller with
        ⟨deeds, asks⟩
      rcases lookAfter_eq found address context caller with ⟨journal, tickets, same⟩
      generalize cached.poll world.tokens world.clock world.tickets context address caller = polled
        at asks same
      refine ⟨deeds, ?_, asks.openings, asks.atHome, ?_, fun number attempt isAttempt => ?_⟩
      · rw [same]
        refine ⟨?_, fun name differs => get_set_ne _ differs, rfl, asks.cancelled, asks.gated live⟩
        rw [deeds_of_set rfl, deeds_eq found]
        exact asks.added
      · rw [same]
        exact asks.crash
      · rw [attempts_eq found] at isAttempt
        rw [same, attempts_of_set rfl]
        exact (asks.attempts number attempt isAttempt).imp_right fun joins =>
          ⟨cached, found, joins⟩

end World

/-- The commands of the calls that are under way in some rows. -/
def calling (lanes : List Lane) : List Command := (lanes.filterMap Lane.call).map Call.command

namespace Task

variable {δ : Type} [Driver δ] {task : Task} {context : RequestContext}

/--
Between two states of a task at work its driver was asked for some halves of calls, and none of them
broke down. Every call that was finished or is still under way has begun meanwhile or before.
-/
structure Asks (task : Task) (context : RequestContext) (before after : Bench (Recorded δ))
    (deeds : List Deed) : Prop where
  asks : World.Asks context task.config.driver before.world after.world deeds
  address : ∀ deed ∈ deeds, deed.address = task.config.address
  sound : ∀ deed ∈ deeds, ¬deed.IsCrash
  own : ∀ command, (deeds.filterMap Deed.finished?).count command +
    (calling after.lanes).count command ≤
      (deeds.filterMap Deed.begun?).count command + (calling before.lanes).count command
  attempts : after.world.attempts task.config.driver = before.world.attempts task.config.driver

omit [Driver δ] in
theorem Asks.refl (bench : Bench (Recorded δ)) : task.Asks context bench bench [] :=
  ⟨.refl bench.world, by simp, by simp, by simp, rfl⟩

omit [Driver δ] in
theorem Asks.trans {first middle last : Bench (Recorded δ)} {deeds others : List Deed}
    (earlier : task.Asks context first middle deeds)
    (later : task.Asks context middle last others) :
    task.Asks context first last (deeds ++ others) where
  asks := earlier.asks.trans later.asks
  address deed member :=
    (List.mem_append.1 member).elim (earlier.address deed) (later.address deed)
  sound deed member := (List.mem_append.1 member).elim (earlier.sound deed) (later.sound deed)
  own command := by
    have before := earlier.own command
    have after := later.own command
    simp only [List.filterMap_append, List.count_append]
    omega
  attempts := later.attempts.trans earlier.attempts

omit [Driver δ] in
/-- A move that asks nothing of the driver loses calls at most. -/
theorem Asks.quiet {before after : Bench (Recorded δ)} (sameWorld : after.world = before.world)
    (fewer : ∀ command, (calling after.lanes).count command ≤
      (calling before.lanes).count command) : task.Asks context before after [] := by
  refine ⟨sameWorld ▸ .refl _, by simp, by simp, ?_, by rw [sameWorld]⟩
  intro command
  have atMost := fewer command
  simpa using atMost

theorem Move.asks {before after : Bench (Recorded δ)} (move : task.Move context before after)
    (registered : (before.world.registry.get task.config.driver).isSome = true) :
    ∃ deeds, task.Asks context before after deeds := by
  cases move with
  | skip here | leave here =>
      refine ⟨[], .quiet rfl fun command => ?_⟩
      simp [here, calling]
  | breakOff here =>
      refine ⟨[], .quiet rfl fun command => ?_⟩
      simp [here, calling, List.count_cons]
  | proceed isOver =>
      refine ⟨[], .quiet rfl fun command => ?_⟩
      simp [isOver, calling, Bench.successors, List.filterMap_map]
  | @begin front behind command rest here live =>
      rcases World.asks_beginCall registered live command with ⟨reaction, asks, attempts⟩
      refine ⟨_, asks, by simp [Deed.address], by simp [Deed.IsCrash], fun other => ?_, attempts⟩
      simp [here, calling, List.filterMap_cons, Deed.finished?, Deed.begun?, List.count_cons]
      omega
  | @finish front behind call rest world result here _ done =>
      rcases World.asks_finishCall context registered done with ⟨kind, asks, crash, attempts⟩
      refine ⟨_, asks, by simp [Deed.address], ?_, fun other => ?_, attempts⟩
      · intro deed member isCrash
        obtain rfl := List.mem_singleton.1 member
        cases crash isCrash
      · simp [here, calling, Deed.finished?, Deed.begun?, List.count_cons]
        omega

theorem Moves.asks {before after : Bench (Recorded δ)} (moves : task.Moves context before after)
    (registered : (before.world.registry.get task.config.driver).isSome = true) :
    ∃ deeds, task.Asks context before after deeds := by
  induction moves with
  | refl => exact ⟨[], .refl before⟩
  | tail moves move ih =>
      rcases ih with ⟨deeds, earlier⟩
      rcases move.asks ((Moves.later moves).registered _ registered) with ⟨others, later⟩
      exact ⟨deeds ++ others, earlier.trans later⟩

/-- What comes of looking after a task, in terms of what its driver was asked for meanwhile. -/
structure Asked (task : Task) (context : RequestContext) (calls : List Command)
    (before : World (Recorded δ)) (result : World (Recorded δ) × Task × Option Outcome)
    (deeds : List Deed) : Prop where
  asks : World.Asks context task.config.driver before result.1 deeds
  atHome : ∀ deed ∈ deeds, deed.begins = true → deed.address = task.config.address
  crash : ∀ deed ∈ deeds, deed.IsCrash →
    ∃ excuse : Excuse, result.2.2 = some (.ofDevice task.device excuse.text)
  own : ∀ command, (deeds.filterMap Deed.finished?).count command +
    (result.2.1.calls.map Call.command).count command ≤
      (deeds.filterMap Deed.begun?).count command + calls.count command

theorem Works.asked {bench : Bench (Recorded δ)}
    {result : World (Recorded δ) × Task × Option Outcome}
    (works : task.Works context bench result)
    (registered : (bench.world.registry.get task.config.driver).isSome = true) : ∃ deeds,
      task.Asked context (calling bench.lanes) bench.world result deeds ∧
      result.1.attempts task.config.driver = bench.world.attempts task.config.driver := by
  cases works with
  | stays moves =>
      rcases Moves.asks moves registered with ⟨deeds, asks⟩
      exact ⟨deeds, ⟨asks.asks, fun deed member _ => asks.address deed member,
        fun deed member isCrash => absurd isCrash (asks.sound deed member), asks.own⟩,
        asks.attempts⟩
  | reports moves =>
      rcases Moves.asks moves registered with ⟨deeds, asks⟩
      refine ⟨deeds, ⟨asks.asks, fun deed member _ => asks.address deed member,
        fun deed member isCrash => absurd isCrash (asks.sound deed member), fun command => ?_⟩,
        asks.attempts⟩
      have own := asks.own command
      simp only [calls, enter, List.map_nil, List.count_nil]
      omega
  | @crashes after world moves crash =>
      rcases crash with ⟨front, call, rest, behind, here, due, crashed⟩
      rcases Moves.asks moves registered with ⟨deeds, asks⟩
      have stillThere := (Moves.later moves).registered _ registered
      rcases World.asks_finishCall context stillThere crashed with
        ⟨kind, last, -, attempts⟩
      refine ⟨_, ⟨asks.asks.trans last, ?_, fun _ _ _ => ⟨.crashed, rfl⟩, fun command => ?_⟩,
        attempts.trans asks.attempts⟩
      · intro deed member begins
        rcases List.mem_append.1 member with before | isLast
        · exact asks.address deed before
        · obtain rfl := List.mem_singleton.1 isLast
          cases begins
      · have own := asks.own command
        have underWay : (calling after.lanes).count command ≥
            [call.command].count command := by
          simp [here, calling, List.count_cons]
          omega
        simp only [calls, enter, List.map_nil, List.count_nil, List.filterMap_append,
          List.count_append]
        simp only [List.filterMap_cons, List.filterMap_nil, Deed.finished?, Deed.begun?,
          List.count_nil]
        omega

omit [Driver δ] in
/-- A task that leaves the world as it is asks for nothing. -/
theorem asked_nothing (context : RequestContext) (world : World (Recorded δ))
    {calls : List Command} {after : Task} (outcome? : Option Outcome)
    (fewer : ∀ command,
      (after.calls.map Call.command).count command ≤ calls.count command) :
    task.Asked context calls world (world, after, outcome?) [] where
  asks := .refl world
  atHome := by simp
  crash := by simp
  own command := by
    have atMost := fewer command
    simpa using atMost

section Opening

variable {world : World (Recorded δ)} {caller : Caller} {deeds : List Deed}

/-- Whether the device stays unopened for now or for good, nothing but its opening was asked for. -/
theorem asked_opening
    (opens : world.Opens task.config.driver task.config.address context caller deeds)
    (calls : List Command) {after : Task} {outcome? : Option Outcome} (idle : after.calls = [])
    (excused : (task.opened context world caller).2 = .answered (.error CachedDriver.crashed) →
      ∃ excuse : Excuse, outcome? = some (.ofDevice task.device excuse.text)) :
    task.Asked context calls world
      ((task.opened context world caller).1, after, outcome?) deeds where
  asks := opens.asks
  atHome := opens.atHome
  crash deed member isCrash := excused (opens.crash deed member isCrash)
  own command := by simp [Deed.filterMap_finished_of_openings opens.openings, idle]

/-- What the work asks for comes after what the opening has asked for. -/
theorem Asked.after_opening {handle : Handle} {others : List Deed}
    {result : World (Recorded δ) × Task × Option Outcome}
    (opens : world.Opens task.config.driver task.config.address context caller deeds)
    (answer : (task.opened context world caller).2 = .answered (.ok handle))
    (told : task.Asked context [] (task.opened context world caller).1 result others)
    (calls : List Command) : task.Asked context calls world result (deeds ++ others) where
  asks := opens.asks.trans told.asks
  atHome deed member :=
    (List.mem_append.1 member).elim (opens.atHome deed) (told.atHome deed)
  crash deed member isCrash := by
    rcases List.mem_append.1 member with before | after
    · rw [opened, opens.crash deed before isCrash] at answer
      cases answer
    · exact told.crash deed after isCrash
  own command := by
    have own := told.own command
    rw [List.count_nil] at own
    simp only [List.filterMap_append, Deed.filterMap_finished_of_openings opens.openings,
      List.nil_append, List.count_append]
    omega

end Opening

theorem Polls.asked {world : World (Recorded δ)}
    {result : World (Recorded δ) × Task × Option Outcome}
    (polls : task.Polls context world result)
    (registered : (world.registry.get task.config.driver).isSome = true) : ∃ deeds,
      task.Asked context (task.calls.map Call.command) world result deeds := by
  cases polls with
  | silent isOver => exact ⟨[], asked_nothing context world none fun _ => le_rfl⟩
  | leavesOut =>
      refine ⟨[], asked_nothing context world _ fun command => ?_⟩
      simp [calls, enter]
  | @fails _ error opening live =>
      rcases world.asks_lookAfter _ task.config.address live with ⟨deeds, opens⟩
      exact ⟨deeds, asked_opening opens _ rfl fun _ => ⟨.unopened error, rfl⟩⟩
  | @givesUp _ interruption opening live =>
      rcases world.asks_lookAfter _ task.config.address live with ⟨deeds, opens⟩
      exact ⟨deeds, asked_opening opens _ rfl fun _ => ⟨.interrupted interruption, rfl⟩⟩
  | waits opening live unanswered =>
      rcases world.asks_lookAfter _ task.config.address live with ⟨deeds, opens⟩
      refine ⟨deeds, asked_opening opens _ rfl fun crashed => ?_⟩
      rw [crashed] at unanswered
      cases unanswered
  | @begins caller _ _ opening live answer works =>
      rcases world.asks_lookAfter _ task.config.address live with ⟨deeds, opens⟩
      have later := world.later_lookAfter task.config.driver task.config.address context caller
      rcases works.asked (later.registered _ registered) with ⟨others, told, -⟩
      exact ⟨deeds ++ others, told.after_opening opens answer _⟩
  | @goesOn lanes _ _ _ working works =>
      rcases works.asked registered with ⟨deeds, told, -⟩
      have sameCalls : task.calls.map Call.command = calling lanes := by
        rw [calls, working]
        rfl
      exact ⟨deeds, sameCalls ▸ told⟩

end Task

namespace Look

variable {δ : Type}

/-- The task waits for an attempt to open its device, or is about to join it. -/
def Joins (look : Look δ) (number : Nat) : Prop :=
  ∃ caller cached, look.task.phase = .opening caller ∧
    look.world.registry.get look.task.config.driver = some cached ∧
    cached.Joins look.task.config.address caller number

variable [Driver δ] {look : Look (Recorded δ)} {number : Nat} {attempt : Attempt}

/-- A look asks for its deeds, and for nothing else. -/
theorem asked_deeds (look : Look (Recorded δ))
    (registered : (look.world.registry.get look.task.config.driver).isSome = true) :
    look.task.Asked look.context (look.task.calls.map Call.command) look.world look.result
      look.deeds := by
  rcases look.polls.asked registered with ⟨deeds, asked⟩
  rwa [deeds_eq asked.asks.added]

theorem attempts_opened {caller : Caller} (opening : look.task.phase = .opening caller)
    (live : caller = .fresh → look.world.interruption? look.context = none)
    (found : (look.world.attempts look.task.config.driver)[number]? = some attempt) :
    ((look.task.opened look.context look.world caller).1.attempts
      look.task.config.driver)[number]? = some attempt ∨ look.Joins number := by
  rcases look.world.asks_lookAfter look.task.config.driver look.task.config.address live with
    ⟨_, opens⟩
  refine (opens.attempts number attempt found).imp_right ?_
  rintro ⟨cached, isCached, joins⟩
  exact ⟨caller, cached, opening, isCached, joins⟩

/-- A look goes on with no attempt but one that its task has joined. -/
theorem attempts_kept (registered : (look.world.registry.get look.task.config.driver).isSome = true)
    (found : (look.world.attempts look.task.config.driver)[number]? = some attempt) :
    (look.result.1.attempts look.task.config.driver)[number]? = some attempt ∨
      look.Joins number := by
  have polls := look.polls
  generalize look.result = result at polls
  cases polls with
  | silent | leavesOut => exact Or.inl found
  | fails opening live | givesUp opening live | waits opening live =>
      exact attempts_opened opening live found
  | @begins caller _ _ opening live _ works =>
      have later := look.world.later_lookAfter look.task.config.driver look.task.config.address
        look.context caller
      rcases works.asked (later.registered _ registered) with ⟨_, -, same⟩
      rw [same]
      exact attempts_opened opening live found
  | goesOn _ works =>
      rcases works.asked registered with ⟨_, -, same⟩
      rw [same]
      exact Or.inl found

end Look

end AvControl

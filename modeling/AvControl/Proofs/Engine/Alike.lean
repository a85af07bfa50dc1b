import AvControl.Proofs.Engine.Progress

/-!
# Runs that go alike

Two runs with drivers that do the same, under contexts that cannot be told apart by now, do the same
by now: what one function of the engine makes of the one, it makes of the other.
-/

namespace AvControl

/-- Drivers that do the same, and contexts that are told apart by their deadlines at most. -/
structure Likeness (δ ε : Type) [Driver δ] [Driver ε] where
  drivers : δ → ε → Prop
  contexts : RequestContext → RequestContext → Prop
  token : ∀ {a b}, contexts a b → a.token = b.token
  beginOpen : ∀ {d e}, drivers d e → ∀ address,
    drivers (Driver.beginOpen d address).1 (Driver.beginOpen e address).1 ∧
      (Driver.beginOpen d address).2 = (Driver.beginOpen e address).2
  finishOpen : ∀ {d e}, drivers d e → ∀ address,
    drivers (Driver.finishOpen d address).1 (Driver.finishOpen e address).1 ∧
      (Driver.finishOpen d address).2 = (Driver.finishOpen e address).2
  beginCall : ∀ {d e}, drivers d e → ∀ address command,
    drivers (Driver.beginCall d address command).1 (Driver.beginCall e address command).1 ∧
      (Driver.beginCall d address command).2 = (Driver.beginCall e address command).2
  finishCall : ∀ {d e}, drivers d e → ∀ address command,
    drivers (Driver.finishCall d address command).1 (Driver.finishCall e address command).1 ∧
      (Driver.finishCall d address command).2 = (Driver.finishCall e address command).2

namespace Likeness

variable {δ ε : Type} [Driver δ] [Driver ε] (like : Likeness δ ε)

/-- Contexts that are alike have ended alike by now. -/
def Agrees (now : Nat) : Prop :=
  ∀ a b, like.contexts a b → ∀ tokens, a.interruption? tokens now = b.interruption? tokens now

/-- Two attempts differ in their contexts at most. -/
structure Attempts (a b : Attempt) : Prop where
  address : a.address = b.address
  context : like.contexts a.context b.context
  ticket : a.ticket = b.ticket
  stage : a.stage = b.stage

structure Cached (a : CachedDriver δ) (b : CachedDriver ε) : Prop where
  driver : like.drivers a.driver b.driver
  handles : a.handles = b.handles
  attempts : List.Forall₂ like.Attempts a.attempts b.attempts
  inFlight : a.inFlight = b.inFlight

/-- Two worlds of the same moment that differ in their drivers and contexts at most. -/
structure Worlds (now : Nat) (a : World δ) (b : World ε) : Prop where
  clock : a.clock = now
  clock' : b.clock = now
  tokens : a.tokens = b.tokens
  registry : ∀ name, Option.Rel like.Cached (a.registry.get name) (b.registry.get name)
  journal : a.journal = b.journal
  tickets : a.tickets = b.tickets

/-- The same has come of two computations, in worlds that are alike. -/
structure Same {α : Type} (now : Nat) (a : World δ × α) (b : World ε × α) : Prop where
  worlds : like.Worlds now a.1 b.1
  result : a.2 = b.2

variable {like} {now : Nat}

/-! ### Drivers with a memory -/

namespace Cached

variable {a : CachedDriver δ} {b : CachedDriver ε}

theorem conclude (cached : like.Cached a b) (number : Nat) (address : String)
    (result : Except DriverError Handle) :
    like.Cached (a.conclude number address result) (b.conclude number address result) where
  driver := cached.driver
  handles := by
    cases result with
    | ok handle => exact congrArg (fun handles => handles.insert address handle) cached.handles
    | error => exact cached.handles
  attempts := by
    refine forall₂_modify cached.attempts (fun _ _ attempts => ?_) number
    exact ⟨attempts.address, attempts.context, attempts.ticket, rfl⟩
  inFlight := congrArg (fun inFlight => inFlight.erase address) cached.inFlight

theorem finish (cached : like.Cached a b) (number : Nat) (address : String) :
    like.Cached (a.finish number address) (b.finish number address) := by
  rcases like.finishOpen cached.driver address with ⟨drivers, replies⟩
  unfold CachedDriver.finish
  dsimp only
  rw [replies]
  have others : like.Cached { a with driver := (Driver.finishOpen a.driver address).1 }
      { b with driver := (Driver.finishOpen b.driver address).1 } :=
    ⟨drivers, cached.handles, cached.attempts, cached.inFlight⟩
  exact others.conclude number address _

theorem advance (agrees : like.Agrees now) (cached : like.Cached a b) (tokens : Tokens)
    (number : Nat) : like.Cached (a.advance tokens now number) (b.advance tokens now number) := by
  simp only [CachedDriver.advance]
  generalize isA : a.attempts[number]? = attemptA
  generalize isB : b.attempts[number]? = attemptB
  have attempts := getElem?_rel cached.attempts number
  rw [isA, isB] at attempts
  cases attempts with
  | none => exact cached
  | @some attemptA attemptB attempts =>
      dsimp only
      rw [attempts.stage]
      cases attemptB.stage with
      | ended => exact cached
      | waiting due heedsContext =>
          dsimp only
          rw [attempts.address, agrees _ _ attempts.context tokens]
          split
          · exact cached.finish number attemptB.address
          · split
            · split
              · exact cached.conclude number attemptB.address _
              · exact cached
            · exact cached

theorem follow (cached : like.Cached a b) (number : Nat) :
    Caller.follow a number = Caller.follow b number := by
  simp only [Caller.follow]
  generalize isA : a.attempts[number]? = attemptA
  generalize isB : b.attempts[number]? = attemptB
  have attempts := getElem?_rel cached.attempts number
  rw [isA, isB] at attempts
  cases attempts with
  | none => rfl
  | some attempts => simp only [Option.bind_some, Attempt.result?, attempts.stage]

variable {c d : RequestContext}

theorem start (agrees : like.Agrees now) (cached : like.Cached a b) (contexts : like.contexts c d)
    (tokens : Tokens) (ticket : Nat) (address : String) :
    like.Cached (a.start tokens now ticket c address).1 (b.start tokens now ticket d address).1 ∧
      (a.start tokens now ticket c address).2 = (b.start tokens now ticket d address).2 := by
  rcases like.beginOpen cached.driver address with ⟨drivers, reactions⟩
  unfold CachedDriver.start
  dsimp only
  rw [reactions, like.token contexts, agrees c d contexts, cached.attempts.length_eq]
  have begun : like.Cached
      { a with
        driver := (Driver.beginOpen a.driver address).1
        attempts := a.attempts ++ [{
          address
          context := c
          ticket
          stage := .waiting ((Driver.beginOpen b.driver address).2.wait.due now)
            (Driver.beginOpen b.driver address).2.heedsContext }]
        inFlight := a.inFlight.insert address b.attempts.length }
      { b with
        driver := (Driver.beginOpen b.driver address).1
        attempts := b.attempts ++ [{
          address
          context := d
          ticket
          stage := .waiting ((Driver.beginOpen b.driver address).2.wait.due now)
            (Driver.beginOpen b.driver address).2.heedsContext }]
        inFlight := b.inFlight.insert address b.attempts.length } :=
    { driver := drivers
      handles := cached.handles
      attempts := List.rel_append cached.attempts (.cons ⟨rfl, contexts, rfl, rfl⟩ .nil)
      inFlight := congrArg (fun inFlight => inFlight.insert address b.attempts.length)
        cached.inFlight }
  split
  · dsimp only
    exact ⟨begun.conclude _ _ _, rfl⟩
  · dsimp only
    exact ⟨begun.advance agrees _ _, rfl⟩

/-- What comes of looking after a caller is alike. -/
structure Polled (like : Likeness δ ε) (p : Polled δ) (q : Polled ε) : Prop where
  cached : like.Cached p.cached q.cached
  tokens : p.tokens = q.tokens
  caller : p.caller = q.caller
  started : p.started = q.started

theorem poll (agrees : like.Agrees now) (cached : like.Cached a b) (contexts : like.contexts c d)
    (tokens : Tokens) (ticket : Nat) (address : String) (caller : Caller) :
    Polled like (a.poll tokens now ticket c address caller)
      (b.poll tokens now ticket d address caller) := by
  have joins : ∀ number, Polled like
      { cached := a.advance tokens now number, tokens
        caller := .follow (a.advance tokens now number) number }
      { cached := b.advance tokens now number, tokens
        caller := .follow (b.advance tokens now number) number } := by
    intro number
    have advanced := cached.advance agrees tokens number
    exact ⟨advanced, rfl, advanced.follow number, rfl⟩
  cases caller with
  | answered result => exact ⟨cached, rfl, rfl, rfl⟩
  | joined number => exact joins number
  | fresh =>
      simp only [CachedDriver.poll]
      rw [cached.handles, cached.inFlight]
      split
      · exact ⟨cached, rfl, rfl, rfl⟩
      · split
        · exact joins _
        · rcases cached.start agrees contexts tokens ticket address with ⟨started, sameTokens⟩
          rw [cached.attempts.length_eq]
          exact ⟨started, sameTokens, started.follow _, rfl⟩

end Cached

/-! ### The world -/

section Worlds

variable {v : World δ} {w : World ε} {c d : RequestContext}

theorem Worlds.interruption (agrees : like.Agrees now) (worlds : like.Worlds now v w)
    (contexts : like.contexts c d) : v.interruption? c = w.interruption? d := by
  simp only [World.interruption?, worlds.clock, worlds.clock', worlds.tokens]
  exact agrees c d contexts w.tokens

theorem Worlds.set (worlds : like.Worlds now v w) {a : CachedDriver δ} {b : CachedDriver ε}
    (cached : like.Cached a b) (driver name : String) :
    Option.Rel like.Cached ((v.registry.set driver a).get name)
      ((w.registry.set driver b).get name) := by
  simp only [Registry.set, Registry.get, SortedMap.get?_insert]
  split
  · exact .some cached
  · exact worlds.registry name

theorem lookAfter_same (agrees : like.Agrees now) (worlds : like.Worlds now v w)
    (contexts : like.contexts c d) (driver address : String) (caller : Caller) :
    like.Same now (v.lookAfter driver address c caller) (w.lookAfter driver address d caller) := by
  simp only [World.lookAfter]
  generalize isA : v.registry.get driver = foundA
  generalize isB : w.registry.get driver = foundB
  have found := worlds.registry driver
  rw [isA, isB] at found
  cases found with
  | none => exact ⟨worlds, rfl⟩
  | @some a b cached =>
      have polled := cached.poll agrees contexts w.tokens w.tickets address caller
      have journal : v.journal ++ [⟨now, driver, address, .opening⟩] =
          w.journal ++ [⟨now, driver, address, .opening⟩] := by rw [worlds.journal]
      dsimp only
      rw [worlds.tokens, worlds.tickets, worlds.clock, worlds.clock', polled.started, polled.caller,
        polled.tokens]
      split
      · exact ⟨⟨rfl, rfl, rfl, worlds.set polled.cached driver, journal, rfl⟩, rfl⟩
      · exact ⟨⟨rfl, rfl, rfl, worlds.set polled.cached driver, worlds.journal, rfl⟩, rfl⟩

theorem beginCall_same (worlds : like.Worlds now v w) (contexts : like.contexts c d)
    (config : DeviceConfig) (command : Command) :
    like.Same now (v.beginCall config c command) (w.beginCall config d command) := by
  simp only [World.beginCall]
  generalize isA : v.registry.get config.driver = foundA
  generalize isB : w.registry.get config.driver = foundB
  have found := worlds.registry config.driver
  rw [isA, isB] at found
  cases found with
  | none => exact ⟨worlds, by rw [worlds.tickets]⟩
  | @some a b cached =>
      rcases like.beginCall cached.driver config.address command with ⟨drivers, reactions⟩
      have called : like.Cached
          { a with driver := (Driver.beginCall a.driver config.address command).1 }
          { b with driver := (Driver.beginCall b.driver config.address command).1 } :=
        ⟨drivers, cached.handles, cached.attempts, cached.inFlight⟩
      have journal : v.journal ++ [⟨now, config.driver, config.address, .call command⟩] =
          w.journal ++ [⟨now, config.driver, config.address, .call command⟩] := by
        rw [worlds.journal]
      dsimp only
      rw [reactions, worlds.tokens, worlds.tickets, worlds.clock, worlds.clock',
        like.token contexts]
      exact ⟨⟨rfl, rfl, rfl, worlds.set called config.driver, journal, rfl⟩, rfl⟩

theorem finishCall_same (worlds : like.Worlds now v w) (config : DeviceConfig)
    (command : Command) :
    like.Same now (v.finishCall config command) (w.finishCall config command) := by
  generalize isA : v.registry.get config.driver = foundA
  generalize isB : w.registry.get config.driver = foundB
  have found := worlds.registry config.driver
  rw [isA, isB] at found
  cases found with
  | none =>
      rw [World.finishCall_missing isA, World.finishCall_missing isB]
      exact ⟨worlds, rfl⟩
  | @some a b cached =>
      rcases like.finishCall cached.driver config.address command with ⟨drivers, replies⟩
      have called : like.Cached
          { a with driver := (Driver.finishCall a.driver config.address command).1 }
          { b with driver := (Driver.finishCall b.driver config.address command).1 } :=
        ⟨drivers, cached.handles, cached.attempts, cached.inFlight⟩
      rw [World.finishCall_eq isA, World.finishCall_eq isB, replies]
      exact ⟨⟨worlds.clock, worlds.clock', worlds.tokens, worlds.set called config.driver,
        worlds.journal, worlds.tickets⟩, rfl⟩

theorem settle_same (agrees : like.Agrees now) (worlds : like.Worlds now v w)
    (contexts : like.contexts c d) (config : DeviceConfig) (call : Call) :
    like.Same now (v.settle config c call) (w.settle config d call) := by
  simp only [World.settle]
  rw [worlds.interruption agrees contexts, worlds.clock, worlds.clock']
  split
  · exact finishCall_same worlds config call.command
  · split <;> exact ⟨worlds, rfl⟩

end Worlds

/-! ### Tasks -/

section Tasks

variable {v : World δ} {w : World ε} {c d : RequestContext}

theorem send_same (agrees : like.Agrees now) (contexts : like.contexts c d) (task : Task)
    (commands : List Command) : ∀ {v : World δ} {w : World ε} (outcome : Outcome),
      like.Worlds now v w →
        like.Same now (task.send c v outcome commands) (task.send d w outcome commands) := by
  induction commands with
  | nil => exact fun outcome worlds => ⟨worlds, rfl⟩
  | cons command rest ih =>
      intro v w outcome worlds
      unfold Task.send
      rw [worlds.interruption agrees contexts]
      split
      · exact ih _ worlds
      · have begun := beginCall_same worlds contexts task.config command
        dsimp only
        rw [begun.result, begun.worlds.interruption agrees contexts]
        split
        · exact ih _ begun.worlds
        · have settled := settle_same agrees begun.worlds contexts task.config
            (w.beginCall task.config d command).2
          generalize World.settle (v.beginCall task.config c command).1 task.config c _ = settledV
            at settled ⊢
          generalize World.settle (w.beginCall task.config d command).1 task.config d _ = settledW
            at settled ⊢
          rcases settledV with ⟨v', verdict⟩
          rcases settledW with ⟨w', verdict'⟩
          rcases settled with ⟨worlds', rfl⟩
          cases verdict with
          | waiting | crashed => exact ⟨worlds', rfl⟩
          | done result => exact ih _ worlds'

theorem pollLane_same (agrees : like.Agrees now) (contexts : like.contexts c d) (task : Task)
    (lane : Lane) (outcome : Outcome) (worlds : like.Worlds now v w) :
    like.Same now (task.pollLane c v outcome lane) (task.pollLane d w outcome lane) := by
  simp only [Task.pollLane]
  split
  · exact send_same agrees contexts task lane.rest outcome worlds
  · rename_i call isCall
    have settled := settle_same agrees worlds contexts task.config call
    generalize World.settle v task.config c call = settledV at settled ⊢
    generalize World.settle w task.config d call = settledW at settled ⊢
    rcases settledV with ⟨v', verdict⟩
    rcases settledW with ⟨w', verdict'⟩
    rcases settled with ⟨worlds', rfl⟩
    cases verdict with
    | waiting | crashed => exact ⟨worlds', rfl⟩
    | done result => exact send_same agrees contexts task lane.rest _ worlds'

theorem pollLanes_same (agrees : like.Agrees now) (contexts : like.contexts c d) (task : Task)
    (lanes : List Lane) : ∀ {v : World δ} {w : World ε} (outcome : Outcome),
      like.Worlds now v w →
        like.Same now (task.pollLanes c v outcome lanes) (task.pollLanes d w outcome lanes) := by
  induction lanes with
  | nil => exact fun outcome worlds => ⟨worlds, rfl⟩
  | cons lane rest ih =>
      intro v w outcome worlds
      have first := pollLane_same agrees contexts task lane outcome worlds
      simp only [Task.pollLanes]
      generalize task.pollLane c v outcome lane = firstV at first ⊢
      generalize task.pollLane d w outcome lane = firstW at first ⊢
      rcases firstV with ⟨v', outcome', ended⟩
      rcases firstW with ⟨w', _⟩
      rcases first with ⟨worlds', rfl⟩
      cases ended with
      | crashed => exact ⟨worlds', rfl⟩
      | finished => exact ih outcome' worlds'
      | waiting lane' =>
          have others := ih outcome' worlds'
          dsimp only at others ⊢
          generalize task.pollLanes c v' outcome' rest = othersV at others ⊢
          generalize task.pollLanes d w' outcome' rest = othersW at others ⊢
          rcases othersV with ⟨v'', outcome'', lanes⟩
          rcases othersW with ⟨w'', _⟩
          rcases others with ⟨worlds'', rfl⟩
          exact ⟨worlds'', rfl⟩

theorem pollWork_same (agrees : like.Agrees now) (contexts : like.contexts c d) (task : Task)
    (outcome : Outcome) (lanes : List Lane) (later : List (List Command))
    (worlds : like.Worlds now v w) :
    like.Same now (task.pollWork c v outcome lanes later)
      (task.pollWork d w outcome lanes later) := by
  have first := pollLanes_same agrees contexts task lanes outcome worlds
  simp only [Task.pollWork]
  generalize task.pollLanes c v outcome lanes = firstV at first ⊢
  generalize task.pollLanes d w outcome lanes = firstW at first ⊢
  rcases firstV with ⟨v', outcome', _ | _ | ⟨lane, rest⟩⟩
  all_goals rcases firstW with ⟨w', _⟩
  all_goals rcases first with ⟨worlds', rfl⟩
  · exact ⟨worlds', rfl⟩
  · have others := pollLanes_same agrees contexts task
      (later.map fun commands => { rest := commands }) outcome' worlds'
    dsimp only at others ⊢
    generalize task.pollLanes c v' outcome' _ = othersV at others ⊢
    generalize task.pollLanes d w' outcome' _ = othersW at others ⊢
    rcases othersV with ⟨v'', outcome'', _ | _ | ⟨lane, rest⟩⟩
    all_goals rcases othersW with ⟨w'', _⟩
    all_goals rcases others with ⟨worlds'', rfl⟩
    all_goals exact ⟨worlds'', rfl⟩
  · exact ⟨worlds', rfl⟩

theorem pollOpening_same (agrees : like.Agrees now) (contexts : like.contexts c d) (task : Task)
    (caller : Caller) (worlds : like.Worlds now v w) :
    like.Same now (task.pollOpening c v caller) (task.pollOpening d w caller) := by
  have opened := lookAfter_same agrees worlds contexts task.config.driver task.config.address caller
  simp only [Task.pollOpening]
  generalize v.lookAfter task.config.driver task.config.address c caller = openedV at opened ⊢
  generalize w.lookAfter task.config.driver task.config.address d caller = openedW at opened ⊢
  rcases openedV with ⟨v', caller'⟩
  rcases openedW with ⟨w', _⟩
  rcases opened with ⟨worlds', rfl⟩
  have same : v'.interruption? c = w'.interruption? d := worlds'.interruption agrees contexts
  cases caller' with
  | fresh | joined =>
      dsimp only
      rw [same]
      cases w'.interruption? d <;> exact ⟨worlds', rfl⟩
  | answered result =>
      cases result with
      | error error => exact ⟨worlds', rfl⟩
      | ok handle => exact pollWork_same agrees contexts task _ _ _ worlds'

/-- Looking after a task has the same result in worlds that are alike. -/
theorem poll_same (agrees : like.Agrees now) (contexts : like.contexts c d) (task : Task)
    (worlds : like.Worlds now v w) : like.Same now (task.poll c v) (task.poll d w) := by
  simp only [Task.poll]
  split
  · rw [worlds.interruption agrees contexts]
    split
    · exact ⟨worlds, rfl⟩
    · exact pollOpening_same agrees contexts task .fresh worlds
  · exact pollOpening_same agrees contexts task _ worlds
  · exact pollWork_same agrees contexts task _ _ _ worlds
  · exact ⟨worlds, rfl⟩

theorem deadline_same (agrees : like.Agrees now) (contexts : like.contexts c d) :
    c.deadline.any (· ≤ now) = d.deadline.any (· ≤ now) := by
  have same := congrArg Option.isSome (agrees c d contexts {})
  have none : ∀ context : RequestContext, (context.interruption? {} now).isSome =
      context.deadline.any (· ≤ now) := by
    intro context
    rw [Bool.eq_iff_iff, RequestContext.interruption?_isSome]
    simp [Tokens.isCancelled, Tokens.cancelledWithin]
  rwa [none, none] at same

theorem Attempts.wake {a b : Attempt} (agrees : like.Agrees now) (attempts : like.Attempts a b) :
    a.wake?.any (· ≤ now) = b.wake?.any (· ≤ now) := by
  simp only [Attempt.wake?]
  rw [attempts.stage]
  cases b.stage with
  | ended => rfl
  | waiting due heedsContext =>
      cases heedsContext with
      | false => rfl
      | true => simp only [any_earlier, if_true, deadline_same agrees attempts.context]

theorem Attempts.isOver {a b : Attempt} (agrees : like.Agrees now) (attempts : like.Attempts a b) :
    a.isOver now = b.isOver now := by
  simp only [Attempt.isOver]
  rw [attempts.stage, attempts.wake agrees]

theorem Attempts.isCancelled {a b : Attempt} (attempts : like.Attempts a b) (tokens : Tokens) :
    a.isCancelled tokens = b.isCancelled tokens := by
  simp only [Attempt.isCancelled]
  rw [attempts.stage, like.token attempts.context]

theorem attempt_same (task : Task) (worlds : like.Worlds now v w) :
    Option.Rel like.Attempts (task.attempt? v) (task.attempt? w) := by
  simp only [Task.attempt?]
  split
  · rename_i number _
    generalize isA : v.registry.get task.config.driver = foundA
    generalize isB : w.registry.get task.config.driver = foundB
    have found := worlds.registry task.config.driver
    rw [isA, isB] at found
    cases found with
    | none => exact .none
    | some cached => exact getElem?_rel cached.attempts number
  · exact .none

/-- It is the turn of a task at the same time in worlds that are alike. -/
theorem turn_same (agrees : like.Agrees now) (contexts : like.contexts c d) (task : Task)
    (worlds : like.Worlds now v w) : task.turn? c v = task.turn? d w := by
  have attempt := attempt_same task worlds
  have due : task.due v = task.due w := by
    simp only [Task.due]
    rw [worlds.clock, worlds.clock']
    generalize task.attempt? v = attemptV at attempt ⊢
    generalize task.attempt? w = attemptW at attempt ⊢
    cases attempt with
    | none => rfl
    | some attempts =>
        simp only [Option.filter, attempts.isOver agrees]
        split
        · simp only [Option.toList_some, List.map_cons, attempts.ticket]
        · rfl
  have brokenOff : task.isBrokenOff c v = task.isBrokenOff d w := by
    simp only [Task.isBrokenOff]
    rw [worlds.interruption agrees contexts, worlds.tokens]
    generalize task.attempt? v = attemptV at attempt ⊢
    generalize task.attempt? w = attemptW at attempt ⊢
    cases attempt with
    | none => rfl
    | some attempts => simp only [Option.any_some, attempts.isCancelled]
  have oldest : task.oldestWait v = task.oldestWait w := by
    simp only [Task.oldestWait]
    generalize task.attempt? v = attemptV at attempt ⊢
    generalize task.attempt? w = attemptW at attempt ⊢
    cases attempt with
    | none => rfl
    | some attempts => simp only [Option.toList_some, List.map_cons, attempts.ticket]
  simp only [Task.turn?]
  rw [due, brokenOff, oldest, worlds.tickets]

end Tasks

/-! ### Sessions -/

section Sessions

variable {v : World δ} {w : World ε} {a b : Session}

/-- Two sessions differ in their contexts at most. -/
structure Sessions (like : Likeness δ ε) (a b : Session) : Prop where
  context : like.contexts a.context b.context
  others : b = { a with context := b.context }

theorem Worlds.cancel (worlds : like.Worlds now v w) {c d : RequestContext}
    (contexts : like.contexts c d) : like.Worlds now (v.cancel c) (w.cancel d) :=
  ⟨worlds.clock, worlds.clock', by simp only [World.cancel, worlds.tokens, like.token contexts],
    worlds.registry, worlds.journal, worlds.tickets⟩

theorem Sessions.coordinate (sessions : like.Sessions a b) (ended : Option Interruption) :
    like.Sessions (a.coordinate ended) (b.coordinate ended) := by
  rcases sessions with ⟨contexts, others⟩
  rw [others]
  cases ended with
  | some interruption => exact ⟨contexts, rfl⟩
  | none =>
      have sameTasks : ({ a with context := b.context }.collect a.mailbox.length).tasks =
          (a.collect a.mailbox.length).tasks := rfl
      simp only [Session.coordinate]
      rw [sameTasks]
      split <;> exact ⟨contexts, rfl⟩

theorem Sessions.receive (sessions : like.Sessions a b) (j : Nat)
    (polled : Task × Option Outcome) :
    like.Sessions (a.receive j polled) (b.receive j polled) := by
  rcases sessions with ⟨contexts, others⟩
  rw [others]
  exact ⟨contexts, rfl⟩

/-- Attending to a session does the same in worlds that are alike. -/
theorem Sessions.attend (agrees : like.Agrees now) (sessions : like.Sessions a b)
    (worlds : like.Worlds now v w) :
    like.Worlds now (a.attend v).1 (b.attend w).1 ∧
      like.Sessions (a.attend v).2 (b.attend w).2 := by
  have sameContext : ∀ (session : Session) ended,
      (session.coordinate ended).context = session.context := by
    intro session ended
    rcases session.coordinate_eq ended with ⟨_, _, _, same⟩
    rw [same]
  have attended := sessions.coordinate (v.interruption? a.context)
  have cancelled := worlds.cancel sessions.context
  have finished : b.finished = a.finished := by rw [sessions.others]
  have ends := worlds.interruption agrees sessions.context
  have isOver : (b.coordinate (v.interruption? a.context)).finished =
      (a.coordinate (v.interruption? a.context)).finished := by rw [attended.others]
  have time : (b.coordinate (v.interruption? a.context)).isToBeCancelled now =
      (a.coordinate (v.interruption? a.context)).isToBeCancelled now := by
    simp only [Session.isToBeCancelled]
    rw [attended.others]
  unfold Session.attend
  rw [finished, ← ends, worlds.clock, worlds.clock']
  dsimp only
  rw [isOver, time, sameContext, sameContext, ← cancelled.interruption agrees sessions.context]
  split
  · exact ⟨worlds, sessions⟩
  · split
    · exact ⟨cancelled, attended.coordinate _⟩
    · exact ⟨worlds, attended⟩

end Sessions

/-! ### Runs -/

section Runs

variable {a : Run δ} {b : Run ε}

/-- Two runs of the same moment that are alike. -/
structure Runs (like : Likeness δ ε) (now : Nat) (a : Run δ) (b : Run ε) : Prop where
  worlds : like.Worlds now a.world b.world
  sessions : List.Forall₂ like.Sessions a.sessions b.sessions

theorem Runs.at_clock (runs : like.Runs now a b) : like.Runs b.world.clock a b :=
  runs.worlds.clock' ▸ runs

theorem attendAll_same (agrees : like.Agrees now) {as bs : List Session}
    (sessions : List.Forall₂ like.Sessions as bs) : ∀ {v : World δ} {w : World ε},
      like.Worlds now v w → like.Worlds now (Run.attendAll v as).1 (Run.attendAll w bs).1 ∧
        List.Forall₂ like.Sessions (Run.attendAll v as).2 (Run.attendAll w bs).2 := by
  induction sessions with
  | nil => exact fun worlds => ⟨worlds, .nil⟩
  | cons session rest ih =>
      intro v w worlds
      rcases session.attend agrees worlds with ⟨worlds', session'⟩
      rcases ih worlds' with ⟨worlds'', rest'⟩
      rw [Run.attendAll_cons, Run.attendAll_cons]
      exact ⟨worlds'', .cons session' rest'⟩

theorem Runs.attend (agrees : like.Agrees now) (runs : like.Runs now a b) :
    like.Runs now a.attend b.attend := by
  rcases attendAll_same agrees runs.sessions runs.worlds with ⟨worlds, sessions⟩
  exact ⟨worlds, sessions⟩

theorem Runs.wind (runs : like.Runs now a b) (time : Nat) :
    like.Runs time (a.wind time) (b.wind time) :=
  ⟨⟨rfl, rfl, runs.worlds.tokens, runs.worlds.registry, runs.worlds.journal, runs.worlds.tickets⟩,
    runs.sessions⟩

theorem Runs.pollTask (agrees : like.Agrees now) (runs : like.Runs now a b) (i j : Nat) :
    like.Runs now (a.pollTask i j) (b.pollTask i j) := by
  have session := getElem?_rel runs.sessions i
  simp only [Run.pollTask]
  generalize a.sessions[i]? = sessionA at session ⊢
  generalize b.sessions[i]? = sessionB at session ⊢
  cases session with
  | none => exact runs
  | @some session other alike =>
      have tasks : other.tasks = session.tasks := by rw [alike.others]
      dsimp only
      rw [tasks]
      cases session.tasks[j]? with
      | none => exact runs
      | some task =>
          have polled := poll_same agrees alike.context task runs.worlds
          have received : like.Sessions (session.receive j (task.poll session.context a.world).2)
              (other.receive j (task.poll other.context b.world).2) := by
            rw [← polled.result]
            exact alike.receive j _
          simp only [Session.receive] at received
          rw [tasks] at received
          exact ⟨polled.worlds, forall₂_set runs.sessions received i⟩

theorem Runs.turns (agrees : like.Agrees now) (runs : like.Runs now a b) : a.turns = b.turns := by
  simp only [Run.turns]
  refine flatMap_zipIdx_congr runs.sessions (fun session other i alike => ?_) 0
  dsimp only
  rw [show other.finished = session.finished by rw [alike.others],
    show other.tasks = session.tasks by rw [alike.others]]
  have turn : ∀ task : Task,
      task.turn? session.context a.world = task.turn? other.context b.world :=
    fun task => turn_same agrees alike.context task runs.worlds
  simp only [turn]

theorem Runs.hasMail (runs : like.Runs now a b) : a.hasMail = b.hasMail := by
  simp only [Run.hasMail]
  apply any_congr runs.sessions
  intro session other alike
  rw [alike.others]

theorem Runs.finished (runs : like.Runs now a b) : a.finished = b.finished := by
  simp only [Run.finished]
  apply all_congr runs.sessions
  intro session other alike
  rw [alike.others]

/-- Two moments, one of which may come after the horizon, are the same moment before it. -/
theorem eq_some_iff_of_any {x y : Option Nat} {horizon : Nat}
    (same : ∀ now < horizon, x.any (· ≤ now) = y.any (· ≤ now)) {time : Nat}
    (soon : time < horizon) : x = some time ↔ y = some time := by
  have least : ∀ moment : Option Nat, moment = some time ↔
      moment.any (· ≤ time) = true ∧ ∀ now < time, moment.any (· ≤ now) = false := by
    intro moment
    cases moment with
    | none => simp
    | some moment =>
        simp only [Option.some.injEq, Option.any_some, decide_eq_true_eq, decide_eq_false_iff_not]
        refine ⟨fun isTime => ⟨by omega, fun now earlier => by omega⟩, fun ⟨atMost, atLeast⟩ => ?_⟩
        by_contra differs
        exact atLeast moment (by omega) (Nat.le_refl _)
  have sameBefore : (∀ now < time, x.any (· ≤ now) = false) ↔
      ∀ now < time, y.any (· ≤ now) = false :=
    forall₂_congr fun now earlier => by rw [same now (by omega)]
  rw [least x, least y, same time soon, sameBefore]

variable {horizon : Nat}

theorem wakes_same (agrees : ∀ now < horizon, like.Agrees now) (task : Task) {v : World δ}
    {w : World ε} (worlds : like.Worlds now v w) {time : Nat} (soon : time < horizon) :
    time ∈ task.wakes v ↔ time ∈ task.wakes w := by
  have attempt := attempt_same task worlds
  simp only [Task.wakes]
  generalize task.attempt? v = attemptV at attempt ⊢
  generalize task.attempt? w = attemptW at attempt ⊢
  cases attempt with
  | none => rfl
  | @some attempt other attempts =>
      have wake : attempt.wake? = some time ↔ other.wake? = some time :=
        eq_some_iff_of_any (fun now soon => attempts.wake (agrees now soon)) soon
      simp only [Option.bind_some, List.mem_append, Option.mem_toList, wake]

theorem Runs.mem_wakes (agrees : ∀ now < horizon, like.Agrees now) (runs : like.Runs now a b)
    {time : Nat} (soon : time < horizon) : time ∈ a.wakes ↔ time ∈ b.wakes := by
  simp only [Run.wakes]
  apply mem_flatMap_congr runs.sessions
  intro session other alike
  have deadline : session.context.deadline = some time ↔ other.context.deadline = some time :=
    eq_some_iff_of_any (fun now soon => deadline_same (agrees now soon) alike.context) soon
  have wakes : ∀ task : Task, time ∈ task.wakes a.world ↔ time ∈ task.wakes b.world :=
    fun task => wakes_same agrees task runs.worlds soon
  rw [show other.finished = session.finished by rw [alike.others],
    show other.tasks = session.tasks by rw [alike.others],
    show other.cancelAt = session.cancelAt by rw [alike.others]]
  split
  · rfl
  · simp only [List.mem_append, Option.mem_toList, List.mem_flatMap, deadline, wakes]

/-- Before the horizon, time goes on in the same way. -/
theorem Runs.nextTime (agrees : ∀ now < horizon, like.Agrees now) (runs : like.Runs now a b)
    (patience : Option Nat) {time : Nat} (soon : time < horizon) :
    a.nextTime patience = some time ↔ b.nextTime patience = some time := by
  simp only [Run.nextTime]
  rw [List.min?_eq_some_iff, List.min?_eq_some_iff]
  have member : ∀ other < horizon,
      (other ∈ patience.toList ++ a.wakes.filter fun time => a.world.clock < time) ↔
        other ∈ patience.toList ++ b.wakes.filter fun time => b.world.clock < time := by
    intro other soon
    simp only [List.mem_append, List.mem_filter, runs.mem_wakes agrees soon, runs.worlds.clock,
      runs.worlds.clock']
  refine and_congr (member time soon) (forall_congr' fun other => ?_)
  by_cases otherSoon : other < horizon
  · rw [member other otherSoon]
  · exact ⟨fun _ _ => by omega, fun _ _ => by omega⟩

/-- A run takes the step that a run like it takes, if it is not kept from waiting as long. -/
theorem Runs.step (agrees : like.Agrees now) (runs : like.Runs now a b) {patience : Option Nat}
    {next : Run ε} (steps : b.step patience = some next)
    (waits : ∀ time, next = (b.wind time).attend → b.nextTime patience = some time →
      a.nextTime patience = some time ∧ like.Agrees time) :
    ∃ next', a.step patience = some next' ∧ like.Runs next.world.clock next' next := by
  simp only [Run.step] at steps ⊢
  rw [runs.finished, runs.turns agrees, runs.hasMail, runs.worlds.clock]
  rw [runs.worlds.clock'] at steps
  split at steps
  · cases steps
  · rename_i goesOn
    rw [if_neg goesOn]
    split at steps
    · obtain rfl := Option.some.inj steps
      exact ⟨_, rfl, (runs.pollTask agrees _ _).at_clock⟩
    · split at steps
      · rename_i mail
        obtain rfl := Option.some.inj steps
        rw [if_pos mail]
        exact ⟨_, rfl, (runs.attend agrees).at_clock⟩
      · rename_i noMail
        rw [if_neg noMail]
        rcases Option.map_eq_some_iff.1 steps with ⟨time, isNext, rfl⟩
        rcases waits time rfl isNext with ⟨isNext', agreesThen⟩
        rw [isNext']
        exact ⟨_, rfl, ((runs.wind time).attend agreesThen).at_clock⟩

end Runs

end Likeness

end AvControl

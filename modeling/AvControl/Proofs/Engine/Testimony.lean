import AvControl.Proofs.Driver.Delayed
import AvControl.Proofs.Engine.Companions

/-!
# What a task has been told

What a task brings rests on what its driver has said: that the device cannot be opened, that a
command broke down, or how each command of the plan came out. A driver whose delays are assigned
writes down all that it says, so whatever a task goes by can still be read when the request is over.
How long anything took is not part of it.
-/

namespace AvControl

namespace CachedDriver

variable {δ : Type} {context : RequestContext} {address : String} {known : Option Handle}
  {cached cached' : CachedDriver (Delayed δ)}

/-- What somebody is told who wants a device opened: the handle that was known, or what was said. -/
def Told (cached : CachedDriver (Delayed δ)) (address : String) (known : Option Handle)
    (result : Except DriverError Handle) : Prop :=
  match known with
  | some handle => result = .ok handle
  | none => ∃ reply, ⟨.finishOpen address, reply⟩ ∈ cached.driver.exchanges ∧
      result = Reply.opening reply

theorem Told.mono {result : Except DriverError Handle} (told : cached.Told address known result)
    (recalls : cached.driver.exchanges ⊆ cached'.driver.exchanges) :
    cached'.Told address known result := by
  cases known with
  | some handle => exact told
  | none =>
      rcases told with ⟨reply, said, same⟩
      exact ⟨reply, recalls said, same⟩

/-- Somebody who wants the device at an address opened where nobody else does. -/
inductive Awaits (context : RequestContext) (address : String) (known : Option Handle)
    (cached : CachedDriver (Delayed δ)) : Caller → Prop
  | fresh (kept : cached.handles.get? address = known)
      (grounded : cached.inFlight.get? address = none) :
      Awaits context address known cached .fresh
  /-- The attempt is the caller's own, and its wait is over some time. -/
  | joined {number due : Nat} {attempt : Attempt} {heedsContext : Bool} (unknown : known = none)
      (found : cached.attempts[number]? = some attempt) (here : attempt.address = address)
      (own : attempt.context = context)
      (waiting : attempt.stage = .waiting (some due) heedsContext) :
      Awaits context address known cached (.joined number)
  | answered {result : Except DriverError Handle} (told : cached.Told address known result) :
      Awaits context address known cached (.answered result)

theorem Awaits.sameAt {caller : Caller} (awaits : cached.Awaits context address known caller)
    (same : cached.SameAt address cached')
    (recalls : cached.driver.exchanges ⊆ cached'.driver.exchanges) :
    cached'.Awaits context address known caller := by
  cases awaits with
  | fresh kept grounded =>
      exact .fresh (same.handles.trans kept) (same.inFlight.trans grounded)
  | joined unknown found here own waiting =>
      exact .joined unknown ((same.attempts _ _ here).2 found) here own waiting
  | answered told => exact .answered (told.mono recalls)

variable [Driver δ] {tokens : Tokens} {now ticket : Nat}

/-- Under a live context an attempt ends only with what its driver says. -/
theorem awaits_advance {number due : Nat} {attempt : Attempt} {heedsContext : Bool}
    (found : cached.attempts[number]? = some attempt)
    (waiting : attempt.stage = .waiting (some due) heedsContext)
    (live : attempt.context.interruption? tokens now = none) :
    (cached.advance tokens now number).Awaits attempt.context attempt.address none
      (.follow (cached.advance tokens now number) number) := by
  have stays : cached.Awaits attempt.context attempt.address none (.follow cached number) := by
    have joined : Caller.follow cached number = .joined number := by
      simp [Caller.follow, found, Attempt.result?, waiting]
    rw [joined]
    exact .joined rfl found rfl rfl waiting
  simp only [advance]
  simp only [found, waiting, live]
  split
  · let asked : CachedDriver (Delayed δ) :=
      { cached with driver := (Driver.finishOpen cached.driver attempt.address).1 }
    have found' : asked.attempts[number]? = some attempt := found
    simp only [finish]
    rw [follow_conclude found']
    refine .answered ⟨(Driver.finishOpen cached.driver attempt.address).2, ?_, ?_⟩
    · exact List.mem_append_right _ (List.mem_singleton.2 rfl)
    · cases (Driver.finishOpen cached.driver attempt.address).2 <;> rfl
  · split
    · exact stays
    · exact stays

theorem awaits_start (live : context.interruption?
      (cached.start tokens now ticket context address).2 now = none) :
    (cached.start tokens now ticket context address).1.Awaits context address none
      (.follow (cached.start tokens now ticket context address).1 cached.attempts.length) := by
  revert live
  unfold start
  dsimp only
  split
  · -- The driver would heed a context that it has cancelled itself.
    rename_i interruption _ ended
    intro live
    exact absurd (ended.symm.trans live) (by simp)
  · intro live
    let reaction := (Driver.beginOpen cached.driver address).2
    let attempt : Attempt := {
      address, context, ticket, stage := .waiting (reaction.wait.due now) reaction.heedsContext }
    have waiting : attempt.stage = .waiting
      (some (now + cached.driver.delays (cached.driver.exchanges.map Exchange.ask)
        (.beginOpen address))) reaction.heedsContext := rfl
    exact awaits_advance List.getElem?_concat_length waiting live

/-- Under a live context somebody is answered only with what is known or what the driver says. -/
theorem Awaits.poll {caller : Caller} (awaits : cached.Awaits context address known caller)
    (live : context.interruption?
      (cached.poll tokens now ticket context address caller).tokens now = none) :
    (cached.poll tokens now ticket context address caller).cached.Awaits context address known
      (cached.poll tokens now ticket context address caller).caller := by
  cases awaits with
  | answered told => exact .answered told
  | joined unknown found here own waiting =>
      subst unknown here own
      exact awaits_advance found waiting live
  | fresh kept grounded =>
      simp only [CachedDriver.poll, kept, grounded] at live ⊢
      cases known with
      | some handle => exact .answered rfl
      | none => exact awaits_start live

end CachedDriver

namespace World

variable {δ : Type} {before after world : World (Delayed δ)} {config : DeviceConfig}
  {known : Option Handle}

/-- The same world with drivers whose delays are assigned. -/
def delayed (delays : String → Delays) (world : World δ) : World (Delayed δ) where
  clock := world.clock
  tokens := world.tokens
  registry := ⟨world.registry.drivers.mapValues fun name cached =>
    { cached with driver := { driver := cached.driver, delays := delays name } }⟩
  journal := world.journal
  tickets := world.tickets

/-- What a driver was asked for and what it said. -/
def Said (world : World (Delayed δ)) (driver : String) (ask : Ask)
    (response : ask.Response) : Prop :=
  ∃ cached, world.registry.get driver = some cached ∧ ⟨ask, response⟩ ∈ cached.driver.exchanges

def Told (world : World (Delayed δ)) (config : DeviceConfig) (known : Option Handle)
    (result : Except DriverError Handle) : Prop :=
  ∃ cached, world.registry.get config.driver = some cached ∧
    cached.Told config.address known result

/-- What came of a command is what its driver said. -/
def Vouches (world : World (Delayed δ)) (config : DeviceConfig) (deal : Deal) : Prop :=
  ∃ reply, world.Said config.driver (.finishCall config.address deal.command) reply ∧
    verdict reply = .done deal.result

/-- Whatever a driver has said is still written down. -/
def Recalls (driver : String) (before after : World (Delayed δ)) : Prop :=
  ∀ cached, before.registry.get driver = some cached → ∃ cached',
    after.registry.get driver = some cached' ∧ cached.driver.exchanges ⊆ cached'.driver.exchanges

namespace Recalls

theorem said {driver : String} (recalls : Recalls driver before after) {ask : Ask}
    {response : ask.Response} (said : before.Said driver ask response) :
    after.Said driver ask response := by
  rcases said with ⟨cached, found, member⟩
  rcases recalls cached found with ⟨cached', found', more⟩
  exact ⟨cached', found', more member⟩

theorem told {result : Except DriverError Handle} (recalls : Recalls config.driver before after)
    (told : before.Told config known result) : after.Told config known result := by
  rcases told with ⟨cached, found, told⟩
  rcases recalls cached found with ⟨cached', found', more⟩
  exact ⟨cached', found', told.mono more⟩

theorem vouches {deal : Deal} (recalls : Recalls config.driver before after)
    (vouches : before.Vouches config deal) : after.Vouches config deal := by
  rcases vouches with ⟨reply, said, same⟩
  exact ⟨reply, recalls.said said, same⟩

end Recalls

variable [Driver δ] {context : RequestContext}

theorem Tends.recalls (tends : Tends context config before after) :
    Recalls config.driver before after := by
  intro cached found
  have related := tends.cached
  rw [found] at related
  generalize after.registry.get config.driver = found' at related
  cases related with
  | @some _ cached' tends =>
      rcases tends.asks with ⟨asks, -, asked⟩
      exact ⟨cached', rfl, asked ▸ Delayed.exchanges_asked asks cached.driver⟩

theorem Spares.recalls (spares : Spares config before after) :
    Recalls config.driver before after := by
  intro cached found
  rcases spares.cached cached found with ⟨cached', found', -, asks, -, asked⟩
  exact ⟨cached', found', asked ▸ Delayed.exchanges_asked asks cached.driver⟩

/-- What is known about a call that is over is what its driver said. -/
theorem said_finishCall {world' : World (Delayed δ)} {command : Command} {result : Verdict command}
    (finished : world.finishCall config command = (world', result)) (isOver : result ≠ .waiting) :
    ∃ reply, world'.Said config.driver (.finishCall config.address command) reply ∧
      verdict reply = result := by
  cases found : world.registry.get config.driver with
  | none =>
      rw [finishCall_missing found, Prod.mk.injEq] at finished
      exact absurd finished.2.symm isOver
  | some cached =>
      rw [finishCall_eq found, Prod.mk.injEq] at finished
      rcases finished with ⟨rfl, rfl⟩
      refine ⟨_, ⟨_, get_set _ _ _, ?_⟩, rfl⟩
      exact List.mem_append_right _ (List.mem_singleton.2 rfl)

theorem due_beginCall (registered : (world.registry.get config.driver).isSome = true)
    (context : RequestContext) (command : Command) :
    (world.beginCall config context command).2.due.isSome = true := by
  rcases Option.isSome_iff_exists.1 registered with ⟨cached, found⟩
  simp only [beginCall, found]
  exact Delayed.due_beginCall cached.driver config.address command world.clock

end World

namespace Task

variable {δ : Type} {task : Task} {plan : Plan} {outcome : Outcome}
  {before after : World (Delayed δ)}

/-- All commands of a plan but the pending ones have come out as the driver said. -/
def Witnessed (task : Task) (plan : Plan) (world : World (Delayed δ)) (pending : List Command)
    (outcome : Outcome) : Prop :=
  ∃ deals : List Deal,
    outcome.findings = deals.filterMap Deal.finding? ∧
    outcome.reports = plan.refused ++ deals.filterMap (fun deal => deal.report? task.device) ∧
    (deals.map Deal.command ++ pending).Perm plan.commands ∧
    ∀ deal ∈ deals, world.Vouches task.config deal

namespace Witnessed

theorem mono {some others : List Command} (witnessed : task.Witnessed plan before some outcome)
    (recalls : World.Recalls task.config.driver before after) (same : some.Perm others) :
    task.Witnessed plan after others outcome := by
  rcases witnessed with ⟨deals, findings, reports, all, vouched⟩
  exact ⟨deals, findings, reports, (same.symm.append_left _).trans all,
    fun deal member => recalls.vouches (vouched deal member)⟩

theorem note {world : World (Delayed δ)} {deal : Deal} {others : List Command}
    (witnessed : task.Witnessed plan world (deal.command :: others) outcome)
    (vouched : world.Vouches task.config deal) :
    task.Witnessed plan world others (task.note outcome deal.command deal.result) := by
  rcases witnessed with ⟨deals, findings, reports, all, vouched'⟩
  refine ⟨deals ++ [deal], ?_, ?_, by simpa using all, fun other member => ?_⟩
  · rw [findings_note, findings, List.filterMap_append]
  · rw [reports_note, reports, List.filterMap_append, List.append_assoc]
  · rcases List.mem_append.1 member with old | new
    · exact vouched' other old
    · exact List.mem_singleton.1 new ▸ vouched

end Witnessed

/--
What is known of a task that has not reported: how it waits for its device, or what it was told, and
that it does not wait for ever.
-/
inductive Vouched (context : RequestContext) (known : Option Handle) (world : World (Delayed δ))
    (task : Task) : Prop
  | opens {caller : Caller} {cached : CachedDriver (Delayed δ)}
      (opening : task.phase = .opening caller) (unanswered : caller.answer? = none)
      (found : world.registry.get task.config.driver = some cached)
      (awaits : cached.Awaits context task.config.address known caller) :
      Vouched context known world task
  | works {lanes : List Lane} {later : List (List Command)} {outcome : Outcome} {handle : Handle}
      (working : task.phase = .working lanes later outcome)
      (told : world.Told task.config known (.ok handle))
      (witnessed : task.Witnessed (task.work.plan task.device task.config handle) world
        (pending lanes later) outcome)
      (busy : ∃ lane ∈ lanes, ∃ call, lane.call = some call)
      (prompt : Prompt lanes) :
      Vouched context known world task

/-- The task as it is some time later, and what is known of it. -/
def Follows (task : Task) (context : RequestContext) (known : Option Handle)
    (world : World (Delayed δ)) (other : Task) : Prop :=
  (∃ phase, other = task.enter phase) ∧ other.Vouched context known world

/-- What a task brings that nobody has hurried, and what the driver said that led to it. -/
inductive Brings (task : Task) (known : Option Handle) (world : World (Delayed δ)) :
    Outcome → Prop
  | unopened {error : DriverError} (told : world.Told task.config known (.error error)) :
      Brings task known world (.ofDevice task.device (FieldError.create error).message)
  | crashed {handle : Handle} {command : Command}
      (told : world.Told task.config known (.ok handle))
      (wanted : command ∈ (task.work.plan task.device task.config handle).commands)
      (said : world.Said task.config.driver (.finishCall task.config.address command) .crash) :
      Brings task known world (.ofDevice task.device crashText)
  | done {handle : Handle} {outcome : Outcome}
      (told : world.Told task.config known (.ok handle))
      (witnessed : task.Witnessed (task.work.plan task.device task.config handle) world []
        outcome) :
      Brings task known world outcome

theorem Brings.enter {world : World (Delayed δ)} {known : Option Handle} {phase : Phase}
    (brings : (task.enter phase).Brings known world outcome) : task.Brings known world outcome := by
  cases brings with
  | unopened told => exact .unopened told
  | crashed told wanted said => exact .crashed told wanted said
  | done told witnessed => exact .done told witnessed

theorem Brings.mono {known : Option Handle} (brings : task.Brings known before outcome)
    (recalls : World.Recalls task.config.driver before after) :
    task.Brings known after outcome := by
  cases brings with
  | unopened told => exact .unopened (recalls.told told)
  | crashed told wanted said => exact .crashed (recalls.told told) wanted (recalls.said said)
  | done told witnessed => exact .done (recalls.told told) (witnessed.mono recalls (.refl []))

variable [Driver δ] {context : RequestContext} {known : Option Handle} {handle : Handle}
  {world : World (Delayed δ)} {bench bench' : Bench (Delayed δ)}
  {result : World (Delayed δ) × Task × Option Outcome}

/-- Under a live context a command is settled only by what its driver says. -/
theorem Move.witnessed (move : task.Move context bench bench')
    (live : bench'.world.interruption? context = none)
    (witnessed : task.Witnessed plan bench.world (pending bench.lanes bench.later)
      bench.outcome) :
    task.Witnessed plan bench'.world (pending bench'.lanes bench'.later) bench'.outcome := by
  have recalls := move.tends.recalls
  rcases move.deals with ⟨same, sameOutcome⟩ | ⟨deal, same, noted, ended | done⟩
  · rw [sameOutcome]
    exact witnessed.mono recalls same
  · -- an interruption would be an error that no driver has spoken of
    exact absurd (move.later.live live) ended
  · rw [noted]
    exact (witnessed.mono recalls same).note (World.said_finishCall done (by simp))

theorem Moves.witnessed (moves : task.Moves context bench bench')
    (live : bench'.world.interruption? context = none)
    (witnessed : task.Witnessed plan bench.world (pending bench.lanes bench.later)
      bench.outcome) :
    task.Witnessed plan bench'.world (pending bench'.lanes bench'.later) bench'.outcome := by
  induction moves with
  | refl => exact witnessed
  | tail _ move ih => exact move.witnessed live (ih (move.later.live live))

theorem Works.vouched (works : task.Works context bench result)
    (registered : (bench.world.registry.get task.config.driver).isSome = true)
    (live : result.1.interruption? context = none)
    (told : bench.world.Told task.config known (.ok handle))
    (witnessed : task.Witnessed (task.work.plan task.device task.config handle) bench.world
      (pending bench.lanes bench.later) bench.outcome)
    (prompt : Prompt bench.lanes) :
    (result.2.2 = none → result.2.1.Vouched context known result.1) ∧
      ∀ outcome, result.2.2 = some outcome → task.Brings known result.1 outcome := by
  have recalls := works.tends.1.recalls
  cases works with
  | @stays bench' moves busy idle =>
      refine ⟨fun _ => ?_, by simp⟩
      rcases List.exists_mem_of_ne_nil _ busy with ⟨lane, member⟩
      rcases idle lane member with ⟨call, isCall, -⟩
      have goesBy := Moves.witnessed moves live witnessed
      exact .works rfl (recalls.told told) goesBy ⟨lane, member, call, isCall⟩
        (Moves.prompt moves (fun _ registered => World.due_beginCall registered context) registered
          prompt)
  | @reports bench' moves isOver last =>
      refine ⟨by simp, fun outcome isOutcome => ?_⟩
      obtain rfl := Option.some.inj isOutcome
      have settled := Moves.witnessed moves live witnessed
      rw [isOver, last] at settled
      exact .done (recalls.told told) settled
  | @crashes bench' world moves crash =>
      refine ⟨by simp, fun outcome isOutcome => ?_⟩
      obtain rfl := Option.some.inj isOutcome
      rcases crash with ⟨before, call, rest, after, here, -, crashed⟩
      have later := World.later_finishCall bench'.world task.config call.command
      rw [crashed] at later
      rcases Moves.witnessed moves (later.live live) witnessed with ⟨deals, -, -, all, -⟩
      have wanted : call.command ∈ pending bench'.lanes bench'.later := by
        simp [here, pending, Lane.commands]
      rcases World.said_finishCall crashed (by simp) with ⟨reply, said, isCrash⟩
      obtain rfl : reply = .crash := by
        cases reply with
        | ok | error => simp [World.verdict] at isCrash
        | crash => rfl
      exact .crashed (recalls.told told) (all.subset (List.mem_append_right _ wanted)) said

theorem opened_awaits {caller : Caller} {cached : CachedDriver (Delayed δ)}
    (found : world.registry.get task.config.driver = some cached)
    (awaits : cached.Awaits context task.config.address known caller)
    (live : (task.opened context world caller).1.interruption? context = none) :
    ∃ cached', (task.opened context world caller).1.registry.get task.config.driver =
      some cached' ∧
      cached'.Awaits context task.config.address known (task.opened context world caller).2 := by
  rcases World.lookAfter_eq found task.config.address context caller with
    ⟨journal, tickets, same⟩
  rw [opened, same] at live ⊢
  exact ⟨_, World.get_set _ _ _, awaits.poll live⟩

/-- A task that nobody hurries goes by what its driver says. -/
theorem Polls.vouched (polls : task.Polls context world result)
    (vouched : task.Vouched context known world)
    (live : result.1.interruption? context = none) :
    (result.2.2 = none → result.2.1.Vouched context known result.1) ∧
      ∀ outcome, result.2.2 = some outcome → task.Brings known result.1 outcome := by
  have awaits : ∀ caller, task.phase = .opening caller →
      (task.opened context world caller).1.interruption? context = none → ∃ cached,
        (task.opened context world caller).1.registry.get task.config.driver = some cached ∧
        cached.Awaits context task.config.address known
          (task.opened context world caller).2 := by
    intro caller opening stillLive
    cases vouched with
    | opens opening' _ found awaits =>
        obtain rfl := Phase.opening.inj (opening.symm.trans opening')
        exact opened_awaits found awaits stillLive
    | works working =>
        rw [opening] at working
        cases working
  have told : ∀ caller answer, task.phase = .opening caller →
      (task.opened context world caller).1.interruption? context = none →
      (task.opened context world caller).2 = .answered answer →
        (task.opened context world caller).1.Told task.config known answer := by
    intro caller answer opening stillLive isAnswer
    rcases awaits caller opening stillLive with ⟨cached, found, awaits⟩
    rw [isAnswer] at awaits
    cases awaits with
    | answered told => exact ⟨cached, found, told⟩
  cases polls with
  | silent => exact ⟨fun _ => vouched, by simp⟩
  | leavesOut _ ended | givesUp _ _ _ ended => exact absurd (ended.symm.trans live) (by simp)
  | fails opening _ answer =>
      refine ⟨by simp, fun outcome isOutcome => ?_⟩
      obtain rfl := Option.some.inj isOutcome
      exact .unopened (told _ _ opening live answer)
  | waits opening _ unanswered =>
      rcases awaits _ opening live with ⟨cached, found, awaits⟩
      exact ⟨fun _ => .opens rfl unanswered found awaits, by simp⟩
  | @begins caller handle _ opening _ answer works =>
      have told := told _ _ opening (works.later.live live) answer
      refine works.vouched ?_ live told ⟨[], ?_⟩ ?_
      · rcases told with ⟨cached, found, -⟩
        exact Option.isSome_iff_exists.2 ⟨cached, found⟩
      · simp [workbench, Plan.commands, pending, Lane.commands]
      · simp [Prompt, workbench]
  | goesOn working works =>
      cases vouched with
      | opens opening =>
          rw [working] at opening
          cases opening
      | works working' told witnessed _ prompt =>
          obtain ⟨rfl, rfl, rfl⟩ := Phase.working.inj (working.symm.trans working')
          have registered := Option.isSome_iff_exists.2 (told.imp fun _ found => found.1)
          exact works.vouched registered live told witnessed prompt

omit [Driver δ] in
/-- A task that has not reported can go on, or will be able to. -/
theorem Vouched.stirs (vouched : task.Vouched context known world) :
    (task.turn? context world).isSome = true ∨ ∃ wake, wake ∈ task.wakes world := by
  cases vouched with
  | @opens caller cached opening unanswered found awaits =>
      cases awaits with
      | fresh => exact Or.inl (by simp [turn?, opening])
      | answered => cases unanswered
      | joined _ isAttempt _ _ waiting =>
          exact Or.inr (exists_wake_of_joined opening found isAttempt waiting)
  | works working _ _ busy prompt => exact Or.inr (exists_wake_of_working working busy prompt)

omit [Driver δ] in
theorem Vouched.wind (vouched : task.Vouched context known world) (time : Nat) :
    task.Vouched context known { world with clock := time } := by
  cases vouched with
  | opens opening unanswered found awaits => exact .opens opening unanswered found awaits
  | works working told witnessed busy prompt => exact .works working told witnessed busy prompt

theorem Vouched.spared (vouched : task.Vouched context known before)
    (spares : World.Spares task.config before after) : task.Vouched context known after := by
  have recalls := spares.recalls
  cases vouched with
  | opens opening unanswered found awaits =>
      rcases spares.cached _ found with ⟨cached', found', same, asks, -, asked⟩
      refine .opens opening unanswered found' (awaits.sameAt same ?_)
      exact asked ▸ Delayed.exchanges_asked asks _
  | works working told witnessed busy prompt =>
      exact .works working (recalls.told told) (witnessed.mono recalls (.refl _)) busy prompt

/-- A task that nobody hurries brings what its driver has said. -/
theorem watch_vouched (task : Task) (context : RequestContext) (known : Option Handle) :
    Watch (Delayed δ) context task.config (task.Follows context known) (task.Brings known) where
  looks := by
    rintro world other - ⟨⟨phase, rfl⟩, vouched⟩ - - live
    have polls := (task.enter phase).poll_polls context world
    rcases polls.eq_enter with ⟨phase', same⟩
    rcases polls.vouched vouched live with ⟨goesOn, brings⟩
    exact ⟨fun silent => ⟨⟨phase', same⟩, goesOn silent⟩,
      fun outcome isOutcome => (brings outcome isOutcome).enter⟩
  spared := by
    rintro before after other spares ⟨⟨phase, rfl⟩, vouched⟩
    exact ⟨⟨phase, rfl⟩, vouched.spared spares⟩
  waits := by
    rintro world other time - - - ⟨same, vouched⟩
    exact ⟨same, vouched.wind time⟩
  stays spares brings := brings.mono spares.recalls
  lasts time brings := brings.mono fun cached found => ⟨cached, found, List.Subset.refl _⟩

end Task

end AvControl

import AvControl.Proofs.Driver.Transcribed
import AvControl.Proofs.Engine.Settlement
import AvControl.Proofs.Engine.Trace

/-!
# The transcript of a task

With transcribed drivers it can be read off what a task was told. As long as its context is live and
its calls end well, a task makes the calls of its plan and reports what its driver said about them,
word for word and in the order in which it was said. This is one predicate of a task and of what is
still to come of it: a task that has reported has nothing to come, and whoever looks after a task
adds what was said meanwhile to what comes later.
-/

namespace AvControl

namespace Utterance

def beat : Utterance → Beat
  | began _ command _ => .began command
  | replied _ command _ => .ended command

/-- What is settled by a reply. A driver that breaks down settles nothing. -/
def deal? : Utterance → Option Deal
  | replied _ command (.ok result) => some ⟨command, .ok result⟩
  | replied _ command (.error error) => some ⟨command, .error (.driver error)⟩
  | replied _ _ .crash | began _ _ _ => none

@[simp]
theorem command_beat (utterance : Utterance) : utterance.beat.command = utterance.command := by
  cases utterance <;> rfl

theorem deal?_replied {command : Command} {reply : Reply command.Result}
    {result : Except FieldError command.Result} (address : String)
    (settles : World.verdict reply = .done result) :
    (replied address command reply).deal? = some ⟨command, result⟩ := by
  cases reply with
  | ok | error =>
      obtain rfl := Verdict.done.inj settles
      rfl
  | crash => cases settles

end Utterance

namespace CachedDriver

variable {δ : Type} [Driver δ] {cached : CachedDriver (Transcribed δ)}

/-! Openings are not written down. -/

theorem transcript_advance (tokens : Tokens) (now number : Nat) :
    (cached.advance tokens now number).driver.transcript = cached.driver.transcript := by
  simp only [advance]
  split
  · rfl
  · split
    · rfl
    · split
      · rfl
      · split
        · split <;> rfl
        · rfl

theorem transcript_start (tokens : Tokens) (now ticket : Nat) (context : RequestContext)
    (address : String) :
    (cached.start tokens now ticket context address).1.driver.transcript =
      cached.driver.transcript := by
  unfold start
  dsimp only
  split
  · rfl
  · exact transcript_advance _ _ _

theorem transcript_poll (tokens : Tokens) (now ticket : Nat) (context : RequestContext)
    (address : String) (caller : Caller) :
    (cached.poll tokens now ticket context address caller).cached.driver.transcript =
      cached.driver.transcript := by
  simp only [poll]
  split
  · rfl
  · exact transcript_advance _ _ _
  · split
    · rfl
    · split
      · exact transcript_advance _ _ _
      · exact transcript_start _ _ _ _ _

end CachedDriver

namespace World

variable {δ : Type}

/-- What a driver said about the calls that it was asked for so far. -/
def transcript (world : World (Transcribed δ)) (driver : String) : List Utterance :=
  ((world.registry.get driver).map fun cached => cached.driver.transcript).getD []

theorem transcript_eq {world : World (Transcribed δ)} {driver : String}
    {cached : CachedDriver (Transcribed δ)} (found : world.registry.get driver = some cached) :
    world.transcript driver = cached.driver.transcript := by
  simp [transcript, found]

theorem transcript_of_set {world : World (Transcribed δ)} {registry : Registry (Transcribed δ)}
    {driver : String} {cached : CachedDriver (Transcribed δ)}
    (isSet : world.registry = registry.set driver cached) :
    world.transcript driver = cached.driver.transcript := by
  refine transcript_eq ?_
  rw [isSet, get_set]

variable [Driver δ]

theorem transcript_lookAfter (world : World (Transcribed δ)) (driver address : String)
    (context : RequestContext) (caller : Caller) :
    (world.lookAfter driver address context caller).1.transcript driver =
      world.transcript driver := by
  cases found : world.registry.get driver with
  | none => rw [lookAfter_missing found]
  | some cached =>
      rcases lookAfter_eq found address context caller with ⟨journal, tickets, same⟩
      rw [same, transcript_eq found, transcript_of_set rfl]
      exact CachedDriver.transcript_poll _ _ _ _ _ _

/-- What a driver says when a call is begun tells how long the call takes. -/
theorem transcript_beginCall {world : World (Transcribed δ)} {config : DeviceConfig}
    (registered : (world.registry.get config.driver).isSome = true) (context : RequestContext)
    (command : Command) : ∃ reaction,
      (world.beginCall config context command).1.transcript config.driver =
        world.transcript config.driver ++ [.began config.address command reaction] ∧
      (world.beginCall config context command).2.due = reaction.wait.due world.clock := by
  rcases Option.isSome_iff_exists.1 registered with ⟨cached, found⟩
  refine ⟨(Driver.beginCall cached.driver config.address command).2, ?_, ?_⟩
  · rw [transcript_eq found]
    simp only [beginCall, found]
    exact (transcript_of_set rfl).trans rfl
  · simp only [beginCall, found]

/-- What is known about a call that is finished is what the driver says. -/
theorem transcript_finishCall {world world' : World (Transcribed δ)} {config : DeviceConfig}
    {command : Command} {result : Verdict command}
    (registered : (world.registry.get config.driver).isSome = true)
    (finished : world.finishCall config command = (world', result)) : ∃ reply,
      world'.transcript config.driver =
        world.transcript config.driver ++ [.replied config.address command reply] ∧
      verdict reply = result := by
  rcases Option.isSome_iff_exists.1 registered with ⟨cached, found⟩
  rw [finishCall_eq found, Prod.mk.injEq] at finished
  rcases finished with ⟨rfl, rfl⟩
  refine ⟨(Driver.finishCall cached.driver config.address command).2, ?_, rfl⟩
  rw [transcript_eq found]
  exact (transcript_of_set rfl).trans rfl

end World

namespace Task

variable {δ : Type} [Driver δ] {task : Task} {context : RequestContext}

/-- The outcome with all that was said taken down. -/
def takeDown (task : Task) (outcome : Outcome) (utterances : List Utterance) : Outcome :=
  (utterances.filterMap Utterance.deal?).foldl
    (fun outcome deal => task.note outcome deal.command deal.result) outcome

theorem takeDown_append (task : Task) (outcome : Outcome) (utterances others : List Utterance) :
    task.takeDown outcome (utterances ++ others) =
      task.takeDown (task.takeDown outcome utterances) others := by
  simp only [takeDown, List.filterMap_append, List.foldl_append]

theorem findings_takeDown (task : Task) (utterances : List Utterance) : ∀ outcome : Outcome,
    (task.takeDown outcome utterances).findings = outcome.findings ++
      (utterances.filterMap Utterance.deal?).filterMap Deal.finding? := by
  simp only [takeDown]
  induction utterances.filterMap Utterance.deal? with
  | nil => simp
  | cons deal rest ih =>
      intro outcome
      rw [List.foldl_cons, ih, findings_note, List.append_assoc, ← List.filterMap_append]
      rfl

theorem reports_takeDown (task : Task) (utterances : List Utterance) : ∀ outcome : Outcome,
    (task.takeDown outcome utterances).reports = outcome.reports ++
      (utterances.filterMap Utterance.deal?).filterMap fun deal => deal.report? task.device := by
  simp only [takeDown]
  induction utterances.filterMap Utterance.deal? with
  | nil => simp
  | cons deal rest ih =>
      intro outcome
      rw [List.foldl_cons, ih, reports_note, List.append_assoc, ← List.filterMap_append]
      rfl

/-! ### One move -/

/--
Between two states of a task at work its driver said something, which was taken down, and what is to
come afterwards, with this in front, is what was to come before.
-/
structure Heard (task : Task) (before after : Bench (Transcribed δ))
    (utterances : List Utterance) : Prop where
  added : after.world.transcript task.config.driver =
    before.world.transcript task.config.driver ++ utterances
  address : ∀ utterance ∈ utterances, utterance.address = task.config.address
  timed : (∀ utterance ∈ utterances, utterance.EndsWell) → Timed before.lanes → Timed after.lanes
  plays : ∀ beats, Plays after.lanes after.later beats →
    Plays before.lanes before.later (utterances.map Utterance.beat ++ beats)
  noted : after.outcome = task.takeDown before.outcome utterances

omit [Driver δ] in
theorem Heard.refl (task : Task) (bench : Bench (Transcribed δ)) : task.Heard bench bench [] :=
  ⟨by simp, by simp, fun _ timed => timed, fun _ plays => plays, rfl⟩

omit [Driver δ] in
theorem Heard.trans {first middle last : Bench (Transcribed δ)}
    {utterances others : List Utterance} (earlier : task.Heard first middle utterances)
    (later : task.Heard middle last others) : task.Heard first last (utterances ++ others) where
  added := by rw [later.added, earlier.added, List.append_assoc]
  address utterance member :=
    (List.mem_append.1 member).elim (earlier.address utterance) (later.address utterance)
  timed well timed :=
    later.timed (fun utterance member => well utterance (List.mem_append_right _ member))
      (earlier.timed (fun utterance member => well utterance (List.mem_append_left _ member)) timed)
  plays beats plays := by
    rw [List.map_append, List.append_assoc]
    exact earlier.plays _ (later.plays beats plays)
  noted := by rw [takeDown_append, ← earlier.noted, later.noted]

/-- In a move under a live context a driver says one thing at most. -/
theorem Move.heard {before after : Bench (Transcribed δ)} (move : task.Move context before after)
    (registered : (before.world.registry.get task.config.driver).isSome = true)
    (live : after.world.interruption? context = none) :
    ∃ utterances, task.Heard before after utterances := by
  have wasLive := move.later.live live
  cases move with
  | skip _ ended | breakOff _ ended =>
      rw [wasLive] at ended
      cases ended
  | leave here =>
      refine ⟨[], by simp, by simp, fun _ timed => ?_, fun beats plays => ?_, rfl⟩
      · rw [here, timed_middle] at timed
        exact timed.1
      · rw [here]
        exact plays.leave
  | proceed isOver =>
      refine ⟨[], by simp, by simp, fun _ _ => ?_, fun beats plays => ?_, rfl⟩
      · intro lane member call isCall
        rcases List.mem_map.1 member with ⟨commands, _, rfl⟩
        cases isCall
      · rw [isOver]
        exact plays.proceed
  | @begin front behind command rest here _ =>
      rcases World.transcript_beginCall registered context command with ⟨reaction, added, isDue⟩
      refine ⟨_, added, by simp [Utterance.address], fun well timed => ?_, fun beats plays => ?_,
        rfl⟩
      · rw [here, timed_middle] at timed
        refine timed_middle.2 ⟨timed.1, ?_⟩
        intro call isCall
        obtain rfl := Option.some.inj isCall
        have ends : reaction.wait ≠ .forever := well _ (List.mem_singleton_self _)
        rw [isDue]
        cases wait : reaction.wait with
        | ms duration => simp [Wait.due]
        | forever => exact absurd wait ends
      · rw [here]
        refine plays.advance ?_
        simp [Lane.beats, Beat.both, Utterance.beat]
  | @finish front behind call rest world result here _ done =>
      rcases World.transcript_finishCall registered done with ⟨reply, added, settles⟩
      refine ⟨_, added, by simp [Utterance.address], fun _ timed => ?_, fun beats plays => ?_, ?_⟩
      · rw [here, timed_middle] at timed
        exact timed_middle.2 ⟨timed.1, by simp⟩
      · rw [here]
        refine plays.advance ?_
        simp [Lane.beats, Utterance.beat]
      · have isDeal := Utterance.deal?_replied task.config.address settles
        simp only [takeDown, List.filterMap_cons_some isDeal, List.filterMap_nil, List.foldl_cons,
          List.foldl_nil]

theorem Moves.heard {before after : Bench (Transcribed δ)}
    (moves : task.Moves context before after)
    (registered : (before.world.registry.get task.config.driver).isSome = true)
    (live : after.world.interruption? context = none) :
    ∃ utterances, task.Heard before after utterances := by
  induction moves with
  | refl => exact ⟨[], .refl task before⟩
  | tail moves move ih =>
      rcases ih (move.later.live live) with ⟨utterances, earlier⟩
      rcases move.heard ((Moves.later moves).registered _ registered) live with ⟨others, later⟩
      exact ⟨utterances ++ others, earlier.trans later⟩

end Task

/-! ### One look -/

/-- What a driver is still to say to a task of some phase, and what the task is still to report. -/
def Phase.Concludes (task : Task) (opened : Option Handle) (utterances : List Utterance)
    (reported : List Outcome) : Phase → Prop
  | .opening _ => ∀ handle, opened = some handle →
    let plan := task.work.plan task.device task.config handle
    Plays [{ rest := plan.lead }] plan.lanes (utterances.map Utterance.beat) ∧
      reported = [task.takeDown { reports := plan.refused } utterances]
  | .working lanes later outcome => opened = none ∧
    Plays lanes later (utterances.map Utterance.beat) ∧
      reported = [task.takeDown outcome utterances]
  | .reported => opened = none ∧ utterances = [] ∧ reported = []

namespace Task

variable {δ : Type} [Driver δ] {task : Task} {context : RequestContext}

/--
How a task goes on to its end, given the handle with which its device is still to be opened, if it
is: its driver speaks of its device only, and it reports what it is told.
-/
structure Concludes (task : Task) (opened : Option Handle) (utterances : List Utterance)
    (reported : List Outcome) : Prop where
  address : ∀ utterance ∈ utterances, utterance.address = task.config.address
  reports : task.phase.Concludes task opened utterances reported

/-- What a task that is looked after at work is told, and what it makes of it. -/
structure Works.Heard (task : Task) (bench : Bench (Transcribed δ))
    (result : World (Transcribed δ) × Task × Option Outcome) (utterances : List Utterance) :
    Prop where
  added : result.1.transcript task.config.driver =
    bench.world.transcript task.config.driver ++ utterances
  concludes : (∀ utterance ∈ utterances, utterance.EndsWell) → ∀ opened others reported,
    result.2.1.Concludes opened others reported →
      (∀ utterance ∈ utterances ++ others, utterance.address = task.config.address) ∧
        opened = none ∧ Plays bench.lanes bench.later ((utterances ++ others).map Utterance.beat) ∧
          result.2.2.toList ++ reported = [task.takeDown bench.outcome (utterances ++ others)]
  waits : (∀ utterance ∈ utterances, utterance.EndsWell) → Timed bench.lanes → result.2.1.Waits

theorem Works.heard {bench : Bench (Transcribed δ)}
    {result : World (Transcribed δ) × Task × Option Outcome}
    (works : task.Works context bench result)
    (registered : (bench.world.registry.get task.config.driver).isSome = true)
    (live : result.1.interruption? context = none) :
    ∃ utterances, Works.Heard task bench result utterances := by
  cases works with
  | @stays after moves busy idle =>
      rcases Moves.heard moves registered live with ⟨utterances, heard⟩
      refine ⟨utterances, heard.added, ?_, ?_⟩
      · rintro _ opened others reported ⟨address, closed, plays, rfl⟩
        refine ⟨List.forall_mem_append.2 ⟨heard.address, address⟩, closed, ?_, ?_⟩
        · rw [List.map_append]
          exact heard.plays _ plays
        · rw [takeDown_append, ← heard.noted]
          rfl
      · rintro well timed lanes later outcome ⟨⟩
        rcases List.exists_mem_of_ne_nil _ busy with ⟨lane, member⟩
        rcases idle lane member with ⟨call, isCall, -⟩
        exact ⟨heard.timed well timed, lane, member, call, isCall⟩
  | reports moves isOver last =>
      rcases Moves.heard moves registered live with ⟨utterances, heard⟩
      refine ⟨utterances, heard.added, ?_, ?_⟩
      · rintro _ opened others reported ⟨-, closed, rfl, rfl⟩
        rw [List.append_nil, List.append_nil, ← heard.noted]
        refine ⟨heard.address, closed, ?_, rfl⟩
        rw [← List.append_nil (utterances.map Utterance.beat)]
        refine heard.plays [] ?_
        rw [isOver, last]
        exact .nothing
      · rintro _ _ lanes later outcome ⟨⟩
  | @crashes after world moves crash =>
      rcases crash with ⟨front, call, rest, behind, here, due, crashed⟩
      have later := World.later_finishCall after.world task.config call.command
      rw [crashed] at later
      rcases Moves.heard moves registered (later.live live) with ⟨utterances, heard⟩
      rcases World.transcript_finishCall ((Moves.later moves).registered _ registered) crashed with
        ⟨reply, added, isCrash⟩
      obtain rfl : reply = .crash := by cases reply <;> first | rfl | cases isCrash
      -- What breaks down does not end well.
      have bad : ¬∀ utterance ∈ utterances ++
          [.replied task.config.address call.command .crash], utterance.EndsWell := by
        intro well
        exact well (.replied task.config.address call.command .crash) (by simp) rfl
      refine ⟨_, ?_, fun well => absurd well bad, fun well => absurd well bad⟩
      rw [added, heard.added, List.append_assoc]

/-- A device that is not being opened any more is never opened again. -/
theorem Polls.begun {world : World δ} {result : World δ × Task × Option Outcome}
    (polls : task.Polls context world result) (begun : ∀ caller, task.phase ≠ .opening caller) :
    ∀ caller, result.2.1.phase ≠ .opening caller := by
  cases polls with
  | silent => exact begun
  | leavesOut opening | fails opening | givesUp opening | waits opening | begins opening =>
      exact absurd opening (begun _)
  | goesOn _ works => cases works <;> simp [enter]

end Task

namespace Look

variable {δ : Type} [Driver δ]

/-- What the driver says meanwhile. -/
def utterances (look : Look (Transcribed δ)) : List Utterance :=
  (look.result.1.transcript look.task.config.driver).drop
    (look.world.transcript look.task.config.driver).length

theorem utterances_eq {look : Look (Transcribed δ)} {utterances : List Utterance}
    (added : look.result.1.transcript look.task.config.driver =
      look.world.transcript look.task.config.driver ++ utterances) :
    look.utterances = utterances := by
  rw [Look.utterances, added, List.drop_left]

theorem handle?_of_begun {look : Look δ} (begun : ∀ caller, look.task.phase ≠ .opening caller) :
    look.handle? = none := by
  unfold handle?
  split
  · exact absurd ‹_› (begun _)
  · rfl

/-- As long as the device is being opened nothing is said. -/
theorem transcript_opened {look : Look (Transcribed δ)} (caller : Caller) :
    (look.task.opened look.context look.world caller).1.transcript look.task.config.driver =
      look.world.transcript look.task.config.driver :=
  World.transcript_lookAfter _ _ _ _ _

theorem registered_opened {look : Look δ} (fair : look.Fair) (caller : Caller) :
    ((look.task.opened look.context look.world caller).1.registry.get
      look.task.config.driver).isSome = true :=
  (look.world.later_lookAfter _ _ _ caller).registered _ fair.registered

/-- What is said while a task is looked after comes in front of all that is said later. -/
theorem concludes {look : Look (Transcribed δ)} (fair : look.Fair)
    (well : ∀ utterance ∈ look.utterances, utterance.EndsWell) {opened : Option Handle}
    {others : List Utterance} {reported : List Outcome}
    (later : look.result.2.1.Concludes opened others reported) :
    look.task.Concludes (look.handle?.or opened) (look.utterances ++ others)
      (look.result.2.2.toList ++ reported) := by
  have polls := look.polls
  have live := fair.live
  have added := @Look.utterances_eq δ _ look
  generalize look.result = result at polls live added later
  cases polls with
  | silent isOver =>
      rw [added (List.append_nil _).symm, handle?_of_begun (by simp [isOver])]
      exact later
  | leavesOut _ ended | givesUp _ _ _ ended =>
      rw [live] at ended
      cases ended
  | fails opening _ answer =>
      have noHandle : look.handle? = none := by simp [handle?, opening, answer]
      rcases later with ⟨address, closed, -, -⟩
      rw [added ((transcript_opened _).trans (List.append_nil _).symm)]
      refine ⟨address, ?_⟩
      rw [opening, noHandle, closed]
      rintro handle ⟨⟩
  | @waits caller opening _ unanswered =>
      have noHandle : look.handle? = none := by
        cases told : (look.task.opened look.context look.world caller).2 with
        | answered => simp [told, Caller.answer?] at unanswered
        | fresh | joined => simp [handle?, opening, told]
      rw [added ((transcript_opened caller).trans (List.append_nil _).symm), noHandle]
      refine ⟨later.address, ?_⟩
      rw [opening]
      exact later.reports
  | @begins caller handle _ opening _ answer works =>
      have isOpen : look.handle? = some handle := by simp [handle?, opening, answer]
      rcases works.heard (registered_opened fair caller) live with ⟨utterances, heard⟩
      obtain rfl := added (heard.added.trans (congrArg (· ++ utterances)
        (transcript_opened caller)))
      rcases heard.concludes well _ _ _ later with ⟨address, -, reports⟩
      refine ⟨address, ?_⟩
      rw [opening, isOpen, Option.some_or]
      rintro _ ⟨⟩
      exact reports
  | goesOn working works =>
      rcases works.heard fair.registered live with ⟨utterances, heard⟩
      obtain rfl := added heard.added
      rcases heard.concludes well _ _ _ later with ⟨address, reports⟩
      refine ⟨address, ?_⟩
      rw [working, handle?_of_begun (by simp [working]), Option.none_or]
      exact reports

/-- A task waits for calls that end by themselves, as long as no call hangs. -/
theorem waits_of_well {look : Look (Transcribed δ)} (fair : look.Fair)
    (well : ∀ utterance ∈ look.utterances, utterance.EndsWell) (waits : look.task.Waits) :
    look.result.2.1.Waits := by
  have polls := look.polls
  have live := fair.live
  have added := @Look.utterances_eq δ _ look
  generalize look.result = result at polls live added
  cases polls with
  | silent => exact waits
  | leavesOut | fails | givesUp | waits => rintro lanes later outcome ⟨⟩
  | @begins caller handle _ opening _ answer works =>
      rcases works.heard (registered_opened fair caller) live with ⟨utterances, heard⟩
      obtain rfl := added (heard.added.trans (congrArg (· ++ utterances)
        (transcript_opened caller)))
      refine heard.waits well ?_
      intro lane member call isCall
      rw [List.mem_singleton.1 member] at isCall
      cases isCall
  | goesOn working works =>
      rcases works.heard fair.registered live with ⟨utterances, heard⟩
      obtain rfl := added heard.added
      exact heard.waits well (waits _ _ _ working).1

end Look

namespace Course

variable {δ : Type} [Driver δ] {task last : Task} {looks : List (Look (Transcribed δ))}

/-- A task that gets to its end reports what it was told when the calls of its plan were made. -/
theorem concludes (course : Course (Transcribed δ) task looks last)
    (fair : ∀ look ∈ looks, look.Fair)
    (well : ∀ utterance ∈ looks.flatMap Look.utterances, utterance.EndsWell)
    (isOver : last.phase = .reported) :
    task.Concludes (looks.findSome? Look.handle?) (looks.flatMap Look.utterances)
      (looks.flatMap fun look => look.result.2.2.toList) := by
  induction course with
  | rests task =>
      refine ⟨by simp, ?_⟩
      rw [isOver]
      exact ⟨rfl, rfl, rfl⟩
  | @goes look looks last rest ih =>
      rcases List.forall_mem_cons.1 fair with ⟨first, others⟩
      rcases List.forall_mem_append.1 well with ⟨wellFirst, wellOthers⟩
      have later := ih others wellOthers isOver
      have found : (look :: looks).findSome? Look.handle? =
          look.handle?.or (looks.findSome? Look.handle?) := by
        cases isOpen : look.handle? <;> simp [isOpen]
      rw [found]
      exact look.concludes first wellFirst later

theorem waits_of_well (course : Course (Transcribed δ) task looks last)
    (fair : ∀ look ∈ looks, look.Fair)
    (well : ∀ utterance ∈ looks.flatMap Look.utterances, utterance.EndsWell)
    (waits : task.Waits) : last.Waits := by
  induction course with
  | rests => exact waits
  | @goes look looks last rest ih =>
      rcases List.forall_mem_cons.1 fair with ⟨first, others⟩
      rcases List.forall_mem_append.1 well with ⟨wellFirst, wellOthers⟩
      exact ih others wellOthers (look.waits_of_well first wellFirst waits)

end Course

end AvControl

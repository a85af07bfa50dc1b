import AvControl.Proofs.Driver.Recorded
import AvControl.Proofs.Engine.Workload
import AvControl.Proofs.Interleaving

/-!
# The trace of a task

With recorded drivers it can be read off what a task asks of its driver whenever it is looked after.
As long as its context is live, a task makes both halves of all calls that its rows ask for, every
row in its order, and the calls of the later rows come after those of the first ones.
-/

namespace AvControl

/-- One half of a call: the driver is asked, or it has replied. -/
inductive Beat
  | began (command : Command)
  | ended (command : Command)
deriving DecidableEq, Repr

namespace Beat

def command : Beat → Command
  | began command | ended command => command

/-- A whole call. -/
def both (command : Command) : List Beat := [began command, ended command]

end Beat

namespace Deed

/-- The half of a call that was asked for, unless the device was only opened. -/
def beat? : Deed → Option Beat
  | beginCall _ command _ => some (.began command)
  | finishCall _ command _ => some (.ended command)
  | beginOpen _ _ | finishOpen _ _ => none

def address : Deed → String
  | beginCall address _ _ | finishCall address _ _ => address
  | beginOpen address _ | finishOpen address _ => address

/-- A call neither hangs nor breaks down. -/
def EndsWell : Deed → Prop
  | beginCall _ _ reaction => reaction.wait ≠ .forever
  | finishCall _ _ kind => kind ≠ .crash
  | beginOpen _ _ | finishOpen _ _ => True

instance : DecidablePred EndsWell
  | beginCall _ _ reaction => inferInstanceAs (Decidable (reaction.wait ≠ .forever))
  | finishCall _ _ kind => inferInstanceAs (Decidable (kind ≠ .crash))
  | beginOpen _ _ | finishOpen _ _ => inferInstanceAs (Decidable True)

end Deed

/-- The halves of calls that are to come in a row. -/
def Lane.beats (lane : Lane) : List Beat :=
  (lane.call.map fun call => Beat.ended call.command).toList ++ lane.rest.flatMap Beat.both

/-- The halves of calls that are to come: those of the rows, and after them those of later rows. -/
def Plays (lanes : List Lane) (later : List (List Command)) (beats : List Beat) : Prop :=
  ∃ first second, beats = first ++ second ∧ Interleaves (lanes.map Lane.beats) first ∧
    Interleaves (later.map fun row => row.flatMap Beat.both) second

/-- A record has grown by openings only. -/
def OnlyOpens (before after : List Deed) : Prop :=
  ∃ deeds, after = before ++ deeds ∧ ∀ deed ∈ deeds, deed.beat? = none

namespace OnlyOpens

theorem refl (deeds : List Deed) : OnlyOpens deeds deeds := ⟨[], by simp, by simp⟩

theorem append {before middle : List Deed} (opens : OnlyOpens before middle) {deed : Deed}
    (isOpening : deed.beat? = none) : OnlyOpens before (middle ++ [deed]) := by
  rcases opens with ⟨deeds, rfl, openings⟩
  refine ⟨deeds ++ [deed], by simp, ?_⟩
  intro other member
  rcases List.mem_append.1 member with inDeeds | isLast
  · exact openings other inDeeds
  · rw [List.mem_singleton.1 isLast]
    exact isOpening

end OnlyOpens

namespace CachedDriver

variable {δ : Type} [Driver δ] {deeds : List Deed} {cached : CachedDriver (Recorded δ)}

theorem opens_advance (opens : OnlyOpens deeds cached.driver.deeds) (tokens : Tokens)
    (now number : Nat) : OnlyOpens deeds (cached.advance tokens now number).driver.deeds := by
  simp only [advance]
  split
  · exact opens
  · split
    · exact opens
    · split
      · exact opens.append rfl
      · split
        · split <;> exact opens
        · exact opens

theorem opens_start (opens : OnlyOpens deeds cached.driver.deeds) (tokens : Tokens)
    (now ticket : Nat) (context : RequestContext) (address : String) :
    OnlyOpens deeds (cached.start tokens now ticket context address).1.driver.deeds := by
  have begun : OnlyOpens deeds (Driver.beginOpen cached.driver address).1.deeds :=
    opens.append rfl
  unfold start
  dsimp only
  split
  · exact begun
  · exact opens_advance begun _ _ _

theorem opens_poll (opens : OnlyOpens deeds cached.driver.deeds) (tokens : Tokens)
    (now ticket : Nat) (context : RequestContext) (address : String) (caller : Caller) :
    OnlyOpens deeds (cached.poll tokens now ticket context address caller).cached.driver.deeds := by
  simp only [poll]
  split
  · exact opens
  · exact opens_advance opens _ _ _
  · split
    · exact opens
    · split
      · exact opens_advance opens _ _ _
      · exact opens_start opens _ _ _ _ _

end CachedDriver

namespace World

variable {δ : Type}

/-- What a recorded driver was asked for so far. -/
def deeds (world : World (Recorded δ)) (driver : String) : List Deed :=
  ((world.registry.get driver).map fun cached => cached.driver.deeds).getD []

theorem deeds_eq {world : World (Recorded δ)} {driver : String} {cached : CachedDriver (Recorded δ)}
    (found : world.registry.get driver = some cached) :
    world.deeds driver = cached.driver.deeds := by
  simp [deeds, found]

theorem deeds_of_set {world : World (Recorded δ)} {registry : Registry (Recorded δ)}
    {driver : String} {cached : CachedDriver (Recorded δ)}
    (isSet : world.registry = registry.set driver cached) :
    world.deeds driver = cached.driver.deeds := by
  refine deeds_eq ?_
  simp [isSet, Registry.set, Registry.get, SortedMap.get?_insert]

variable [Driver δ]

/-- Beginning a call is one deed, and says how long the call takes. -/
theorem deeds_beginCall {world : World (Recorded δ)} {config : DeviceConfig}
    (registered : (world.registry.get config.driver).isSome = true) (context : RequestContext)
    (command : Command) : ∃ reaction,
      (world.beginCall config context command).1.deeds config.driver =
        world.deeds config.driver ++ [.beginCall config.address command reaction] ∧
      (world.beginCall config context command).2.due = reaction.wait.due world.clock := by
  rcases Option.isSome_iff_exists.1 registered with ⟨cached, found⟩
  refine ⟨(Driver.beginCall cached.driver config.address command).2, ?_, ?_⟩
  · rw [deeds_eq found]
    simp only [beginCall, found]
    exact (deeds_of_set rfl).trans rfl
  · simp only [beginCall, found]

/-- Finishing a call is one deed, and says how the call came out. -/
theorem deeds_finishCall {world world' : World (Recorded δ)} {config : DeviceConfig}
    {command : Command} {verdict : Verdict command}
    (registered : (world.registry.get config.driver).isSome = true)
    (finished : world.finishCall config command = (world', verdict)) : ∃ kind,
      world'.deeds config.driver =
        world.deeds config.driver ++ [.finishCall config.address command kind] ∧
      (verdict = .crashed → kind = .crash) := by
  rcases Option.isSome_iff_exists.1 registered with ⟨cached, found⟩
  rw [finishCall_eq found, Prod.mk.injEq] at finished
  rcases finished with ⟨rfl, rfl⟩
  refine ⟨(Driver.finishCall cached.driver config.address command).2.kind, ?_, ?_⟩
  · rw [deeds_eq found]
    exact (deeds_of_set rfl).trans rfl
  · intro crashed
    cases replied : (Driver.finishCall cached.driver config.address command).2 with
    | ok | error => simp [replied, World.verdict] at crashed
    | crash => rfl

/-- Looking after an opening asks for openings only. -/
theorem opens_lookAfter (world : World (Recorded δ)) (driver address : String)
    (context : RequestContext) (caller : Caller) :
    OnlyOpens (world.deeds driver)
      ((world.lookAfter driver address context caller).1.deeds driver) := by
  unfold lookAfter
  split
  · exact .refl _
  · rename_i cached found
    rw [deeds_eq found]
    have opens := CachedDriver.opens_poll (.refl cached.driver.deeds) world.tokens world.clock
      world.tickets context address caller
    dsimp only
    split
    · rw [deeds_of_set (by rfl)]
      exact opens
    · rw [deeds_of_set (by rfl)]
      exact opens

end World

namespace Plays

variable {before after : List Lane} {later : List (List Command)} {rest : List Command}
  {beats : List Beat}

theorem nothing : Plays [] [] [] := ⟨[], [], rfl, rfl, rfl⟩

/-- The next half of a call in a row comes first. -/
theorem advance {lane lane' : Lane} {beat : Beat} (next : lane.beats = beat :: lane'.beats)
    (plays : Plays (before ++ lane' :: after) later beats) :
    Plays (before ++ lane :: after) later (beat :: beats) := by
  rcases plays with ⟨first, second, rfl, now, others⟩
  refine ⟨beat :: first, second, rfl, ?_, others⟩
  rw [List.map_append, List.map_cons] at now ⊢
  rw [next]
  exact now.advance _

theorem leave (plays : Plays (before ++ after) later beats) :
    Plays (before ++ {} :: after) later beats := by
  rcases plays with ⟨first, second, same, now, others⟩
  refine ⟨first, second, same, ?_, others⟩
  rw [List.map_append] at now
  rw [List.map_append, List.map_cons]
  exact now.insert_nil _

theorem proceed (plays : Plays (later.map fun commands => { rest := commands }) [] beats) :
    Plays [] later beats := by
  rcases plays with ⟨first, second, rfl, now, others⟩
  obtain rfl : second = [] := others
  refine ⟨[], first, by simp, rfl, ?_⟩
  rw [List.map_map] at now
  exact now

end Plays

namespace Task

/-- All calls that are under way end by themselves. -/
def Timed (lanes : List Lane) : Prop :=
  ∀ lane ∈ lanes, ∀ call, lane.call = some call → call.due ≠ none

theorem timed_middle {before after : List Lane} {lane : Lane} :
    Timed (before ++ lane :: after) ↔
      Timed (before ++ after) ∧ ∀ call, lane.call = some call → call.due ≠ none := by
  simp only [Timed, List.mem_append, List.mem_cons]
  constructor
  · intro timed
    refine ⟨fun other member => timed other ?_, timed lane (Or.inr (Or.inl rfl))⟩
    exact member.imp_right Or.inr
  · rintro ⟨others, here⟩ other (inFront | rfl | behind)
    · exact others other (Or.inl inFront)
    · exact here
    · exact others other (Or.inr behind)

variable {δ : Type} [Driver δ] {task : Task} {context : RequestContext}

/--
Between two states of a task at work its driver was asked for some deeds, and what is to come
afterwards, with these in front, is what was to come before.
-/
structure Traces (task : Task) (before after : Bench (Recorded δ)) (deeds : List Deed) : Prop where
  added : after.world.deeds task.config.driver =
    before.world.deeds task.config.driver ++ deeds
  address : ∀ deed ∈ deeds, deed.address = task.config.address
  timed : (∀ deed ∈ deeds, deed.EndsWell) → Timed before.lanes → Timed after.lanes
  plays : ∀ beats, Plays after.lanes after.later beats →
    Plays before.lanes before.later (deeds.filterMap Deed.beat? ++ beats)

omit [Driver δ] in
theorem Traces.refl (task : Task) (bench : Bench (Recorded δ)) : task.Traces bench bench [] :=
  ⟨by simp, by simp, fun _ timed => timed, fun _ plays => plays⟩

omit [Driver δ] in
theorem Traces.trans {first middle last : Bench (Recorded δ)} {deeds others : List Deed}
    (earlier : task.Traces first middle deeds) (later : task.Traces middle last others) :
    task.Traces first last (deeds ++ others) where
  added := by rw [later.added, earlier.added, List.append_assoc]
  address deed member :=
    (List.mem_append.1 member).elim (earlier.address deed) (later.address deed)
  timed well timed :=
    later.timed (fun deed member => well deed (List.mem_append_right _ member))
      (earlier.timed (fun deed member => well deed (List.mem_append_left _ member)) timed)
  plays beats plays := by
    rw [List.filterMap_append, List.append_assoc]
    exact earlier.plays _ (later.plays beats plays)

/-- A move under a live context asks for at most one half of a call. -/
theorem Move.traces {before after : Bench (Recorded δ)} (move : task.Move context before after)
    (registered : (before.world.registry.get task.config.driver).isSome = true)
    (live : after.world.interruption? context = none) :
    ∃ deeds, task.Traces before after deeds := by
  have wasLive := move.later.live live
  cases move with
  | skip _ ended | breakOff _ ended =>
      rw [wasLive] at ended
      cases ended
  | leave here =>
      refine ⟨[], by simp, by simp, fun _ timed => ?_, fun beats plays => ?_⟩
      · rw [here, timed_middle] at timed
        exact timed.1
      · rw [here]
        exact plays.leave
  | proceed isOver =>
      refine ⟨[], by simp, by simp, fun _ _ => ?_, fun beats plays => ?_⟩
      · intro lane member call isCall
        rcases List.mem_map.1 member with ⟨commands, _, rfl⟩
        cases isCall
      · rw [isOver]
        exact plays.proceed
  | @begin front behind command rest here _ =>
      rcases World.deeds_beginCall registered context command with ⟨reaction, added, isDue⟩
      refine ⟨_, added, by simp [Deed.address], fun well timed => ?_, fun beats plays => ?_⟩
      · rw [here, timed_middle] at timed
        refine timed_middle.2 ⟨timed.1, ?_⟩
        intro call isCall
        obtain rfl := Option.some.inj isCall
        have ends : reaction.wait ≠ .forever := well _ (List.mem_singleton_self _)
        rw [isDue]
        cases wait : reaction.wait with
        | ms duration => simp [Wait.due]
        | forever => exact absurd wait ends
      · rw [here]
        refine plays.advance ?_
        simp [Lane.beats, Beat.both]
  | @finish front behind call rest world result here _ done =>
      rcases World.deeds_finishCall registered done with ⟨kind, added, -⟩
      refine ⟨_, added, by simp [Deed.address], fun _ timed => ?_, fun beats plays => ?_⟩
      · rw [here, timed_middle] at timed
        exact timed_middle.2 ⟨timed.1, by simp⟩
      · rw [here]
        refine plays.advance ?_
        simp [Lane.beats]

theorem Moves.traces {before after : Bench (Recorded δ)} (moves : task.Moves context before after)
    (registered : (before.world.registry.get task.config.driver).isSome = true)
    (live : after.world.interruption? context = none) :
    ∃ deeds, task.Traces before after deeds := by
  induction moves with
  | refl => exact ⟨[], .refl task before⟩
  | tail moves move ih =>
      rcases ih (move.later.live live) with ⟨deeds, earlier⟩
      rcases move.traces ((Moves.later moves).registered _ registered) live with ⟨others, later⟩
      exact ⟨deeds ++ others, earlier.trans later⟩

/-- What is to come of a task. -/
def Owes (task : Task) (beats : List Beat) : Prop :=
  match task.phase with
  | .opening _ => False
  | .working lanes later _ => Plays lanes later beats
  | .reported => beats = []

/-- A task at work waits for calls that end by themselves. -/
def Waits (task : Task) : Prop :=
  ∀ lanes later outcome, task.phase = .working lanes later outcome → Timed lanes ∧
    ∃ lane ∈ lanes, ∃ call, lane.call = some call

/-- What a task asks of its driver when it is looked after at work. -/
structure Works.Told (task : Task) (bench : Bench (Recorded δ))
    (result : World (Recorded δ) × Task × Option Outcome) (deeds : List Deed) : Prop where
  added : result.1.deeds task.config.driver = bench.world.deeds task.config.driver ++ deeds
  address : ∀ deed ∈ deeds, deed.address = task.config.address
  plays : (∀ deed ∈ deeds, deed.EndsWell) → ∀ beats, result.2.1.Owes beats →
    Plays bench.lanes bench.later (deeds.filterMap Deed.beat? ++ beats)
  waits : (∀ deed ∈ deeds, deed.EndsWell) → Timed bench.lanes → result.2.1.Waits
  begun : ∀ caller, result.2.1.phase ≠ .opening caller

theorem Works.told {bench : Bench (Recorded δ)}
    {result : World (Recorded δ) × Task × Option Outcome}
    (works : task.Works context bench result)
    (registered : (bench.world.registry.get task.config.driver).isSome = true)
    (live : result.1.interruption? context = none) :
    ∃ deeds, Works.Told task bench result deeds := by
  cases works with
  | @stays after moves busy idle =>
      rcases Moves.traces moves registered live with ⟨deeds, traces⟩
      refine ⟨deeds, traces.added, traces.address, fun _ => traces.plays, ?_, by simp⟩
      rintro well timed lanes later outcome ⟨⟩
      rcases List.exists_mem_of_ne_nil _ busy with ⟨lane, member⟩
      rcases idle lane member with ⟨call, isCall, -⟩
      exact ⟨traces.timed well timed, lane, member, call, isCall⟩
  | reports moves isOver last =>
      rcases Moves.traces moves registered live with ⟨deeds, traces⟩
      refine ⟨deeds, traces.added, traces.address, ?_, ?_, by simp⟩
      · rintro _ beats (rfl : beats = [])
        refine traces.plays [] ?_
        rw [isOver, last]
        exact .nothing
      · rintro _ _ lanes later outcome ⟨⟩
  | @crashes after world moves crash =>
      rcases crash with ⟨front, call, rest, behind, here, due, crashed⟩
      have later := World.later_finishCall after.world task.config call.command
      rw [crashed] at later
      rcases Moves.traces moves registered (later.live live) with ⟨deeds, traces⟩
      rcases World.deeds_finishCall ((Moves.later moves).registered _ registered) crashed with
        ⟨kind, added, isCrash⟩
      obtain rfl := isCrash rfl
      -- The crash itself is a deed that does not end well, so nothing is left to play.
      have bad : ¬∀ deed ∈ deeds ++ [.finishCall task.config.address call.command .crash],
          deed.EndsWell := by
        intro well
        exact well (.finishCall task.config.address call.command .crash) (by simp) rfl
      refine ⟨_, ?_, ?_, fun well => absurd well bad, fun well => absurd well bad, by simp⟩
      · rw [added, traces.added, List.append_assoc]
      · intro deed member
        rcases List.mem_append.1 member with before | isLast
        · exact traces.address deed before
        · rw [List.mem_singleton.1 isLast]
          rfl

end Task

/-- A task that is looked after under a context in a world. -/
structure Look (δ : Type) where
  task : Task
  context : RequestContext
  world : World δ

namespace Look

variable {δ : Type} [Driver δ]

/-- What comes of it. -/
def result (look : Look δ) : World δ × Task × Option Outcome :=
  look.task.poll look.context look.world

/-- The handle that opening the device has brought, if the device is open now. -/
def handle? (look : Look δ) : Option Handle :=
  match look.task.phase with
  | .opening caller =>
    match (look.task.opened look.context look.world caller).2 with
    | .answered (.ok handle) => some handle
    | _ => none
  | _ => none

/-- What the task asks of its driver meanwhile. -/
def deeds (look : Look (Recorded δ)) : List Deed :=
  (look.result.1.deeds look.task.config.driver).drop
    (look.world.deeds look.task.config.driver).length

theorem deeds_eq {look : Look (Recorded δ)} {deeds : List Deed}
    (added : look.result.1.deeds look.task.config.driver =
      look.world.deeds look.task.config.driver ++ deeds) : look.deeds = deeds := by
  rw [Look.deeds, added, List.drop_left]

/-- The context is live even after the task was looked after, and its driver is there. -/
structure Fair (look : Look δ) : Prop where
  live : look.result.1.interruption? look.context = none
  registered : (look.world.registry.get look.task.config.driver).isSome = true

theorem polls (look : Look δ) : look.task.Polls look.context look.world look.result :=
  look.task.poll_polls look.context look.world

/-- A device that is not being opened any more is never opened again. -/
theorem begun {look : Look (Recorded δ)} (fair : look.Fair)
    (begun : ∀ caller, look.task.phase ≠ .opening caller) :
    look.handle? = none ∧ ∀ caller, look.result.2.1.phase ≠ .opening caller := by
  have noHandle : look.handle? = none := by
    unfold handle?
    split
    · rename_i opening
      exact absurd opening (begun _)
    · rfl
  refine ⟨noHandle, ?_⟩
  have polls := look.polls
  have live := fair.live
  generalize look.result = result at polls live
  cases polls with
  | silent isOver => exact begun
  | leavesOut opening | fails opening | givesUp opening | waits opening | begins opening =>
      exact absurd opening (begun _)
  | goesOn working works =>
      rcases works.told fair.registered live with ⟨deeds, told⟩
      exact told.begun

/-- What is asked when the device is open. -/
theorem told_of_handle {look : Look (Recorded δ)} (fair : look.Fair) {handle : Handle}
    (isOpen : look.handle? = some handle) : ∃ openings deeds world,
      look.deeds = openings ++ deeds ∧ (∀ deed ∈ openings, deed.beat? = none) ∧
      Task.Works.Told look.task (look.task.workbench world handle) look.result deeds := by
  simp only [handle?] at isOpen
  split at isOpen
  · rename_i caller opening
    split at isOpen
    · rename_i handle' answer
      obtain rfl := Option.some.inj isOpen
      have polls := look.polls
      have live := fair.live
      rcases World.opens_lookAfter look.world look.task.config.driver look.task.config.address
        look.context caller with ⟨openings, added, areOpenings⟩
      have sameCaller : ∀ other, look.task.phase = .opening other → other = caller := by
        intro other opening'
        rw [opening] at opening'
        cases opening'
        rfl
      have registered := (look.world.later_lookAfter look.task.config.driver
        look.task.config.address look.context caller).registered _ fair.registered
      have deedsOf := @Look.deeds_eq δ _ look
      generalize look.result = result at polls live deedsOf
      cases polls with
      | silent isOver | goesOn isOver =>
          rw [opening] at isOver
          cases isOver
      | leavesOut fresh ended =>
          rw [show look.world.interruption? look.context = none from live] at ended
          cases ended
      | fails opening' _ answer' =>
          rw [sameCaller _ opening', answer] at answer'
          cases answer'
      | givesUp opening' _ unanswered | waits opening' _ unanswered =>
          rw [sameCaller _ opening', answer] at unanswered
          cases unanswered
      | begins opening' _ answer' works =>
          rw [sameCaller _ opening'] at answer' works
          rw [answer] at answer'
          cases answer'
          rcases works.told registered live with ⟨deeds, told⟩
          refine ⟨openings, deeds, _, deedsOf ?_, areOpenings, told⟩
          rw [told.added, ← List.append_assoc, ← added]
          rfl
    · cases isOpen
  · cases isOpen

/-- What is asked as long as the device is not open. -/
theorem deeds_of_closed {look : Look (Recorded δ)} {caller : Caller}
    (opening : look.task.phase = .opening caller) (closed : look.handle? = none) :
    ∀ deed ∈ look.deeds, deed.beat? = none := by
  rcases World.opens_lookAfter look.world look.task.config.driver look.task.config.address
    look.context caller with ⟨openings, added, areOpenings⟩
  have sameCaller : ∀ other, look.task.phase = .opening other → other = caller := by
    intro other opening'
    rw [opening] at opening'
    cases opening'
    rfl
  have polls := look.polls
  have deedsOf := @Look.deeds_eq δ _ look
  generalize look.result = result at polls deedsOf
  cases polls with
  | silent isOver | goesOn isOver =>
      rw [opening] at isOver
      cases isOver
  | leavesOut =>
      rw [deedsOf (List.append_nil _).symm]
      simp
  | fails opening' | givesUp opening' | waits opening' =>
      rw [sameCaller _ opening'] at deedsOf
      rw [deedsOf added]
      exact areOpenings
  | begins opening' _ answer =>
      rw [sameCaller _ opening'] at answer
      simp [handle?, opening, answer] at closed

/-- What is asked when the device has been opened before. -/
theorem told_of_working {look : Look (Recorded δ)} (fair : look.Fair) {lanes : List Lane}
    {later : List (List Command)} {outcome : Outcome}
    (working : look.task.phase = .working lanes later outcome) :
    Task.Works.Told look.task { world := look.world, lanes, later, outcome } look.result
      look.deeds := by
  have polls := look.polls
  have live := fair.live
  have deedsOf := @Look.deeds_eq δ _ look
  generalize look.result = result at polls live deedsOf
  cases polls with
  | silent isOver | leavesOut isOver | fails isOver | givesUp isOver | waits isOver
  | begins isOver =>
      rw [working] at isOver
      cases isOver
  | goesOn working' works =>
      rw [working] at working'
      cases working'
      rcases works.told fair.registered live with ⟨deeds, told⟩
      rwa [deedsOf told.added]

/-- A task that has reported is left alone. -/
theorem result_of_reported {look : Look δ} (isOver : look.task.phase = .reported) :
    look.result = (look.world, look.task, none) :=
  Task.poll_reported isOver look.context look.world

theorem deeds_of_reported {look : Look (Recorded δ)} (isOver : look.task.phase = .reported) :
    look.deeds = [] := by
  refine deeds_eq ?_
  rw [result_of_reported isOver, List.append_nil]

/-- Calls are made at the address of the device. -/
theorem address {look : Look (Recorded δ)} (fair : look.Fair) {deed : Deed}
    (member : deed ∈ look.deeds) (isCall : deed.beat? ≠ none) :
    deed.address = look.task.config.address := by
  cases phase : look.task.phase with
  | reported =>
      rw [deeds_of_reported phase] at member
      cases member
  | working => exact (told_of_working fair phase).address deed member
  | opening caller =>
      cases isOpen : look.handle? with
      | none => exact absurd (deeds_of_closed phase isOpen deed member) isCall
      | some handle =>
          rcases told_of_handle fair isOpen with ⟨openings, deeds, world, same, areOpenings, told⟩
          rw [same] at member
          rcases List.mem_append.1 member with isOpening | inDeeds
          · exact absurd (areOpenings deed isOpening) isCall
          · exact told.address deed inDeeds

/-- A task waits for calls that end by themselves, as long as no call hangs. -/
theorem waits {look : Look (Recorded δ)} (fair : look.Fair)
    (well : ∀ deed ∈ look.deeds, deed.EndsWell) (waits : look.task.Waits) :
    look.result.2.1.Waits := by
  cases phase : look.task.phase with
  | reported =>
      rw [result_of_reported phase]
      exact waits
  | working lanes later outcome =>
      exact (told_of_working fair phase).waits well (waits lanes later outcome phase).1
  | opening caller =>
      cases isOpen : look.handle? with
      | none =>
          intro lanes later outcome working
          have polls := look.polls
          generalize look.result = result at polls working
          cases polls with
          | silent isOver | goesOn isOver =>
              rw [phase] at isOver
              cases isOver
          | leavesOut | fails | givesUp | waits => cases working
          | begins opening _ answer =>
              rw [phase] at opening
              cases opening
              simp [handle?, phase, answer] at isOpen
      | some handle =>
          rcases told_of_handle fair isOpen with ⟨openings, deeds, world, same, -, told⟩
          refine told.waits (fun deed member => well deed ?_) ?_
          · rw [same]
            exact List.mem_append_right _ member
          · intro lane member call isCall
            rw [List.mem_singleton.1 member] at isCall
            cases isCall

end Look

/-- A task is looked after again and again. -/
inductive Course (δ : Type) [Driver δ] : Task → List (Look δ) → Task → Prop
  | rests (task : Task) : Course δ task [] task
  | goes {look : Look δ} {looks : List (Look δ)} {last : Task}
      (rest : Course δ look.result.2.1 looks last) : Course δ look.task (look :: looks) last

namespace Course

variable {δ : Type} [Driver δ] {task last : Task} {looks : List (Look (Recorded δ))}

/-- All calls that a task makes meanwhile. -/
def beats (looks : List (Look (Recorded δ))) : List Beat :=
  (looks.flatMap Look.deeds).filterMap Deed.beat?

theorem beats_cons (look : Look (Recorded δ)) (looks : List (Look (Recorded δ))) :
    beats (look :: looks) = look.deeds.filterMap Deed.beat? ++ beats looks := by
  simp [beats]

theorem begun (course : Course (Recorded δ) task looks last) (fair : ∀ look ∈ looks, look.Fair)
    (begun : ∀ caller, task.phase ≠ .opening caller) :
    looks.findSome? Look.handle? = none ∧ ∀ caller, last.phase ≠ .opening caller := by
  induction course with
  | rests => exact ⟨rfl, begun⟩
  | @goes look looks last rest ih =>
      rcases List.forall_mem_cons.1 fair with ⟨first, others⟩
      rcases Look.begun first begun with ⟨noHandle, begun'⟩
      rcases ih others begun' with ⟨none, begun''⟩
      exact ⟨by rw [List.findSome?_cons, noHandle, none], begun''⟩

theorem waits (course : Course (Recorded δ) task looks last) (fair : ∀ look ∈ looks, look.Fair)
    (well : ∀ look ∈ looks, ∀ deed ∈ look.deeds, deed.EndsWell) (waits : task.Waits) :
    last.Waits := by
  induction course with
  | rests => exact waits
  | goes rest ih =>
      rcases List.forall_mem_cons.1 fair with ⟨first, others⟩
      rcases List.forall_mem_cons.1 well with ⟨wellFirst, wellOthers⟩
      exact ih others wellOthers (Look.waits first wellFirst waits)

/-- A task at work makes the calls that are to come of it, if it gets to its end. -/
theorem owes (course : Course (Recorded δ) task looks last) (fair : ∀ look ∈ looks, look.Fair)
    (well : ∀ look ∈ looks, ∀ deed ∈ look.deeds, deed.EndsWell)
    (isOver : last.phase = .reported) (begun : ∀ caller, task.phase ≠ .opening caller) :
    task.Owes (beats looks) := by
  induction course with
  | rests task =>
      simp only [Task.Owes]
      rw [isOver]
      rfl
  | @goes look looks last rest ih =>
      rcases List.forall_mem_cons.1 fair with ⟨first, others⟩
      rcases List.forall_mem_cons.1 well with ⟨wellFirst, wellOthers⟩
      have later := ih others wellOthers isOver (Look.begun first begun).2
      rw [beats_cons]
      cases phase : look.task.phase with
      | opening caller => exact absurd phase (begun caller)
      | reported =>
          rw [Look.result_of_reported phase] at later
          rw [Look.deeds_of_reported phase]
          exact later
      | working lanes others outcome =>
          have plays := (Look.told_of_working first phase).plays wellFirst _ later
          simp only [Task.Owes]
          rw [phase]
          exact plays

/-- A task whose device is opened makes all calls of its plan, if it gets to its end. -/
theorem plays (course : Course (Recorded δ) task looks last) (fair : ∀ look ∈ looks, look.Fair)
    (well : ∀ look ∈ looks, ∀ deed ∈ look.deeds, deed.EndsWell)
    (isOver : last.phase = .reported) {handle : Handle}
    (isOpen : looks.findSome? Look.handle? = some handle) :
    Plays [{ rest := (task.work.plan task.device task.config handle).lead }]
      (task.work.plan task.device task.config handle).lanes (beats looks) := by
  induction course with
  | rests => cases isOpen
  | @goes look looks last rest ih =>
      rcases List.forall_mem_cons.1 fair with ⟨first, others⟩
      rcases List.forall_mem_cons.1 well with ⟨wellFirst, wellOthers⟩
      rw [beats_cons]
      cases opened : look.handle? with
      | some handle' =>
          rw [List.findSome?_cons, opened, Option.some.injEq] at isOpen
          subst isOpen
          rcases Look.told_of_handle first opened with
            ⟨openings, deeds, world, same, areOpenings, told⟩
          have later := owes rest others wellOthers isOver told.begun
          have wellDeeds : ∀ deed ∈ deeds, deed.EndsWell := by
            intro deed member
            refine wellFirst deed ?_
            rw [same]
            exact List.mem_append_right _ member
          have noBeat : openings.filterMap Deed.beat? = [] :=
            List.filterMap_eq_nil_iff.2 areOpenings
          rw [same, List.filterMap_append, noBeat, List.nil_append]
          exact told.plays wellDeeds _ later
      | none =>
          rw [List.findSome?_cons, opened] at isOpen
          have stillOpening : ∃ caller, look.result.2.1.phase = .opening caller := by
            by_contra begun
            have closed := (rest.begun others fun caller opening => begun ⟨caller, opening⟩).1
            rw [closed] at isOpen
            cases isOpen
          have wasOpening : ∃ caller, look.task.phase = .opening caller := by
            by_contra begun
            rcases stillOpening with ⟨caller, opening⟩
            exact (Look.begun first fun caller opening => begun ⟨caller, opening⟩).2 caller opening
          rcases wasOpening with ⟨caller, opening⟩
          have noBeat : look.deeds.filterMap Deed.beat? = [] :=
            List.filterMap_eq_nil_iff.2 (Look.deeds_of_closed opening opened)
          rcases look.polls.eq_enter with ⟨phase, same⟩
          have later := ih others wellOthers isOver isOpen
          rw [same] at later
          rw [noBeat, List.nil_append]
          exact later

theorem begun_of_open (course : Course (Recorded δ) task looks last)
    (fair : ∀ look ∈ looks, look.Fair) {handle : Handle}
    (isOpen : looks.findSome? Look.handle? = some handle) :
    ∀ caller, last.phase ≠ .opening caller := by
  induction course with
  | rests => cases isOpen
  | @goes look looks last rest ih =>
      rcases List.forall_mem_cons.1 fair with ⟨first, others⟩
      cases opened : look.handle? with
      | some handle' =>
          rcases Look.told_of_handle first opened with ⟨_, _, _, _, _, told⟩
          exact (rest.begun others told.begun).2
      | none =>
          rw [List.findSome?_cons, opened] at isOpen
          exact ih others isOpen

/-- All calls are made at the address of the device. -/
theorem address (course : Course (Recorded δ) task looks last) (fair : ∀ look ∈ looks, look.Fair)
    {deed : Deed} (member : deed ∈ looks.flatMap Look.deeds) (isCall : deed.beat? ≠ none) :
    deed.address = task.config.address := by
  induction course with
  | rests => cases member
  | @goes look looks last rest ih =>
      rcases List.forall_mem_cons.1 fair with ⟨first, others⟩
      rw [List.flatMap_cons] at member
      rcases List.mem_append.1 member with here | later
      · exact Look.address first here isCall
      · rcases look.polls.eq_enter with ⟨phase, same⟩
        have there := ih others later
        rwa [same] at there

end Course

end AvControl

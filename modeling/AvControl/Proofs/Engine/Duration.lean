import AvControl.Proofs.Engine.Workload
import Mathlib.Algebra.GroupWithZero.Nat

/-!
# How long the work of a task takes

When every call is over after a delay that is known beforehand, it is known at any time when a task
will have done its work. A row of commands is over when the call under way is, and as much later as
its other commands take one after another; several rows are over with the last of them, and then the
later rows begin together.

Looking after the task does not move this time. What a move takes away from the commands that wait
it adds to the wait of the call, and what it takes away from that wait has passed.
-/

namespace AvControl

/-- The greatest of some durations; no time at all if there are none. -/
def longest (durations : List Nat) : Nat := durations.foldr max 0

@[simp]
theorem longest_nil : longest [] = 0 := rfl

@[simp]
theorem longest_cons (duration : Nat) (durations : List Nat) :
    longest (duration :: durations) = max duration (longest durations) := rfl

@[simp]
theorem longest_append (durations others : List Nat) :
    longest (durations ++ others) = max (longest durations) (longest others) := by
  induction durations with
  | nil => simp
  | cons duration durations ih => simp [ih, Nat.max_assoc]

theorem longest_le {durations : List Nat} {bound : Nat} :
    longest durations ≤ bound ↔ ∀ duration ∈ durations, duration ≤ bound := by
  induction durations with
  | nil => simp
  | cons duration durations ih => simp [ih]

theorem le_longest {durations : List Nat} {duration : Nat} (member : duration ∈ durations) :
    duration ≤ longest durations :=
  longest_le.1 (Nat.le_refl _) duration member

theorem longest_add (now : Nat) (durations : List Nat) :
    max now (longest (durations.map (now + ·))) = now + longest durations := by
  induction durations with
  | nil => simp
  | cons duration durations ih =>
      simp only [List.map_cons, longest_cons]
      omega

/-- How long commands take one after another. -/
def inTurn (delay : Command → Nat) (commands : List Command) : Nat := (commands.map delay).sum

/-- How long the commands of a plan take, its rows side by side after those that lead. -/
def Plan.duration (delay : Command → Nat) (plan : Plan) : Nat :=
  inTurn delay plan.lead + longest (plan.lanes.map (inTurn delay))

namespace Lane

/-- When a row is over, if it goes on now. -/
def endTime (delay : Command → Nat) (now : Nat) (lane : Lane) : Nat :=
  (lane.call.bind Call.due).getD now + inTurn delay lane.rest

/-- The call that is under way, if any, has not been over before now, and will be some time. -/
def Timely (now : Nat) (lane : Lane) : Prop :=
  ∀ call, lane.call = some call → ∃ due, call.due = some due ∧ now ≤ due

theorem timely_resting (now : Nat) (rest : List Command) : Timely now { rest } := by
  intro call isCall
  cases isCall

end Lane

/-- When rows are over that go on now, and the later ones that begin after them. -/
def endTime (delay : Command → Nat) (now : Nat) (lanes : List Lane) (later : List (List Command)) :
    Nat :=
  max now (longest (lanes.map (Lane.endTime delay now))) + longest (later.map (inTurn delay))

/-- All calls that are under way are over in time for the work to end at some time. -/
structure OnTime (delay : Command → Nat) (ends now : Nat) (lanes : List Lane)
    (later : List (List Command)) : Prop where
  timely : ∀ lane ∈ lanes, lane.Timely now
  ends : endTime delay now lanes later = ends

variable {delay : Command → Nat} {ends now : Nat} {before after : List Lane}
  {later : List (List Command)}

namespace OnTime

theorem replace {lane lane' : Lane} (onTime : OnTime delay ends now (before ++ lane :: after) later)
    (timely : lane'.Timely now) (sameTime : lane'.endTime delay now = lane.endTime delay now) :
    OnTime delay ends now (before ++ lane' :: after) later := by
  have timelyBefore := onTime.timely
  have endsBefore := onTime.ends
  simp only [List.mem_append, List.mem_cons] at timelyBefore
  refine ⟨fun other member => ?_, ?_⟩
  · simp only [List.mem_append, List.mem_cons] at member
    rcases member with inFront | rfl | behind
    · exact timelyBefore other (Or.inl inFront)
    · exact timely
    · exact timelyBefore other (Or.inr (Or.inr behind))
  · simpa [endTime, sameTime] using endsBefore

theorem leave (onTime : OnTime delay ends now (before ++ {} :: after) later) :
    OnTime delay ends now (before ++ after) later := by
  refine ⟨fun lane member => onTime.timely lane ?_, ?_⟩
  · simp only [List.mem_append, List.mem_cons] at member ⊢
    exact member.imp_right Or.inr
  · have endsBefore := onTime.ends
    simp only [endTime, List.map_append, List.map_cons, longest_append, longest_cons,
      Lane.endTime, inTurn, Option.bind_none, Option.getD_none, List.map_nil, List.sum_nil,
      Nat.add_zero] at endsBefore ⊢
    omega

theorem proceed (onTime : OnTime delay ends now [] later) :
    OnTime delay ends now (later.map fun commands => { rest := commands }) [] := by
  refine ⟨fun lane member => ?_, ?_⟩
  · rcases List.mem_map.1 member with ⟨commands, -, rfl⟩
    exact Lane.timely_resting now commands
  · have rows : (later.map fun commands => ({ rest := commands } : Lane)).map
        (Lane.endTime delay now) = (later.map (inTurn delay)).map (now + ·) := by
      simp [Lane.endTime]
    rw [← onTime.ends]
    simp only [endTime, rows, longest_add, List.map_nil, longest_nil]
    omega

/-- While all rows wait for calls, no time matters but those at which the calls are over. -/
theorem wait {lanes : List Lane} {time : Nat} (onTime : OnTime delay ends now lanes later)
    (busy : lanes ≠ []) (waits : ∀ lane ∈ lanes, lane.call.isSome = true) (passes : now ≤ time)
    (notBefore : ∀ lane ∈ lanes, ∀ call due, lane.call = some call → call.due = some due →
      time ≤ due) : OnTime delay ends time lanes later := by
  have due : ∀ lane ∈ lanes, ∃ call due, lane.call = some call ∧ call.due = some due ∧
      time ≤ due := by
    intro lane member
    rcases Option.isSome_iff_exists.1 (waits lane member) with ⟨call, isCall⟩
    rcases onTime.timely lane member call isCall with ⟨due, isDue, -⟩
    exact ⟨call, due, isCall, isDue, notBefore lane member call due isCall isDue⟩
  refine ⟨fun lane member call isCall => ?_, ?_⟩
  · rcases onTime.timely lane member call isCall with ⟨due, isDue, -⟩
    exact ⟨due, isDue, notBefore lane member call due isCall isDue⟩
  · have sameTimes : lanes.map (Lane.endTime delay time) = lanes.map (Lane.endTime delay now) := by
      apply List.map_congr_left
      intro lane member
      rcases due lane member with ⟨call, due, isCall, isDue, -⟩
      simp [Lane.endTime, isCall, isDue]
    have atLeast : time ≤ longest (lanes.map (Lane.endTime delay time)) := by
      rcases List.exists_mem_of_ne_nil _ busy with ⟨lane, member⟩
      rcases due lane member with ⟨call, due, isCall, isDue, later⟩
      refine Nat.le_trans ?_ (le_longest (List.mem_map_of_mem member))
      simp only [Lane.endTime, isCall, isDue, Option.bind_some, Option.getD_some]
      omega
    have endsBefore := onTime.ends
    simp only [endTime, sameTimes] at endsBefore atLeast ⊢
    omega

theorem le_ends {lanes : List Lane} (onTime : OnTime delay ends now lanes later) : now ≤ ends := by
  rw [← onTime.ends, endTime]
  omega

end OnTime

namespace Task

variable {δ : Type} [Driver δ]

/-- In such worlds the calls of a task end after their delays, and its context is live. -/
structure Served (task : Task) (context : RequestContext) (delay : Command → Nat)
    (serves : World δ → Prop) : Prop where
  live : ∀ {world}, serves world → world.interruption? context = none
  begins : ∀ {world}, serves world → ∀ command,
    serves (world.beginCall task.config context command).1 ∧
      (world.beginCall task.config context command).2.due = some (world.clock + delay command)
  finishes : ∀ {world}, serves world → ∀ command,
    serves (world.finishCall task.config command).1 ∧
      (world.finishCall task.config command).2 ≠ .crashed

abbrev Punctual (delay : Command → Nat) (ends : Nat) (bench : Bench δ) : Prop :=
  OnTime delay ends bench.world.clock bench.lanes bench.later

variable {task : Task} {context : RequestContext} {serves : World δ → Prop}
  {bench bench' : Bench δ}

/-- No move of a task changes when its work ends. -/
theorem Move.onTime (move : task.Move context bench bench')
    (served : task.Served context delay serves) (isServed : serves bench.world)
    (onTime : Punctual delay ends bench) : serves bench'.world ∧ Punctual delay ends bench' := by
  have live := served.live isServed
  cases move with
  | skip here ended | breakOff here ended =>
      rw [live] at ended
      cases ended
  | @begin before after command rest here =>
      rcases served.begins isServed command with ⟨stillServed, due⟩
      have sameClock := (World.later_beginCall bench.world task.config context command).clock
      refine ⟨stillServed, ?_⟩
      rw [Punctual, here] at onTime
      rw [Punctual, sameClock]
      apply onTime.replace
      · intro call isCall
        obtain rfl := Option.some.inj isCall
        exact ⟨_, due, Nat.le_add_right _ _⟩
      · simp only [Lane.endTime, inTurn, Option.bind_some, Option.bind_none, due, Option.getD_some,
          Option.getD_none, List.map_cons, List.sum_cons]
        omega
  | @finish before after call rest world result here isOver done =>
      have stillServed := (served.finishes isServed call.command).1
      have sameClock := (World.later_finishCall bench.world task.config call.command).clock
      rw [done] at stillServed sameClock
      rw [Punctual, here] at onTime
      rcases onTime.timely { call := some call, rest } (by simp) call rfl with
        ⟨due, isDue, notBefore⟩
      have isNow : due = bench.world.clock := by
        simp only [isDue, Option.any_some, decide_eq_true_eq] at isOver
        omega
      refine ⟨stillServed, ?_⟩
      rw [Punctual, sameClock]
      exact onTime.replace (Lane.timely_resting _ rest) (by simp [Lane.endTime, isDue, isNow])
  | leave here =>
      rw [Punctual, here] at onTime
      exact ⟨isServed, onTime.leave⟩
  | proceed isOver =>
      rw [Punctual, isOver] at onTime
      exact ⟨isServed, onTime.proceed⟩

theorem Moves.onTime (moves : task.Moves context bench bench')
    (served : task.Served context delay serves) (isServed : serves bench.world)
    (onTime : Punctual delay ends bench) : serves bench'.world ∧ Punctual delay ends bench' := by
  induction moves with
  | refl => exact ⟨isServed, onTime⟩
  | tail _ move ih => exact move.onTime served ih.1 ih.2

/-- A task at work waits for its calls, which are over in time, or reports in time. -/
inductive Keeps (delay : Command → Nat) (ends now : Nat) : Phase → Prop
  | works {lanes : List Lane} {later : List (List Command)} {outcome : Outcome}
      (onTime : OnTime delay ends now lanes later) (busy : lanes ≠ [])
      (waits : ∀ lane ∈ lanes, lane.call.isSome = true) :
      Keeps delay ends now (.working lanes later outcome)
  | reports (past : ends ≤ now) : Keeps delay ends now .reported

theorem Works.keeps {result : World δ × Task × Option Outcome}
    (works : task.Works context bench result) (served : task.Served context delay serves)
    (isServed : serves bench.world) (onTime : Punctual delay ends bench) :
    serves result.1 ∧ Keeps delay ends result.1.clock result.2.1.phase := by
  cases works with
  | @stays bench' moves busy idle =>
      rcases Moves.onTime moves served isServed onTime with ⟨stillServed, onTime'⟩
      refine ⟨stillServed, .works onTime' busy fun lane member => ?_⟩
      rcases idle lane member with ⟨call, isCall, -⟩
      simp [isCall]
  | @reports bench' moves isOver last =>
      rcases Moves.onTime moves served isServed onTime with ⟨stillServed, onTime'⟩
      rw [Punctual, isOver, last] at onTime'
      refine ⟨stillServed, .reports ?_⟩
      rw [← onTime'.ends]
      simp [endTime]
  | crashes moves crash =>
      rcases crash with ⟨_, call, _, _, _, _, crashed⟩
      have stillServed := (Moves.onTime moves served isServed onTime).1
      have sound := (served.finishes stillServed call.command).2
      simp [crashed] at sound

end Task

end AvControl

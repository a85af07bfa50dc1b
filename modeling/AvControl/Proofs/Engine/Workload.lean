import AvControl.Proofs.Driver.Coherence
import AvControl.Proofs.Engine.Settlement

/-!
# What a task has still to do

Whenever it is a task's turn, looking after it leaves it with less to do: a wait that is over or
broken off ends, and what it was for is settled.
-/

namespace AvControl

namespace Work

theorem length_commands (work : Work) (device : DeviceId) (config : DeviceConfig)
    (handle : Handle) : (work.plan device config handle).commands.length ≤ work.size := by
  have offered : ∀ commands : List Command,
      (Plan.offered handle commands).commands.length ≤ commands.length := by
    intro commands
    simpa [Plan.commands, Plan.offered, ← List.flatMap_def] using List.length_filter_le _ _
  cases work with
  | read | probeHealth | probeInfo => exact offered _
  | apply desired =>
      rw [Plan.commands_plan]
      exact List.length_filter_le _ _

end Work

namespace Task

/-- How much a task has still to do. -/
def workload (task : Task) : Nat :=
  match task.phase with
  | .opening .fresh => task.work.size + 4
  | .opening _ => task.work.size + 3
  | .working lanes later _ => (pending lanes later).length + 2
  | .reported => 0

variable {δ : Type} {task : Task} {context : RequestContext}

theorem two_le_workload (unreported : task.phase ≠ .reported) : 2 ≤ task.workload := by
  simp only [workload]
  split
  · omega
  · omega
  · omega
  · exact absurd ‹_› unreported

/-- Some moves have settled a command, or have left all calls under way. -/
def Saves (bench bench' : Bench δ) : Prop :=
  (pending bench'.lanes bench'.later).length < (pending bench.lanes bench.later).length ∨
    (pending bench'.lanes bench'.later).length = (pending bench.lanes bench.later).length ∧
      ∀ lane ∈ bench.lanes, lane.call.isSome = true → lane ∈ bench'.lanes

theorem Saves.trans {first middle last : Bench δ} (earlier : Saves first middle)
    (later : Saves middle last) : Saves first last := by
  rcases earlier with less | ⟨same, stays⟩
  · rcases later with less' | ⟨same', -⟩
    · exact Or.inl (Nat.lt_trans less' less)
    · exact Or.inl (same' ▸ less)
  · rcases later with less' | ⟨same', stays'⟩
    · exact Or.inl (same ▸ less')
    · refine Or.inr ⟨same'.trans same, fun lane member hasCall => ?_⟩
      exact stays' lane (stays lane member hasCall) hasCall

variable [Driver δ]

theorem Move.saves {bench bench' : Bench δ} (move : task.Move context bench bench') :
    Saves bench bench' := by
  cases move with
  | skip here | breakOff here | finish here =>
      refine Or.inl ?_
      simp [here, pending, Lane.commands]
  | begin here | leave here =>
      refine Or.inr ⟨?_, fun lane member hasCall => ?_⟩
      · simp [here, pending, Lane.commands]
      · rw [here] at member
        rcases List.mem_append.1 member with inFront | behind
        · exact List.mem_append_left _ inFront
        · rcases List.mem_cons.1 behind with rfl | inRest
          · cases hasCall
          · simp [inRest]
  | proceed isOver =>
      refine Or.inr ⟨?_, ?_⟩
      · simp [isOver, pending, Bench.successors, Lane.commands, List.flatMap_map]
      · simp [isOver]

theorem Moves.saves {bench bench' : Bench δ} (moves : task.Moves context bench bench') :
    Saves bench bench' := by
  induction moves with
  | refl => exact Or.inr ⟨rfl, fun _ member _ => member⟩
  | tail _ move ih => exact ih.trans move.saves

/-- A task at work never has more to do than before. -/
theorem Works.workload_le {bench : Bench δ} {result : World δ × Task × Option Outcome}
    (works : task.Works context bench result) :
    result.2.1.workload ≤ (pending bench.lanes bench.later).length + 2 := by
  cases works with
  | stays moves =>
      have saves := Moves.saves moves
      simp only [workload, Task.enter]
      rcases saves with less | ⟨same, -⟩ <;> omega
  | reports | crashes => simp [workload, Task.enter]

/--
A task at work has less to do after it was looked after, if one of its calls was over or its context
had ended.
-/
theorem Works.workload_lt {bench : Bench δ} {result : World δ × Task × Option Outcome}
    (works : task.Works context bench result)
    (registered : (bench.world.registry.get task.config.driver).isSome = true)
    (wakes : bench.world.interruption? context ≠ none ∨ ∃ lane ∈ bench.lanes, ∃ call,
      lane.call = some call ∧ call.due.any (· ≤ bench.world.clock) = true) :
    result.2.1.workload < (pending bench.lanes bench.later).length + 2 := by
  cases works with
  | reports | crashes => simp [workload, Task.enter]
  | @stays bench' moves busy idle =>
      simp only [workload, Task.enter]
      rcases Moves.saves moves with less | ⟨-, stays⟩
      · omega
      · exfalso
        rcases wakes with ended | ⟨lane, member, call, isCall, isDue⟩
        · rcases List.exists_mem_of_ne_nil _ busy with ⟨lane, member⟩
          rcases idle lane member with ⟨_, _, waits⟩
          exact ended (waits registered).2
        · rcases idle lane (stays lane member (by simp [isCall])) with ⟨_, isCall', waits⟩
          rw [isCall, Option.some.injEq] at isCall'
          subst isCall'
          simp [(waits registered).1] at isDue

omit [Driver δ] in
theorem follow_cases (cached : CachedDriver δ) (number : Nat) :
    Caller.follow cached number = .joined number ∨
      ∃ result, Caller.follow cached number = .answered result := by
  simp only [Caller.follow]
  split
  · exact Or.inr ⟨_, rfl⟩
  · exact Or.inl rfl

/-- Somebody who asks for a device of a driver that is there joins an attempt or is answered. -/
theorem opened_cases (task : Task) (context : RequestContext) {world : World δ} (caller : Caller)
    (registered : (world.registry.get task.config.driver).isSome = true) :
    (∃ number, (task.opened context world caller).2 = .joined number) ∨
      ∃ result, (task.opened context world caller).2 = .answered result := by
  rcases Option.isSome_iff_exists.1 registered with ⟨cached, found⟩
  have polled : (task.opened context world caller).2 =
      (cached.poll world.tokens world.clock world.tickets context task.config.address
        caller).caller := by
    simp only [opened, World.lookAfter, found]
    split <;> rfl
  rw [polled]
  cases caller with
  | answered result => exact Or.inr ⟨result, rfl⟩
  | joined number => exact (follow_cases _ number).imp_left fun same => ⟨number, same⟩
  | fresh =>
      simp only [CachedDriver.poll]
      split
      · exact Or.inr ⟨_, rfl⟩
      · split
        · exact (follow_cases _ _).imp_left fun same => ⟨_, same⟩
        · exact (follow_cases _ _).imp_left fun same => ⟨_, same⟩

omit [Driver δ] in
theorem ready_of_turn {world : World δ} {turn : Nat} (begun : task.phase ≠ .opening .fresh)
    (isTurn : task.turn? context world = some turn) :
    task.due world ≠ [] ∨ task.isBrokenOff context world = true := by
  simp only [turn?] at isTurn
  split at isTurn
  · cases isTurn
  · exact absurd ‹_› begun
  · split at isTurn
    · rename_i ticket isLeast
      apply Or.inl
      intro nothing
      simp [nothing] at isLeast
    · split at isTurn
      · exact Or.inr ‹_›
      · cases isTurn

omit [Driver δ] in
/-- A task can go on as soon as one of its waits is over. -/
theorem turn_of_wake {world later : World δ} {time : Nat} (context : RequestContext)
    (isWake : time ∈ task.wakes world) (sameRegistry : later.registry = world.registry)
    (past : time ≤ later.clock) : ∃ turn, task.turn? context later = some turn := by
  have sameAttempt : task.attempt? later = task.attempt? world := by
    simp only [attempt?, sameRegistry]
  have isDue : task.due later ≠ [] := by
    rcases List.mem_append.1 isWake with ofAttempt | ofCall
    · rcases Option.bind_eq_some_iff.1 (Option.mem_toList.1 ofAttempt) with
        ⟨attempt, isAttempt, wakesThen⟩
      have isOver : attempt.isOver later.clock = true := by
        cases stage : attempt.stage with
        | ended => simp [Attempt.isOver, stage]
        | waiting => simpa [Attempt.isOver, stage, wakesThen] using past
      simp [due, sameAttempt, isAttempt, isOver]
    · rcases List.mem_filterMap.1 ofCall with ⟨call, member, isDue⟩
      have isOver : call ∈ task.calls.filter fun call => call.due.any (· ≤ later.clock) :=
        List.mem_filter.2 ⟨member, by simpa [isDue] using past⟩
      have notEmpty := List.ne_nil_of_mem isOver
      simp [due, notEmpty]
  simp only [turn?]
  split
  · rename_i isOver
    simp [due, calls, attempt?, isOver] at isDue
  · exact ⟨0, rfl⟩
  · cases isLeast : (task.due later).min? with
    | none => exact absurd (List.min?_eq_none_iff.1 isLeast) isDue
    | some ticket => exact ⟨ticket + 1, rfl⟩

/-- A task that waits for an attempt is answered in its turn, unless its context has ended. -/
theorem answered_of_turn {world : World δ} {number turn : Nat}
    (opening : task.phase = .opening (.joined number))
    (isTurn : task.turn? context world = some turn) :
    world.interruption? context ≠ none ∨
      ∃ result, (task.opened context world (.joined number)).2 = .answered result := by
  have ready := ready_of_turn (by simp [opening]) isTurn
  have isAttempt : task.attempt? world =
      (world.registry.get task.config.driver).bind fun cached => cached.attempts[number]? := by
    simp [attempt?, opening]
  cases waited : task.attempt? world with
  | none =>
      simp only [due, calls, opening, waited, isBrokenOff, List.filter_nil, List.map_nil,
        Option.filter_none, Option.toList_none, List.append_nil, Option.any_none, Bool.or_false,
        ne_eq, not_true_eq_false, false_or] at ready
      exact Or.inl (Option.isSome_iff_ne_none.1 ready)
  | some attempt =>
      rw [waited] at isAttempt
      rcases Option.bind_eq_some_iff.1 isAttempt.symm with ⟨cached, found, isAttempt⟩
      by_cases ended : world.interruption? context = none
      · have ends : attempt.isOver world.clock = true ∨
            attempt.isCancelled world.tokens = true := by
          rcases ready with isDue | broken
          · refine Or.inl (by_contra fun notOver => isDue ?_)
            simp [due, calls, opening, waited, Option.filter, notOver]
          · refine Or.inr ?_
            simpa [isBrokenOff, waited, ended] using broken
        rcases CachedDriver.follow_advance isAttempt ends with ⟨result, answered⟩
        refine Or.inr ⟨result, ?_⟩
        simpa [opened, World.lookAfter, found, CachedDriver.poll] using answered
      · exact Or.inl ended

omit [Driver δ] in
/-- A task at work has a call that is over in its turn, or its context has ended. -/
theorem wakes_of_turn {world : World δ} {lanes : List Lane} {later : List (List Command)}
    {outcome : Outcome} {turn : Nat} (working : task.phase = .working lanes later outcome)
    (isTurn : task.turn? context world = some turn) :
    world.interruption? context ≠ none ∨ ∃ lane ∈ lanes, ∃ call,
      lane.call = some call ∧ call.due.any (· ≤ world.clock) = true := by
  have noAttempt : task.attempt? world = none := by simp [attempt?, working]
  rcases ready_of_turn (by simp [working]) isTurn with isDue | broken
  · rw [due, noAttempt] at isDue
    rcases List.exists_mem_of_ne_nil _ isDue with ⟨ticket, member⟩
    simp only [calls, working, Option.filter_none, Option.toList_none, List.map_nil,
      List.append_nil, List.mem_map, List.mem_filter, List.mem_filterMap] at member
    rcases member with ⟨call, ⟨⟨lane, isLane, isCall⟩, isOver⟩, -⟩
    exact Or.inr ⟨lane, isLane, call, isCall, isOver⟩
  · rw [isBrokenOff, noAttempt] at broken
    exact Or.inl (Option.isSome_iff_ne_none.1 (by simpa using broken))

/-- Looking after a task in its turn leaves it with less to do. -/
theorem Polls.workload_lt {world : World δ} {result : World δ × Task × Option Outcome}
    (polls : task.Polls context world result)
    (registered : (world.registry.get task.config.driver).isSome = true) {turn : Nat}
    (isTurn : task.turn? context world = some turn) :
    result.2.1.workload < task.workload := by
  cases polls with
  | silent isOver => simp [turn?, isOver] at isTurn
  | leavesOut fresh => simp [workload, Task.enter, fresh]
  | @fails caller _ opening | @givesUp caller _ opening =>
      cases caller <;> simp [workload, Task.enter, opening]
  | @waits caller opening live unanswered stillLive =>
      have wasLive := (world.later_lookAfter task.config.driver task.config.address context
        caller).live stillLive
      cases caller with
      | answered result =>
          rcases Option.isSome_iff_exists.1 registered with ⟨cached, found⟩
          simp [opened, World.lookAfter, found, CachedDriver.poll, Caller.answer?] at unanswered
      | joined number =>
          rcases answered_of_turn opening isTurn with ended | ⟨result, answered⟩
          · exact absurd wasLive ended
          · simp [answered, Caller.answer?] at unanswered
      | fresh =>
          have cases := task.opened_cases context .fresh registered
          rcases cases with ⟨number, joined⟩ | ⟨result, answered⟩
          · simp [workload, opening, joined]
          · simp [answered, Caller.answer?] at unanswered
  | @begins caller handle _ opening live answer works =>
      have atMost := works.workload_le
      have sent := task.work.length_commands task.device task.config handle
      have same : pending (task.workbench (task.opened context world caller).1 handle).lanes
          (task.workbench (task.opened context world caller).1 handle).later =
            (task.work.plan task.device task.config handle).commands := by
        simp [pending, workbench, Lane.commands, Plan.commands]
      rw [same] at atMost
      have atLeast : task.work.size + 3 ≤ task.workload := by
        cases caller <;> simp [workload, opening]
      omega
  | goesOn working works =>
      have less := works.workload_lt registered (wakes_of_turn working isTurn)
      simpa only [workload, working] using less

end Task

end AvControl

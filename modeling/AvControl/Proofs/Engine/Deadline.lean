import AvControl.Driver.Scripted
import AvControl.Proofs.Engine.Alike
import AvControl.Proofs.Engine.Unhurried

/-!
# Deadlines

A request with a deadline goes the way that it would go without one until the deadline comes. Then
its coordinator stops waiting: what has arrived stays as it is, and of every other device the answer
says that the deadline has passed.
-/

namespace AvControl

namespace Likeness

variable {δ : Type} [Driver δ]

/-- The same drivers, and contexts of which the one may have a deadline that the other has not. -/
def untilDeadline (δ : Type) [Driver δ] (deadline : Nat) : Likeness δ δ where
  drivers := Eq
  contexts a b :=
    a.token = b.token ∧ (a.deadline = b.deadline ∨ a.deadline = some deadline ∧ b.deadline = none)
  token contexts := contexts.1
  beginOpen same _ := by subst same; exact ⟨rfl, rfl⟩
  finishOpen same _ := by subst same; exact ⟨rfl, rfl⟩
  beginCall same _ _ := by subst same; exact ⟨rfl, rfl⟩
  finishCall same _ _ := by subst same; exact ⟨rfl, rfl⟩

variable {deadline : Nat}

/-- Before a deadline, a context that has it is like one that has none. -/
theorem agrees_until (now : Nat) (early : now < deadline) :
    (untilDeadline δ deadline).Agrees now := by
  rintro ⟨first, token⟩ ⟨second, _⟩ ⟨rfl, same | ⟨has, hasNot⟩⟩ tokens
  · obtain rfl : first = second := same
    rfl
  · obtain rfl : first = some deadline := has
    obtain rfl : second = none := hasNot
    simp only [RequestContext.interruption?, if_neg (Nat.not_le.2 early)]

theorem worlds_refl (world : World δ) :
    (untilDeadline δ deadline).Worlds world.clock world world := by
  refine ⟨rfl, rfl, rfl, ?_, rfl, rfl⟩
  intro name
  cases world.registry.get name with
  | none => exact .none
  | some cached =>
      refine .some ⟨rfl, rfl, List.forall₂_same.2 ?_, rfl⟩
      intro attempt _
      exact ⟨rfl, ⟨rfl, Or.inl rfl⟩, rfl, rfl⟩

end Likeness

namespace Session

variable {δ : Type}

/-- A coordinator whose context has ended gives up. -/
theorem attend_ended {session : Session} {world : World δ} {interruption : Interruption}
    (unfinished : session.finished = false)
    (ended : world.interruption? session.context = some interruption) :
    session.attend world = (world, session.coordinate (some interruption)) := by
  have isOver : (session.coordinate (some interruption)).finished = true := rfl
  simp [attend, unfinished, ended, isOver]

end Session

namespace Run

variable {δ : Type} [Driver δ] {deadline : Nat}

/-- An unfinished run in which nothing happens before the deadline any more. -/
structure Stalls (run : Run δ) (deadline : Nat) : Prop where
  unfinished : run.finished = false
  idle : run.turns = []
  noMail : run.hasMail = false
  late : ∀ time < deadline, run.nextTime none ≠ some time

theorem finished_or_stalls {run : Run δ} (stops : run.step none = none) (deadline : Nat) :
    run.finished = true ∨ run.Stalls deadline := by
  cases finished : run.finished with
  | true => exact Or.inl rfl
  | false =>
      rcases step_eq_none stops with isOver | impatient | ⟨idle, noMail, never⟩
      · simp [finished] at isOver
      · cases impatient
      · exact Or.inr ⟨finished, idle, noMail, by simp [never]⟩

theorem stalls_of_step {run next : Run δ} (isNext : run.step none = some next)
    (early : run.world.clock < deadline) (late : deadline ≤ next.world.clock) :
    run.Stalls deadline := by
  rcases step_steps isNext with ⟨⟨unfinished, -⟩, steps⟩
  cases steps with
  | @poll _ _ _ session task =>
      have sameClock := (task.poll_polls session.context run.world).later.clock
      dsimp only at late
      omega
  | collect =>
      rw [attend_clock] at late
      omega
  | @wait time idle noMail isTime =>
      rw [attend_clock] at late
      refine ⟨unfinished, idle, noMail, ?_⟩
      intro other early' isOther
      obtain rfl : time = other := Option.some.inj (isTime.symm.trans isOther)
      exact absurd late (Nat.not_le.2 early')

/--
The two runs go side by side until the one without a deadline is over, or nothing happens in it
before the deadline any more.
-/
theorem side_by_side (steps : Nat) : ∀ {timed free : Run δ},
    (Likeness.untilDeadline δ deadline).Runs free.world.clock timed free →
    free.world.clock < deadline → (go none steps free).step none = none →
    ∃ i j, (Likeness.untilDeadline δ deadline).Runs (go none j free).world.clock
        (go none i timed) (go none j free) ∧
      (go none j free).world.clock < deadline ∧
      ((go none j free).finished = true ∨ (go none j free).Stalls deadline) ∧
      ∀ k, j < k → go none k free = go none j free ∨ deadline ≤ (go none k free).world.clock := by
  induction steps with
  | zero =>
      intro timed free runs early stops
      refine ⟨0, 0, runs, early, finished_or_stalls stops deadline, ?_⟩
      intro k _
      exact Or.inl (go_ended stops k)
  | succ steps ih =>
      intro timed free runs early stops
      cases isNext : free.step none with
      | none =>
          refine ⟨0, 0, runs, early, finished_or_stalls isNext deadline, ?_⟩
          intro k _
          exact Or.inl (go_ended isNext k)
      | some next =>
          have onward : ∀ k, go none (k + 1) free = go none k next := go_step isNext
          -- Only a wait can pass the deadline; before that both runs take the same step.
          rcases Nat.lt_or_ge next.world.clock deadline with early' | late
          · have stepped := runs.step (Likeness.agrees_until _ early) isNext (by
              intro time isWound isTime
              have sameTime : next.world.clock = time := by
                rw [isWound, attend_clock]
                rfl
              rw [sameTime] at early'
              exact ⟨(runs.nextTime Likeness.agrees_until none early').2 isTime,
                Likeness.agrees_until time early'⟩)
            rcases stepped with ⟨next', isNext', runs'⟩
            rw [onward] at stops
            rcases ih runs' early' stops with ⟨i, j, meet, before, ends, later⟩
            refine ⟨i + 1, j + 1, ?_, ?_, ?_, ?_⟩
            · rw [onward, go_step isNext']
              exact meet
            · rwa [onward]
            · rwa [onward]
            · intro k less
              rcases Nat.exists_eq_succ_of_ne_zero (Nat.ne_of_gt (Nat.zero_lt_of_lt less)) with
                ⟨k, rfl⟩
              rw [onward, onward]
              exact later k (Nat.lt_of_succ_lt_succ less)
          · refine ⟨0, 0, runs, early, Or.inr (stalls_of_step isNext early late), ?_⟩
            intro k positive
            rcases Nat.exists_eq_succ_of_ne_zero (Nat.ne_of_gt positive) with ⟨k, rfl⟩
            rw [onward]
            exact Or.inr (late.trans (clock_le_go k next))

/-- When nothing happens before its deadline any more, a run waits for the deadline. -/
theorem step_of_stalls {timed free : Run δ} {now : Nat} {session : Session}
    (runs : (Likeness.untilDeadline δ deadline).Runs now timed free) (early : now < deadline)
    (stalls : free.Stalls deadline) (alone : timed.sessions = [session])
    (bounded : session.context.deadline = some deadline) :
    timed.step none = some (timed.wind deadline).attend := by
  have unfinished : timed.finished = false := runs.finished.trans stalls.unfinished
  have unfinished' : session.finished = false := by simpa [finished, alone] using unfinished
  have isWake : deadline ∈ timed.wakes.filter fun time => timed.world.clock < time := by
    refine List.mem_filter.2 ⟨?_, by simpa [runs.worlds.clock] using early⟩
    simp [wakes, alone, unfinished', bounded]
  have next : timed.nextTime none = some deadline := by
    cases isNext : timed.nextTime none with
    | none =>
        rw [show timed.wakes.filter _ = [] from List.min?_eq_none_iff.1 isNext] at isWake
        cases isWake
    | some time =>
        have least := (List.min?_eq_some_iff.1 isNext).2 deadline isWake
        rcases Nat.eq_or_lt_of_le least with rfl | before
        · rfl
        · have isNext' := (runs.nextTime Likeness.agrees_until none before).1 isNext
          exact absurd isNext' (stalls.late time before)
  have idle : timed.turns = [] := (runs.turns (Likeness.agrees_until now early)).trans stalls.idle
  have noMail : timed.hasMail = false := runs.hasMail.trans stalls.noMail
  simp only [step]
  rw [unfinished, idle, noMail, next]
  rfl

/-- A task has reported in time if and only if it has at the last moment before the deadline. -/
theorem Undisturbed.reportTime_lt_iff {run : Run δ} {session : Session}
    (undisturbed : run.Undisturbed session) {steps timeout : Nat}
    (before : (run.after steps).world.clock < run.world.clock + timeout)
    (later : ∀ other, steps < other → run.after other = run.after steps ∨
      run.world.clock + timeout ≤ (run.after other).world.clock) {device : DeviceId} :
    run.reportTime device < timeout ↔ (run.after steps).HasReported device := by
  simp only [reportTime, iInf_lt_iff, Nat.cast_lt]
  constructor
  · rintro ⟨other, reported, inTime⟩
    rcases Nat.lt_or_ge steps other with after | notAfter
    · rcases later other after with same | late
      · rwa [← same]
      · omega
    · exact undisturbed.hasReported_mono notAfter reported
  · intro reported
    have passes := run.clock_le_after steps
    have inTime : (run.after steps).world.clock - run.world.clock < timeout :=
      Nat.sub_lt_left_of_lt_add passes before
    exact ⟨steps, reported, inTime⟩

/-- In the end everything that has arrived is collected. -/
theorem Undisturbed.collected {run : Run δ} {session last : Session}
    (undisturbed : run.Undisturbed session) (collecting : (run.complete none).Collecting last) :
    last.arrived = last.collected := by
  have noMail : last.mailbox = [] := by
    cases finished : last.finished with
    | true => exact (collecting.kept.complete finished).1
    | false =>
        rcases step_eq_none undisturbed.ends with isOver | impatient | ⟨-, noMail, -⟩
        · rw [collecting.finished_eq, finished] at isOver
          cases isOver
        · cases impatient
        · simpa [hasMail, collecting.alone, finished] using noMail
  rw [Session.arrived, noMail, List.append_nil]

omit [Driver δ] in
/-- What has arrived when nothing happens any more has been collected. -/
theorem Collecting.collected_of_stalls {run : Run δ} {session : Session}
    (collecting : run.Collecting session) (stalls : run.Stalls deadline) :
    session.mailbox = [] ∧ session.arrived = session.collected := by
  have unfinished := stalls.unfinished
  rw [collecting.finished_eq] at unfinished
  have noMail : session.mailbox = [] := by
    simpa [hasMail, collecting.alone, unfinished] using stalls.noMail
  exact ⟨noMail, by rw [Session.arrived, noMail, List.append_nil]⟩

omit [Driver δ] in
/-- What has been collected is kept when the coordinator gives up. -/
theorem Collecting.kept_of_reported {run : Run δ} {session : Session} {device : DeviceId}
    (collecting : run.Collecting session) (stalls : run.Stalls deadline)
    (reported : run.HasReported device) (interruption : Interruption) :
    ∃ outcome, (device, outcome) ∈ session.arrived ∧
      (device, outcome) ∈ (session.coordinate (some interruption)).collected := by
  rw [collecting.reported_iff] at reported
  rcases List.mem_map.1 reported with ⟨⟨_, outcome⟩, member, rfl⟩
  refine ⟨outcome, member, ?_⟩
  rw [(collecting.collected_of_stalls stalls).2] at member
  exact List.mem_append_left _ (List.mem_append_left _ member)

omit [Driver δ] in
/-- The coordinator gives up on every device that has not reported. -/
theorem Collecting.given_up {run : Run δ} {session : Session} {device : DeviceId}
    (collecting : run.Collecting session) (stalls : run.Stalls deadline)
    (isDevice : device ∈ session.tasks.map Task.device) (missing : ¬run.HasReported device)
    (interruption : Interruption) :
    (device, Outcome.ofDevice device interruption.message) ∈
      (session.coordinate (some interruption)).collected := by
  rcases collecting.collected_of_stalls stalls with ⟨noMail, arrived⟩
  rw [collecting.reported_iff, arrived] at missing
  have unreported : device ∈ (session.collect 1).unreported := by
    refine Session.mem_unreported.2 ⟨isDevice, ?_⟩
    simpa [Session.collect, noMail] using missing
  exact List.mem_append_right _ (List.mem_map.2 ⟨device, unreported, rfl⟩)

/-- When a request with a deadline comes to its end, and with which answer. -/
inductive EndsBy (deadline : Nat) (free : Run δ) (session : Session) : Nat → Answer → Prop
  | ends (finished : free.finished = true) :
      EndsBy deadline free session free.world.clock session.answer
  | cutOff (stalls : free.Stalls deadline) :
      EndsBy deadline free session deadline (session.coordinate (some .deadlineExceeded)).answer

theorem ends_by {timed free : Run δ} {now : Nat} {session : Session}
    (runs : (Likeness.untilDeadline δ deadline).Runs now timed free) (early : now < deadline)
    (alone : free.sessions = [session])
    (live : free.world.interruption? session.context = none)
    (bounded : ∀ session ∈ timed.sessions, session.context.deadline = some deadline)
    (ends : free.finished = true ∨ free.Stalls deadline) :
    ∃ steps last, (go none steps timed).finished = true ∧
      (go none steps timed).sessions = [last] ∧
      EndsBy deadline free session (go none steps timed).world.clock last.answer := by
  have alike := runs.sessions
  rw [alone] at alike
  rcases List.forall₂_cons_right_iff.1 alike with ⟨session', _, alike', nothing, alone'⟩
  rw [List.forall₂_nil_right_iff.1 nothing] at alone'
  have sameAnswer : session.answer = session'.answer := by
    rw [alike'.others]
    rfl
  rcases ends with finished | stalls
  · refine ⟨0, session', runs.finished.trans finished, alone', ?_⟩
    have sameClock : timed.world.clock = free.world.clock :=
      runs.worlds.clock.trans runs.worlds.clock'.symm
    rw [← sameAnswer, show (go none 0 timed).world.clock = free.world.clock from sameClock]
    exact .ends finished
  · have isNext := step_of_stalls runs early stalls alone' (bounded _ (by simp [alone']))
    have unfinished : session'.finished = false := by
      simpa [finished, alone'] using runs.finished.trans stalls.unfinished
    have ended : (timed.wind deadline).world.interruption? session'.context =
        some .deadlineExceeded := by
      have notCancelled : timed.world.tokens.isCancelled session'.context.token = false := by
        rw [runs.worlds.tokens, alike'.context.1]
        exact RequestContext.isCancelled_of_live live
      simp [wind, World.interruption?, RequestContext.interruption?, notCancelled,
        bounded session' (by simp [alone'])]
    have attended := Session.attend_ended unfinished ended
    have next : (timed.wind deadline).attend =
        ⟨(timed.wind deadline).world, [session'.coordinate (some .deadlineExceeded)]⟩ := by
      have alone'' : (timed.wind deadline).sessions = [session'] := alone'
      simp only [attend, alone'', attendAll_cons, attended]
      rfl
    have after : go none 1 timed = (timed.wind deadline).attend := go_step isNext 0
    refine ⟨1, session'.coordinate (some .deadlineExceeded), ?_, ?_, ?_⟩
    · rw [after, next]
      rfl
    · rw [after, next]
    · have sameAnswer' : (session.coordinate (some .deadlineExceeded)).answer =
          (session'.coordinate (some .deadlineExceeded)).answer := by
        rw [alike'.others]
        rfl
      rw [after, next, ← sameAnswer']
      exact .cutOff stalls

/--
What the deadline makes of a run: when it ends, and what its answer says of every device, compared
with what is said in the end without a deadline.
-/
theorem Undisturbed.truncated {run : Run δ} {session middle last : Session}
    (undisturbed : run.Undisturbed session) {steps timeout time : Nat} {answer : Answer}
    (onward : session.Onward middle) (collecting : (run.after steps).Collecting middle)
    (before : (run.after steps).world.clock < run.world.clock + timeout)
    (later : ∀ other, steps < other → run.after other = run.after steps ∨
      run.world.clock + timeout ≤ (run.after other).world.clock)
    (collecting' : (run.complete none).Collecting last)
    (endsBy : EndsBy (run.world.clock + timeout) (run.after steps) middle time answer) :
    (time : ℕ∞) = run.world.clock + min (timeout : ℕ∞)
        (⨆ device ∈ session.tasks.map Task.device, run.reportTime device) ∧
      answer.operation = session.operation ∧
      ∀ device ∈ session.tasks.map Task.device,
        (run.reportTime device < timeout →
          ∃ outcome, answer.Tells device outcome ∧ last.answer.Tells device outcome) ∧
        (timeout ≤ run.reportTime device →
          answer.Tells device (.ofDevice device Interruption.deadlineExceeded.message)) := by
  have inTime : ∀ device, run.reportTime device < timeout ↔ (run.after steps).HasReported device :=
    fun device => undisturbed.reportTime_lt_iff before later
  have passes := run.clock_le_after steps
  rw [← onward.continues.operation, ← onward.continues.devices]
  cases endsBy with
  | ends finished =>
      have same : run.after steps = run.complete none :=
        go_unique (step_of_finished finished none) undisturbed.ends
      obtain rfl : middle = last := by
        have alone := collecting.alone
        rw [same] at alone
        exact List.singleton_inj.1 (alone.symm.trans collecting'.alone)
      have elapsed := undisturbed.time_of_finished finished
      rw [← onward.continues.devices] at elapsed
      refine ⟨?_, rfl, ?_⟩
      · have inTime' : (run.after steps).world.clock - run.world.clock ≤ timeout := by omega
        rw [elapsed, min_eq_right (Nat.cast_le.2 inTime'), ← Nat.cast_add,
          Nat.add_sub_cancel' passes]
      · intro device isDevice
        rcases List.mem_map.1 isDevice with ⟨task, member, rfl⟩
        have isOver := collecting.finished_eq.symm.trans finished
        have reported : (run.after steps).HasReported task.device :=
          ⟨middle, by simp [collecting.alone], task, member, rfl,
            collecting.allReported isOver task member⟩
        refine ⟨fun _ => ?_, fun late => absurd late (not_le.2 ((inTime _).2 reported))⟩
        rcases collecting.kept.outcome isOver member with ⟨outcome, collected, -⟩
        have tells := collecting.kept.tells (fun settled _ => settled.own) collected
        exact ⟨outcome, tells, tells⟩
  | cutOff stalls =>
      have unfinished : middle.finished = false :=
        collecting.finished_eq.symm.trans stalls.unfinished
      have kept := collecting.kept.coordinate (δ := δ) Task.settling unfinished
        (some .deadlineExceeded)
      have onward' := undisturbed.onward_to_end collecting collecting'
      refine ⟨?_, rfl, ?_⟩
      · rcases collecting.missing stalls.unfinished stalls.noMail with ⟨device, isDevice, missing⟩
        have late := not_lt.1 ((inTime device).not.2 missing)
        have atLeast := late.trans
          (le_iSup₂ (f := fun device _ => run.reportTime device) device isDevice)
        rw [min_eq_left atLeast, Nat.cast_add]
      · intro device isDevice
        refine ⟨fun early => ?_, fun late => ?_⟩
        · rcases collecting.kept_of_reported stalls ((inTime device).1 early) .deadlineExceeded with
            ⟨outcome, arrived, collected⟩
          have arrived' := onward'.arrived _ arrived
          rw [undisturbed.collected collecting'] at arrived'
          exact ⟨outcome, kept.tells (fun settled _ => settled.own) collected,
            collecting'.kept.tells (fun settled _ => settled.own) arrived'⟩
        · have missing := (inTime device).not.1 (not_lt.2 late)
          exact kept.tells (fun settled _ => settled.own)
            (collecting.given_up stalls isDevice missing _)

end Run

namespace World

variable {δ : Type}

/-- Ask something of a room and wait for some time, or for as long as it takes. -/
def ask (world : World δ) (operation : Operation) (room : RoomConfig) (timeout : Option Nat) :
    World δ × RoomRequest :=
  let (world, context) := world.createContext timeout
  (world, { operation, room, context })

/-- A request that passes the checks with time to spare passes them without a deadline. -/
theorem prepare_unbounded {world : World δ} {operation : Operation} {room : RoomConfig}
    {timeout : Option Nat} {tasks : List Task}
    (passes : operation.prepare (world.ask operation room timeout).1
      (world.ask operation room timeout).2.context room = .ok tasks) :
    operation.prepare (world.ask operation room none).1
      (world.ask operation room none).2.context room = .ok tasks := by
  rcases Operation.prepare_ok passes with ⟨live, -⟩
  have live' : (world.ask operation room none).1.interruption?
      (world.ask operation room none).2.context = none := by
    rw [← Option.not_isSome_iff_eq_none] at live ⊢
    intro ended
    apply live
    rcases (RequestContext.interruption?_isSome _ _ _).1 ended with cancelled | past
    · exact (RequestContext.interruption?_isSome _ _ _).2 (Or.inl cancelled)
    · cases past
  rw [← passes]
  simp only [Operation.prepare, live, live']
  rfl

theorem prepare_of_passes {world : World δ} {request : RoomRequest} {tasks : List Task}
    (passes : request.operation.prepare world request.context request.room = .ok tasks) :
    world.prepare request = .ok {
      operation := request.operation
      context := request.context
      cancelAt := request.cancelAt
      tasks } := by
  rw [prepare, passes]
  rfl

variable [Driver δ]

/-- The run in which something is asked of a room for as long as it takes. -/
def unbounded (world : World δ) (operation : Operation) (room : RoomConfig) : Run δ :=
  (world.ask operation room none).1.engage [(world.ask operation room none).2]

/--
A request with a deadline is answered when the same request without a deadline is over, or else when
the deadline comes and nothing happens any more before.
-/
theorem ends_by_deadline {world : World δ} {operation : Operation} {room : RoomConfig}
    {timeout : Nat} {tasks : List Task} (positive : 0 < timeout)
    (passes : operation.prepare (world.ask operation room (some timeout)).1
      (world.ask operation room (some timeout)).2.context room = .ok tasks)
    {session : Session} (undisturbed : (world.unbounded operation room).Undisturbed session) :
    ∃ steps middle world' answer, session.Onward middle ∧
      ((world.unbounded operation room).after steps).Collecting middle ∧
      ((world.unbounded operation room).after steps).world.clock < world.clock + timeout ∧
      (∀ later, steps < later → (world.unbounded operation room).after later =
          (world.unbounded operation room).after steps ∨
        world.clock + timeout ≤ ((world.unbounded operation room).after later).world.clock) ∧
      (world.ask operation room (some timeout)).1.serveOne
        (world.ask operation room (some timeout)).2 none = (world', some (.ok answer)) ∧
      Run.EndsBy (world.clock + timeout) ((world.unbounded operation room).after steps) middle
        world'.clock answer := by
  have prepared := prepare_of_passes passes
  have alone := engage_one prepared
  have alone' := engage_one (prepare_of_passes (prepare_unbounded passes))
  generalize isTimed : (world.ask operation room (some timeout)).1.engage
    [(world.ask operation room (some timeout)).2] = timed at alone
  have early : world.clock < world.clock + timeout := by omega
  have start : (Likeness.untilDeadline δ (world.clock + timeout)).Runs world.clock timed
      (world.unbounded operation room) := by
    refine ⟨?_, ?_⟩
    · rw [← isTimed]
      exact Likeness.worlds_refl (world.ask operation room none).1
    · rw [alone, unbounded, alone']
      exact .cons ⟨⟨rfl, Or.inr ⟨rfl, rfl⟩⟩, rfl⟩ .nil
  have attended := (start.attend (Likeness.agrees_until _ early)).at_clock
  have sameClock : (world.unbounded operation room).attend.world.clock = world.clock :=
    Run.attend_clock _
  rcases Run.side_by_side _ attended (sameClock.trans_lt early) undisturbed.ends with
    ⟨i, steps, meet, before, ends, later⟩
  rcases undisturbed.collecting steps with ⟨middle, collecting, onward⟩
  have live : ((world.unbounded operation room).after steps).world.interruption? middle.context =
      none := by
    rw [onward.continues.context]
    exact undisturbed.live_after steps _
  have bounded : ∀ session ∈ (Run.go none i timed.attend).sessions,
      session.context.deadline = some (world.clock + timeout) := by
    intro last isLast
    have reaches := forall₂_trans (Run.attendAll_goes timed.world timed.sessions)
      (Run.go_reaches none i timed.attend) fun _ _ _ => Session.Goes.reaches
    rcases mem_right_of_forall₂ reaches isLast with ⟨first, isFirst, reached⟩
    rw [alone, List.mem_singleton] at isFirst
    rw [reached.continues.context, isFirst]
    rfl
  rcases Run.ends_by meet before collecting.alone live bounded ends with
    ⟨more, last, finished, isLast, endsBy⟩
  rw [Run.go_add] at finished isLast endsBy
  have stops := complete_ends (world.ask operation room (some timeout)).1
    [(world.ask operation room (some timeout)).2] none
  have same : timed.complete none = Run.go none (i + more) timed.attend := by
    rw [isTimed] at stops
    exact Run.go_unique stops (Run.step_of_finished finished none)
  rw [← same] at finished isLast endsBy
  rw [← isTimed] at finished isLast endsBy
  exact ⟨steps, middle, _, last.answer, onward, collecting, before, later,
    serveOne_eq prepared finished isLast, endsBy⟩

omit [Driver δ] in
theorem summarize_nil (operation : Operation) : operation.summarize [] = none := by
  cases operation <;> rfl

/--
What a deadline makes of a request. `whole` is what the request has collected in the end when it has
no deadline, and the answer to it if there is one.
-/
structure Truncated (world : World δ) (operation : Operation) (room : RoomConfig) (timeout : Nat)
    (world' : World δ) (response whole : RoomResponse operation.Data) : Prop where
  served : (world.ask operation room (some timeout)).1.serveOne
      (world.ask operation room (some timeout)).2 none =
        (world', some (.ok { operation, response }))
  collected : ((world.unbounded operation room).complete none).sessions.map Session.answer =
    [{ operation, response := whole }]
  answered : ((world.unbounded operation room).complete none).finished = true →
    ((world.ask operation room none).1.serveOne (world.ask operation room none).2 none).2 =
      some (.ok { operation, response := whole })
  time : (world'.clock : ℕ∞) = world.clock + min (timeout : ℕ∞)
    (⨆ device ∈ (operation.targets room).map Prod.fst,
      (world.unbounded operation room).reportTime device)
  early : ∀ device ∈ (operation.targets room).map Prod.fst,
    (world.unbounded operation room).reportTime device < timeout →
      response.about device = whole.about device
  late : ∀ device ∈ (operation.targets room).map Prod.fst,
    timeout ≤ (world.unbounded operation room).reportTime device →
      response.about device =
        (none, [{ device, field := "", error := "context deadline exceeded" }])

/--
Whatever drivers do: a request with a deadline is answered when its last task reports, or else at
its deadline. The answer says of the devices that were faster than the deadline what it would say
without it, and of every other device that the deadline has passed.
-/
theorem deadline_truncates {world : World δ} {operation : Operation} {room : RoomConfig}
    {timeout : Nat} {tasks : List Task} (positive : 0 < timeout)
    (passes : operation.prepare (world.ask operation room (some timeout)).1
      (world.ask operation room (some timeout)).2.context room = .ok tasks)
    (live : ((world.unbounded operation room).complete none).world.interruption?
      (world.ask operation room none).2.context = none) :
    ∃ world' response whole, world.Truncated operation room timeout world' response whole := by
  have prepared := prepare_of_passes (prepare_unbounded passes)
  have undisturbed := undisturbed prepared rfl rfl live
  have devices : tasks.map Task.device = (operation.targets room).map Prod.fst :=
    (ready_of_prepare prepared).devices
  rcases ends_by_deadline positive passes undisturbed with
    ⟨steps, middle, world', answer, onward, collecting, before, later, served, endsBy⟩
  rcases undisturbed.collecting (world.unbounded operation room).bound with
    ⟨last, collecting', onward'⟩
  have isLast : ((world.unbounded operation room).complete none).sessions = [last] :=
    collecting'.alone
  rcases undisturbed.truncated onward collecting before later collecting' endsBy with
    ⟨time, sameOperation, tells⟩
  -- Both answers are to the operation that was asked for, and so their data are of one type.
  rcases answer with ⟨operation', response⟩
  obtain rfl : operation' = operation := sameOperation
  rcases isWhole : last.answer with ⟨operation'', whole⟩
  obtain rfl : operation'' = operation' := by
    have same : last.answer.operation = operation' := onward'.continues.operation
    rwa [isWhole] at same
  rw [isWhole] at tells
  refine ⟨world', response, whole, served, ?_, fun finished => ?_, ?_, ?_, ?_⟩
  · rw [isLast, ← isWhole]
    rfl
  · rw [serveOne_eq prepared finished isLast, isWhole]
  · rw [time, devices]
    rfl
  · intro device isDevice isEarly
    rw [← devices] at isDevice
    rcases (tells device isDevice).1 isEarly with ⟨outcome, told, told'⟩
    exact told.trans told'.symm
  · intro device isDevice isLate
    rw [← devices] at isDevice
    have told := (tells device isDevice).2 isLate
    exact told.trans (Prod.ext (summarize_nil _) (List.mergeSort_singleton _))

/-- A script by which the device in the lab never tells how it is. -/
def labScript : Script where
  devices := SortedMap.empty.insert "lab"
    { rules := SortedMap.empty.insert "healthy" { hangs := true } }

theorem deadline_truncates_lab :
    let world := labWorld ({ script := labScript } : ScriptedDriver)
    0 < 5 ∧ (∃ tasks, Operation.health.prepare (world.ask .health lab (some 5)).1
      (world.ask .health lab (some 5)).2.context lab = .ok tasks) ∧
    ((world.unbounded .health lab).complete none).world.interruption?
      (world.ask .health lab none).2.context = none ∧
    ∃ world' response whole, world.Truncated .health lab 5 world' response whole := by
  intro world
  have isOk : (Operation.health.prepare (world.ask .health lab (some 5)).1
      (world.ask .health lab (some 5)).2.context lab).toOption.isSome = true := by decide +kernel
  have live : ((world.unbounded .health lab).complete none).world.interruption?
      (world.ask .health lab none).2.context = none := by decide +kernel
  rcases exists_of_isSome isOk with ⟨tasks, passes⟩
  exact ⟨by decide, ⟨tasks, passes⟩, live, deadline_truncates (by decide) passes live⟩

end World

end AvControl

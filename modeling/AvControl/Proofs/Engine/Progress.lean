import AvControl.Proofs.Engine.Preparation
import AvControl.Proofs.Engine.Workload
import Mathlib.Algebra.GroupWithZero.Nat

/-!
# Every run comes to an end

What the tasks of a run have still to do, the outcomes that nobody has collected, the requests that
somebody may still cancel, and patience add up to an effort that every step lowers. A run that is
told to go on for as many steps as its bound says therefore goes on until nothing happens any more.
-/

namespace AvControl

theorem sum_map_set {α : Type} (weight : α → Nat) {entries : List α} {j : Nat} {old : α} (new : α)
    (isOld : entries[j]? = some old) : ((entries.set j new).map weight).sum + weight old =
      (entries.map weight).sum + weight new := by
  induction entries generalizing j with
  | nil => simp at isOld
  | cons head rest ih =>
      cases j with
      | zero =>
          simp only [List.getElem?_cons_zero, Option.some.injEq] at isOld
          subst isOld
          simp only [List.set_cons_zero, List.map_cons, List.sum_cons]
          omega
      | succ j =>
          have others := ih isOld
          simp only [List.set_cons_succ, List.map_cons, List.sum_cons]
          omega

theorem sum_le_of_forall₂ {α β : Type} {before : α → Nat} {after : β → Nat} {as : List α}
    {bs : List β} (related : List.Forall₂ (fun a b => after b ≤ before a) as bs) :
    (bs.map after).sum ≤ (as.map before).sum := by
  induction related with
  | nil => simp
  | cons head _ ih =>
      simp only [List.map_cons, List.sum_cons]
      omega

theorem sum_lt_of_forall₂ {α β : Type} {before : α → Nat} {after : β → Nat} {as : List α}
    {bs : List β} (related : List.Forall₂ (fun a b => after b ≤ before a) as bs) {i : Nat} {a : α}
    {b : β} (isA : as[i]? = some a) (isB : bs[i]? = some b) (less : after b < before a) :
    (bs.map after).sum < (as.map before).sum := by
  induction related generalizing i with
  | nil => simp at isA
  | cons head rest ih =>
      have others := sum_le_of_forall₂ rest
      simp only [List.map_cons, List.sum_cons]
      cases i with
      | zero =>
          simp only [List.getElem?_cons_zero, Option.some.injEq] at isA isB
          subst isA isB
          omega
      | succ i =>
          have lessRest := ih isA isB
          omega

theorem double_sum_le {α : Type} {weight limit : α → Nat} {entries : List α}
    (atMost : ∀ entry ∈ entries, 2 * weight entry ≤ limit entry) :
    2 * (entries.map weight).sum ≤ (entries.map limit).sum := by
  induction entries with
  | nil => simp
  | cons head rest ih =>
      rcases List.forall_mem_cons.1 atMost with ⟨first, others⟩
      have atMostRest := ih others
      simp only [List.map_cons, List.sum_cons]
      omega

/-- Whether a moment, if there is one, is still to come, as a number. -/
def ahead (moment : Option Nat) (now : Nat) : Nat := if moment.any (now < ·) then 1 else 0

theorem ahead_le (moment : Option Nat) {earlier later : Nat} (passes : earlier ≤ later) :
    ahead moment later ≤ ahead moment earlier := by
  simp only [ahead]
  cases moment with
  | none => simp
  | some time =>
      simp only [Option.any_some, decide_eq_true_eq]
      split <;> split <;> omega

theorem ahead_lt {moment : Option Nat} {earlier later : Nat}
    (isOver : moment.any (fun time => earlier < time ∧ time ≤ later) = true) :
    ahead moment later < ahead moment earlier := by
  simp only [ahead]
  cases moment with
  | none => simp at isOver
  | some time =>
      simp only [Option.any_some, decide_eq_true_eq] at isOver ⊢
      split <;> split <;> omega

namespace Session

/-- What is left of a session. -/
def load (session : Session) (now : Nat) : Nat :=
  if session.finished then 0
  else
    (session.tasks.map Task.workload).sum + session.mailbox.length + ahead session.cancelAt now + 1

theorem load_finished {session : Session} (finished : session.finished = true) (now : Nat) :
    session.load now = 0 := by
  simp [load, finished]

theorem load_unfinished {session : Session} (unfinished : session.finished = false) (now : Nat) :
    session.load now = (session.tasks.map Task.workload).sum + session.mailbox.length +
      ahead session.cancelAt now + 1 := by
  simp [load, unfinished]

/-- A coordinator empties its mailbox, and threats that are over count no more. -/
theorem load_coordinate (session : Session) (unfinished : session.finished = false)
    (ended : Option Interruption) {earlier later : Nat} (passes : earlier ≤ later) :
    (session.coordinate ended).load later + session.mailbox.length +
      ahead session.cancelAt earlier ≤ session.load earlier + ahead session.cancelAt later := by
  have threat := ahead_le session.cancelAt passes
  rw [load_unfinished unfinished]
  cases ended with
  | some interruption =>
      rw [load_finished rfl]
      omega
  | none =>
      cases finished : (session.coordinate none).finished with
      | true =>
          rw [load_finished finished]
          omega
      | false =>
          rw [load_unfinished finished]
          simp only [coordinate] at finished ⊢
          split at finished
          · cases finished
          · rename_i waits
            rw [if_neg waits]
            simp only [collect, List.drop_length, List.length_nil]
            omega

/-- A session has something to attend to, now or by some later time. -/
def Calls (session : Session) (earlier later : Nat) : Prop :=
  session.finished = false ∧ (session.mailbox ≠ [] ∨
    session.context.deadline.any (· ≤ later) = true ∨
    session.cancelAt.any (fun time => earlier < time ∧ time ≤ later) = true)

variable {δ : Type}

theorem calls_live {session : Session} {world : World δ} {earlier : Nat}
    (calls : session.Calls earlier world.clock)
    (live : world.interruption? session.context = none) :
    0 < session.mailbox.length ∨
      ahead session.cancelAt world.clock < ahead session.cancelAt earlier := by
  rcases calls.2 with mail | past | cancelled
  · exact Or.inl (List.length_pos_iff.2 mail)
  · have ended := (RequestContext.interruption?_isSome session.context world.tokens
      world.clock).2 (Or.inr past)
    have isLive : session.context.interruption? world.tokens world.clock = none := live
    simp [isLive] at ended
  · exact Or.inr (ahead_lt cancelled)

/-- Attending to a session leaves it with less, if there was something to attend to. -/
theorem load_attend (session : Session) (world : World δ) {earlier : Nat}
    (passes : earlier ≤ world.clock) :
    (session.attend world).2.load world.clock ≤ session.load earlier ∧
      (session.Calls earlier world.clock →
        (session.attend world).2.load world.clock < session.load earlier) := by
  have threat := ahead_le session.cancelAt passes
  have attends := session.attend_attends world
  generalize session.attend world = attended at attends
  cases attends with
  | rests finished =>
      refine ⟨by simp [load_finished finished], fun calls => ?_⟩
      simp [calls.1] at finished
  | givesUp unfinished =>
      rw [load_finished rfl, load_unfinished unfinished]
      exact ⟨by omega, fun _ => by omega⟩
  | collects unfinished live =>
      have less := session.load_coordinate unfinished none passes
      dsimp only
      refine ⟨by omega, fun calls => ?_⟩
      rcases calls_live calls live with mail | lower <;> omega
  | cancels unfinished live unreported time =>
      have first := session.load_coordinate unfinished none passes
      have second := (session.coordinate none).load_coordinate unreported
        ((world.cancel session.context).interruption? session.context) (Nat.le_refl world.clock)
      dsimp only
      refine ⟨by omega, fun calls => ?_⟩
      rcases calls_live calls live with mail | lower <;> omega

/-- Looking after a task in its turn leaves its session with less. -/
theorem load_receive [Driver δ] {session : Session} {world : World δ} {j turn : Nat} {task : Task}
    (unfinished : session.finished = false) (isTask : session.tasks[j]? = some task)
    (registered : (world.registry.get task.config.driver).isSome = true)
    (isTurn : task.turn? session.context world = some turn) (now : Nat) :
    (session.receive j (task.poll session.context world).2).load now < session.load now := by
  have polls := task.poll_polls session.context world
  have less := polls.workload_lt registered isTurn
  have sum := sum_map_set Task.workload (task.poll session.context world).2.1 isTask
  have receives : (session.receive j (task.poll session.context world).2).finished = false :=
    unfinished
  rw [load_unfinished unfinished, load_unfinished receives]
  have mail : (task.poll session.context world).2.1.workload +
      (((task.poll session.context world).2.2.map fun outcome =>
        ((task.poll session.context world).2.1.device, outcome)).toList).length <
          task.workload := by
    cases isOutcome : (task.poll session.context world).2.2 with
    | none => simpa using less
    | some outcome =>
        rcases polls.reports_iff.1 (by simp [isOutcome]) with ⟨before, after⟩
        have atLeast := Task.two_le_workload before
        have nothingLeft : (task.poll session.context world).2.1.workload = 0 := by
          simp [Task.workload, after]
        simp only [nothingLeft, Option.map_some, Option.toList_some, List.length_singleton]
        omega
  simp only [receive, List.length_append]
  omega

end Session

namespace Run

variable {δ : Type}

/-- What is left of all sessions. -/
def load (run : Run δ) : Nat := (run.sessions.map fun session => session.load run.world.clock).sum

/-- Nobody has anything to do but wait. -/
def Idle (run : Run δ) : Prop := run.turns = [] ∧ run.hasMail = false

instance (run : Run δ) : Decidable run.Idle := inferInstanceAs (Decidable (_ ∧ _))

/-- How much can happen yet until patience ends. -/
def effort (run : Run δ) (patience : Option Nat) : Nat :=
  2 * run.load + 2 * ahead patience run.world.clock + if run.Idle then 1 else 0

/-- The drivers of all tasks are registered. -/
def Equipped (run : Run δ) : Prop :=
  ∀ session ∈ run.sessions, ∀ task ∈ session.tasks,
    (run.world.registry.get task.config.driver).isSome = true

theorem attend_clock (run : Run δ) : run.attend.world.clock = run.world.clock := by
  rcases run.world_attend with ⟨tokens, -, same⟩
  rw [same]

theorem attend_sessions (run : Run δ) {i : Nat} {session : Session}
    (isSession : run.sessions[i]? = some session) : ∃ tokens, run.world.tokens.Below tokens ∧
      run.attend.sessions[i]? = some (session.attend { run.world with tokens }).2 := by
  have related := attendAll_sessions run.sessions run.world
  rcases List.getElem?_eq_some_iff.1 isSession with ⟨inside, -⟩
  rw [related.length_eq] at inside
  have isNext := List.getElem?_eq_getElem inside
  rcases getElem?_of_forall₂ related isSession isNext with ⟨tokens, below, same⟩
  exact ⟨tokens, below, same ▸ isNext⟩

/-- After a while nothing is left of the sessions but what was left of them before. -/
theorem load_attend (run : Run δ) {time : Nat} (passes : time ≤ run.world.clock) :
    List.Forall₂ (fun before after => after.load run.world.clock ≤ before.load time)
      run.sessions run.attend.sessions := by
  apply (attendAll_sessions run.sessions run.world).imp
  intro session session' attended
  rcases attended with ⟨tokens, below, rfl⟩
  exact (session.load_attend { run.world with tokens } passes).1

theorem load_attend_lt (run : Run δ) {time : Nat} (passes : time ≤ run.world.clock)
    {session : Session} (member : session ∈ run.sessions)
    (calls : session.Calls time run.world.clock) :
    run.attend.load < (run.sessions.map fun session => session.load time).sum := by
  rcases List.mem_iff_getElem?.1 member with ⟨i, isSession⟩
  rcases run.attend_sessions isSession with ⟨tokens, below, isNext⟩
  have less := (session.load_attend { run.world with tokens } passes).2 calls
  rw [load, attend_clock]
  exact sum_lt_of_forall₂ (run.load_attend passes) isSession isNext less

variable [Driver δ]

omit [Driver δ] in
theorem nextTime_cases {run : Run δ} {patience : Option Nat} {time : Nat}
    (isNext : run.nextTime patience = some time) :
    patience = some time ∨ run.world.clock < time ∧ ∃ session ∈ run.sessions,
      session.finished = false ∧ (session.context.deadline = some time ∨
        session.cancelAt = some time ∨ ∃ task ∈ session.tasks, time ∈ task.wakes run.world) := by
  have member := List.min?_mem isNext
  rcases List.mem_append.1 member with inPatience | inWakes
  · exact Or.inl (by simpa using inPatience)
  · simp only [List.mem_filter, decide_eq_true_eq] at inWakes
    refine Or.inr ⟨inWakes.2, ?_⟩
    rcases List.mem_flatMap.1 inWakes.1 with ⟨session, isSession, isWake⟩
    refine ⟨session, isSession, ?_⟩
    cases finished : session.finished with
    | true => simp [finished] at isWake
    | false =>
        simp only [finished, Bool.false_eq_true, if_false, List.mem_append, Option.mem_toList,
          List.mem_flatMap, or_assoc] at isWake
        exact ⟨rfl, isWake⟩

omit [Driver δ] in
/-- Somebody has something to do when a wait of an unfinished session is over. -/
theorem not_idle_of_wake {run : Run δ} {world : World δ} {i : Nat} {session : Session} {task : Task}
    {time : Nat} (isSession : run.sessions[i]? = some session)
    (unfinished : session.finished = false) (member : task ∈ session.tasks)
    (isWake : time ∈ task.wakes world) (sameRegistry : run.world.registry = world.registry)
    (past : time ≤ run.world.clock) : ¬run.Idle := by
  rintro ⟨idle, -⟩
  rcases List.mem_iff_getElem?.1 member with ⟨j, isTask⟩
  rcases Task.turn_of_wake session.context isWake sameRegistry past with ⟨turn, isTurn⟩
  have inTurns := mem_turns.2 ⟨session, task, isSession, unfinished, isTask, isTurn⟩
  simp [idle] at inTurns

omit [Driver δ] in
/-- When the clock jumps, patience ends, a session is left with less, or some task can go on. -/
theorem effort_wait {run : Run δ} {patience : Option Nat} {time : Nat}
    (goesOn : patience.any (· ≤ run.world.clock) = false) (idle : run.Idle)
    (isNext : run.nextTime patience = some time) :
    (run.wind time).attend.effort patience < run.effort patience := by
  have nextClock : (run.wind time).attend.world.clock = time := attend_clock _
  have flag : (if (run.wind time).attend.Idle then 1 else 0) ≤ 1 := by split <;> omega
  have passes : run.world.clock ≤ time := by
    rcases nextTime_cases isNext with isPatience | ⟨passes, -⟩
    · simp only [isPatience, Option.any_some, decide_eq_false_iff_not] at goesOn
      omega
    · omega
  have related := (run.wind time).load_attend passes
  have atMost : (run.wind time).attend.load ≤ run.load := by
    rw [load, nextClock]
    exact sum_le_of_forall₂ related
  have patient := ahead_le patience passes
  simp only [effort, nextClock, if_pos idle]
  rcases nextTime_cases isNext with isPatience | ⟨later, session, member, unfinished, wakes⟩
  · have isOver : ahead patience time < ahead patience run.world.clock := by
      refine ahead_lt ?_
      simp only [isPatience, Option.any_some, decide_eq_false_iff_not] at goesOn ⊢
      exact decide_eq_true ⟨by omega, Nat.le_refl _⟩
    omega
  · have lower : (run.wind time).attend.load < run.load ∨ ¬(run.wind time).attend.Idle := by
      rcases wakes with isDeadline | isCancel | ⟨task, isTask, isWake⟩
      · refine Or.inl ((run.wind time).load_attend_lt passes member ⟨unfinished, ?_⟩)
        exact Or.inr (Or.inl (by simp [isDeadline, wind]))
      · refine Or.inl ((run.wind time).load_attend_lt passes member ⟨unfinished, ?_⟩)
        exact Or.inr (Or.inr (by simp [isCancel, wind, later]))
      · rcases List.mem_iff_getElem?.1 member with ⟨i, isSession⟩
        rcases (run.wind time).attend_sessions isSession with ⟨tokens, below, isAttended⟩
        have isTask' := (session.tasks_attend { (run.wind time).world with tokens }) ▸ isTask
        have sameRegistry : (run.wind time).attend.world.registry = run.world.registry := by
          rcases (run.wind time).world_attend with ⟨_, -, same⟩
          rw [same]
          rfl
        cases finished : (session.attend { (run.wind time).world with tokens }).2.finished with
        | false =>
            exact Or.inr (not_idle_of_wake isAttended finished isTask' isWake sameRegistry
              (Nat.le_of_eq nextClock.symm))
        | true =>
            refine Or.inl ?_
            rw [load, nextClock]
            refine sum_lt_of_forall₂ related isSession isAttended ?_
            rw [Session.load_finished finished, Session.load_unfinished unfinished]
            omega
    rcases lower with less | busy
    · omega
    · rw [if_neg busy]
      omega

/-- Every step of a run with all drivers at hand lowers its effort. -/
theorem Steps.effort_lt {patience : Option Nat} {run next : Run δ} (equipped : run.Equipped)
    (goesOn : patience.any (· ≤ run.world.clock) = false) (steps : Steps patience run next) :
    next.effort patience < run.effort patience := by
  have flag : (if next.Idle then 1 else 0) ≤ 1 := by split <;> omega
  cases steps with
  | @poll turn i j session task first isSession unfinished isTask isTurn =>
      have member := List.mem_of_getElem? isSession
      have registered := equipped session member task (List.mem_of_getElem? isTask)
      have less := Session.load_receive unfinished isTask registered isTurn run.world.clock
      have sum := sum_map_set (fun session : Session => session.load run.world.clock)
        (session.receive j (task.poll session.context run.world).2) isSession
      have sameClock := (task.poll_polls session.context run.world).later.clock
      simp only [effort, load, sameClock] at flag ⊢
      omega
  | collect idle mail =>
      rcases List.any_eq_true.1 mail with ⟨session, member, hasMail⟩
      simp only [Bool.and_eq_true, Bool.not_eq_true', List.isEmpty_eq_false_iff] at hasMail
      have less := run.load_attend_lt (Nat.le_refl _) member ⟨hasMail.1, Or.inl hasMail.2⟩
      have before : (run.sessions.map fun session => session.load run.world.clock).sum =
        run.load := rfl
      simp only [effort, attend_clock]
      omega
  | wait idle noMail isNext => exact effort_wait goesOn ⟨idle, noMail⟩ isNext

/-- Drivers are not forgotten, and tasks keep their drivers. -/
theorem Equipped.goes {run next : Run δ} (equipped : run.Equipped)
    (registered : ∀ name, (run.world.registry.get name).isSome = true →
      (next.world.registry.get name).isSome = true)
    (goes : List.Forall₂ (Session.Goes δ) run.sessions next.sessions) : next.Equipped := by
  intro session isNext task isTask
  rcases mem_right_of_forall₂ goes isNext with ⟨session', isSession, goes⟩
  rcases goes.continues.symm.mem isTask with ⟨phase, isEarlier⟩
  have wasRegistered := equipped session' isSession (task.enter phase) isEarlier
  exact registered _ wasRegistered

theorem Equipped.attend {run : Run δ} (equipped : run.Equipped) : run.attend.Equipped := by
  refine equipped.goes (fun name registered => ?_) (attendAll_goes run.world run.sessions)
  rcases run.world_attend with ⟨_, -, same⟩
  rw [same]
  exact registered

theorem Equipped.step {run next : Run δ} {patience : Option Nat} (equipped : run.Equipped)
    (steps : Steps patience run next) : next.Equipped := by
  have goes := steps.goes
  cases steps with
  | poll =>
      refine equipped.goes (fun name registered => ?_) goes
      exact (Task.poll_polls _ _ _).later.registered name registered
  | collect => exact equipped.attend
  | @wait time =>
      have wound : (run.wind time).Equipped := equipped
      exact wound.attend

/-- A run that may take as many steps as its effort says comes to its end. -/
theorem go_ends {patience : Option Nat} (steps : Nat) : ∀ {run : Run δ}, run.Equipped →
    run.effort patience ≤ steps → (go patience steps run).step patience = none := by
  induction steps with
  | zero =>
      intro run equipped enough
      by_contra goesOn
      rcases Option.ne_none_iff_exists'.1 goesOn with ⟨next, isNext⟩
      rcases step_steps isNext with ⟨⟨-, notOver⟩, steps⟩
      have less := steps.effort_lt equipped notOver
      omega
  | succ steps ih =>
      intro run equipped enough
      simp only [go]
      split
      · assumption
      · rename_i next isNext
        rcases step_steps isNext with ⟨⟨-, notOver⟩, steps'⟩
        have less := steps'.effort_lt equipped notOver
        exact ih (equipped.step steps') (by omega)

omit [Driver δ] in
theorem bound_eq (run : Run δ) : run.bound = (run.sessions.map Session.effort).sum + 4 := by
  simp only [bound]
  induction run.sessions with
  | nil => rfl
  | cons session rest ih =>
      simp only [List.foldr_cons, ih, List.map_cons, List.sum_cons]
      omega

end Run

theorem Session.effort_eq (session : Session) :
    session.effort = (session.tasks.map fun task => 4 * (task.work.size + 4)).sum + 8 := by
  simp only [effort]
  induction session.tasks with
  | nil => rfl
  | cons task rest ih =>
      simp only [List.foldr_cons, ih, List.map_cons, List.sum_cons]
      omega

namespace World

variable {δ : Type} [Driver δ]

omit [Driver δ] in
/-- A session that is about to begin takes no more than its bound says. -/
theorem Ready.load_le {world : World δ} {request : RoomRequest} {session : Session}
    (ready : world.Ready request session) (now : Nat) : 2 * session.load now ≤ session.effort := by
  have noMail : session.mailbox = [] := (List.append_eq_nil_iff.1 ready.empty).2
  have threat : ahead session.cancelAt now ≤ 1 := by
    simp only [ahead]
    split <;> omega
  have sum : 2 * (session.tasks.map Task.workload).sum ≤
      (session.tasks.map fun task => 4 * (task.work.size + 4)).sum := by
    apply double_sum_le
    intro task member
    simp only [Task.workload, ready.fresh member]
    omega
  rw [Session.load_unfinished ready.unfinished, Session.effort_eq, noMail, List.length_nil]
  omega

omit [Driver δ] in
theorem equipped_engage (world : World δ) (requests : List RoomRequest) :
    (world.engage requests).Equipped := by
  intro session isSession task isTask
  rcases mem_engage isSession with ⟨request, -, ready⟩
  rcases ready.assigned isTask with ⟨_, _, assigned⟩
  exact assigned.registered

/-- The work on some requests goes on until nothing happens any more. -/
theorem complete_ends (world : World δ) (requests : List RoomRequest) (patience : Option Nat) :
    ((world.engage requests).complete patience).step patience = none := by
  refine Run.go_ends _ (world.equipped_engage requests).attend ?_
  have attended : (world.engage requests).attend.load ≤ (world.engage requests).load := by
    rw [Run.load, Run.attend_clock]
    exact sum_le_of_forall₂ ((world.engage requests).load_attend (Nat.le_refl _))
  have sum : 2 * (world.engage requests).load ≤
      ((world.engage requests).sessions.map Session.effort).sum := by
    apply double_sum_le
    intro session member
    rcases mem_engage member with ⟨request, -, ready⟩
    exact ready.load_le _
  have patient : ahead patience (world.engage requests).attend.world.clock ≤ 1 := by
    simp only [ahead]
    split <;> omega
  have flag : (if (world.engage requests).attend.Idle then 1 else 0) ≤ 1 := by split <;> omega
  rw [Run.bound_eq, Run.effort]
  omega

end World

end AvControl

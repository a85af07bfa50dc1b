import AvControl.Engine.Run
import AvControl.Proofs.Engine.Moves
import Mathlib.Data.List.Forall2

/-!
# The steps of a run

A run goes on in three ways: a task that can go on is looked after, the coordinators look at their
mailboxes, or, when nobody has anything to do, the clock jumps and the coordinators look around.
What holds of every state of a run is proved of these three.
-/

namespace AvControl

theorem leastKeyed_eq_none {α : Type} {entries : List (Nat × α)} :
    leastKeyed entries = none ↔ entries = [] := by
  cases entries with
  | nil => simp [leastKeyed]
  | cons entry rest =>
      simp only [leastKeyed, reduceCtorEq, iff_false]
      split
      · simp
      · split <;> simp

theorem leastKeyed_mem {α : Type} {entries : List (Nat × α)} {entry : Nat × α}
    (least : leastKeyed entries = some entry) : entry ∈ entries := by
  induction entries generalizing entry with
  | nil => simp [leastKeyed] at least
  | cons head rest ih =>
      simp only [leastKeyed] at least
      split at least
      · simp only [Option.some.injEq] at least
        simp [least]
      · rename_i other isOther
        split at least
        · simp only [Option.some.injEq] at least
          exact List.mem_cons_of_mem _ (ih (least ▸ isOther))
        · simp only [Option.some.injEq] at least
          simp [least]

namespace Session

/-- The session after one of its tasks was looked after and may have reported. -/
def receive (session : Session) (j : Nat) (polled : Task × Option Outcome) : Session :=
  { session with
    tasks := session.tasks.set j polled.1
    mailbox := session.mailbox ++ (polled.2.map fun outcome => (polled.1.device, outcome)).toList }

/-- A coordinator leaves the tasks of its session, and what it is about, as they are. -/
theorem coordinate_eq (session : Session) (ended : Option Interruption) :
    ∃ collected mailbox finished,
      session.coordinate ended = { session with collected, mailbox, finished } := by
  cases ended with
  | some interruption => exact ⟨_, _, _, rfl⟩
  | none =>
      simp only [coordinate]
      split <;> exact ⟨_, _, _, rfl⟩

/-- What comes of attending to a session. -/
inductive Attends {δ : Type} (session : Session) (world : World δ) : World δ × Session → Prop
  | rests (finished : session.finished = true) : Attends session world (world, session)
  | givesUp {interruption : Interruption} (unfinished : session.finished = false)
      (ended : world.interruption? session.context = some interruption) :
      Attends session world (world, session.coordinate (some interruption))
  | collects (unfinished : session.finished = false)
      (live : world.interruption? session.context = none)
      (goesOn : (session.coordinate none).finished = true ∨
        session.isToBeCancelled world.clock = false) :
      Attends session world (world, session.coordinate none)
  | cancels (unfinished : session.finished = false)
      (live : world.interruption? session.context = none)
      (unreported : (session.coordinate none).finished = false)
      (time : session.isToBeCancelled world.clock = true) :
      Attends session world (world.cancel session.context,
        (session.coordinate none).coordinate
          ((world.cancel session.context).interruption? session.context))

theorem attend_attends {δ : Type} (session : Session) (world : World δ) :
    session.Attends world (session.attend world) := by
  simp only [attend]
  by_cases finished : session.finished = true
  · rw [if_pos finished]
    exact .rests finished
  · rw [if_neg finished]
    have unfinished : session.finished = false := by simpa using finished
    have sameContext : ∀ ended, (session.coordinate ended).context = session.context := by
      intro ended
      rcases session.coordinate_eq ended with ⟨_, _, _, same⟩
      rw [same]
    have sameTime : ∀ ended, (session.coordinate ended).isToBeCancelled world.clock =
        session.isToBeCancelled world.clock := by
      intro ended
      rcases session.coordinate_eq ended with ⟨_, _, _, same⟩
      rw [same]
      rfl
    cases ended : world.interruption? session.context with
    | some interruption => exact .givesUp unfinished ended
    | none =>
        simp only [sameTime, sameContext]
        split
        · rename_i both
          simp only [Bool.and_eq_true, Bool.not_eq_true'] at both
          exact .cancels unfinished ended both.1 both.2
        · rename_i notBoth
          simp only [Bool.and_eq_true, Bool.not_eq_true', not_and, Bool.not_eq_true] at notBoth
          refine .collects unfinished ended ?_
          cases reported : (session.coordinate none).finished with
          | true => exact Or.inl rfl
          | false => exact Or.inr (notBoth reported)

end Session

namespace Run

variable {δ : Type}

theorem mem_turns {run : Run δ} {turn i j : Nat} :
    (turn, i, j) ∈ run.turns ↔ ∃ session task, run.sessions[i]? = some session ∧
      session.finished = false ∧ session.tasks[j]? = some task ∧
      task.turn? session.context run.world = some turn := by
  simp only [turns, List.mem_flatMap, Prod.exists, List.mem_zipIdx_iff_getElem?]
  constructor
  · rintro ⟨session, i', found, member⟩
    cases finished : session.finished with
    | true => simp [finished] at member
    | false =>
        simp only [finished, Bool.false_eq_true, if_false, List.mem_filterMap, Prod.exists,
          List.mem_zipIdx_iff_getElem?, Option.map_eq_some_iff, Prod.mk.injEq] at member
        rcases member with ⟨task, j', isTask, turn', isTurn, rfl, rfl, rfl⟩
        exact ⟨session, task, found, finished, isTask, isTurn⟩
  · rintro ⟨session, task, found, unfinished, isTask, isTurn⟩
    refine ⟨session, i, found, ?_⟩
    simp only [unfinished, Bool.false_eq_true, if_false, List.mem_filterMap, Prod.exists,
      List.mem_zipIdx_iff_getElem?, Option.map_eq_some_iff, Prod.mk.injEq]
    exact ⟨task, j, isTask, turn, isTurn, by simp⟩

/-- Attending to a session changes nothing in the world but its cancellations. -/
theorem attend_world (session : Session) (world : World δ) : ∃ tokens,
    world.tokens.Below tokens ∧ (session.attend world).1 = { world with tokens } := by
  have attends := session.attend_attends world
  generalize session.attend world = attended at attends
  cases attends with
  | rests | givesUp | collects => exact ⟨world.tokens, .refl _, rfl⟩
  | cancels => exact ⟨_, world.tokens.below_cancel session.context.token, rfl⟩

theorem attendAll_cons (world : World δ) (session : Session) (rest : List Session) :
    attendAll world (session :: rest) =
      ((attendAll (session.attend world).1 rest).1,
        (session.attend world).2 :: (attendAll (session.attend world).1 rest).2) := rfl

theorem attendAll_world (sessions : List Session) : ∀ world : World δ, ∃ tokens,
    world.tokens.Below tokens ∧ (attendAll world sessions).1 = { world with tokens } := by
  induction sessions with
  | nil => exact fun world => ⟨world.tokens, .refl _, rfl⟩
  | cons session rest ih =>
      intro world
      rcases attend_world session world with ⟨tokens, below, same⟩
      rcases ih { world with tokens } with ⟨tokens', below', same'⟩
      refine ⟨tokens', below.trans below', ?_⟩
      rw [attendAll_cons, same]
      exact same'

/-- Every session is attended to in a world that differs in its cancellations at most. -/
theorem attendAll_sessions (sessions : List Session) : ∀ world : World δ,
    List.Forall₂ (fun session session' => ∃ tokens, world.tokens.Below tokens ∧
      session' = (session.attend { world with tokens }).2)
      sessions (attendAll world sessions).2 := by
  induction sessions with
  | nil => exact fun world => .nil
  | cons session rest ih =>
      intro world
      rcases attend_world session world with ⟨tokens, below, same⟩
      rw [attendAll_cons, same]
      refine .cons ⟨world.tokens, .refl _, rfl⟩ ?_
      apply (ih { world with tokens }).imp
      intro session session' attended
      rcases attended with ⟨tokens', below', rfl⟩
      exact ⟨tokens', below.trans below', rfl⟩

theorem world_attend (run : Run δ) : ∃ tokens, run.world.tokens.Below tokens ∧
    run.attend.world = { run.world with tokens } := attendAll_world run.sessions run.world

/-- The run when nothing has happened but that time has passed. -/
def wind (run : Run δ) (time : Nat) : Run δ :=
  { run with world := { run.world with clock := time } }

variable [Driver δ]

theorem pollTask_eq {run : Run δ} {i j : Nat} {session : Session} {task : Task}
    (isSession : run.sessions[i]? = some session) (isTask : session.tasks[j]? = some task) :
    run.pollTask i j =
      { world := (task.poll session.context run.world).1
        sessions := run.sessions.set i
          (session.receive j (task.poll session.context run.world).2) } := by
  simp only [pollTask, isSession, isTask]
  rfl

/-- What a run does next. -/
inductive Steps (patience : Option Nat) (run : Run δ) : Run δ → Prop
  | poll {turn i j : Nat} {session : Session} {task : Task}
      (first : leastKeyed run.turns = some (turn, i, j))
      (isSession : run.sessions[i]? = some session) (unfinished : session.finished = false)
      (isTask : session.tasks[j]? = some task)
      (isTurn : task.turn? session.context run.world = some turn) :
      Steps patience run
        { world := (task.poll session.context run.world).1
          sessions := run.sessions.set i
            (session.receive j (task.poll session.context run.world).2) }
  | collect (idle : run.turns = []) (mail : run.hasMail = true) : Steps patience run run.attend
  | wait {time : Nat} (idle : run.turns = []) (noMail : run.hasMail = false)
      (next : run.nextTime patience = some time) :
      Steps patience run (run.wind time).attend

theorem step_steps {patience : Option Nat} {run next : Run δ}
    (steps : run.step patience = some next) :
    (run.finished = false ∧ patience.any (· ≤ run.world.clock) = false) ∧
      Steps patience run next := by
  simp only [step] at steps
  split at steps
  · simp at steps
  · rename_i goesOn
    simp only [Bool.or_eq_true, not_or, Bool.not_eq_true] at goesOn
    refine ⟨goesOn, ?_⟩
    split at steps
    · rename_i turn i j first
      rcases mem_turns.1 (leastKeyed_mem first) with
        ⟨session, task, isSession, unfinished, isTask, isTurn⟩
      rw [pollTask_eq isSession isTask, Option.some.injEq] at steps
      exact steps ▸ .poll first isSession unfinished isTask isTurn
    · rename_i noTurn
      have idle := leastKeyed_eq_none.1 noTurn
      split at steps
      · rename_i mail
        obtain rfl := Option.some.inj steps
        exact .collect idle mail
      · rename_i noMail
        rcases Option.map_eq_some_iff.1 steps with ⟨time, next, rfl⟩
        exact .wait idle (by simpa using noMail) next

/-- A run stops only when all is answered, patience has ended, or nothing will ever happen. -/
theorem step_eq_none {patience : Option Nat} {run : Run δ} (stops : run.step patience = none) :
    run.finished = true ∨ patience.any (· ≤ run.world.clock) = true ∨
      run.turns = [] ∧ run.hasMail = false ∧ run.nextTime patience = none := by
  simp only [step] at stops
  split at stops
  · rename_i ends
    simp only [Bool.or_eq_true] at ends
    exact ends.imp_right Or.inl
  · split at stops
    · simp at stops
    · rename_i noTurn
      split at stops
      · simp at stops
      · rename_i noMail
        exact Or.inr (Or.inr ⟨leastKeyed_eq_none.1 noTurn, by simpa using noMail,
          Option.map_eq_none_iff.1 stops⟩)

/-- What every step keeps holds wherever a run gets to. -/
theorem go_induction {patience : Option Nat} {property : Run δ → Prop}
    (kept : ∀ run next, property run → run.step patience = some next → property next)
    (steps : Nat) : ∀ {run : Run δ}, property run → property (go patience steps run) := by
  induction steps with
  | zero => exact fun start => start
  | succ steps ih =>
      intro run start
      simp only [go]
      split
      · exact start
      · exact ih (kept run _ start ‹_›)

theorem go_step {patience : Option Nat} {run next : Run δ} (isNext : run.step patience = some next)
    (steps : Nat) : go patience (steps + 1) run = go patience steps next := by
  simp only [go, isNext]

/-- A run that has come to its end does not change any more. -/
theorem go_ended {patience : Option Nat} {run : Run δ} (stops : run.step patience = none)
    (steps : Nat) : go patience steps run = run := by
  cases steps with
  | zero => rfl
  | succ steps => simp [go, stops]

theorem go_add (patience : Option Nat) (second first : Nat) : ∀ run : Run δ,
    go patience second (go patience first run) = go patience (first + second) run := by
  induction first with
  | zero =>
      intro run
      rw [Nat.zero_add]
      rfl
  | succ first ih =>
      intro run
      rw [Nat.succ_add]
      cases isNext : run.step patience with
      | none => simp only [go_ended isNext]
      | some next => rw [go_step isNext, go_step isNext, ih]

/-- A run has one end. -/
theorem go_unique {patience : Option Nat} {first second : Nat} {run : Run δ}
    (stops : (go patience first run).step patience = none)
    (stops' : (go patience second run).step patience = none) :
    go patience first run = go patience second run := by
  rw [← go_ended stops second, ← go_ended stops' first, go_add, go_add, Nat.add_comm]

theorem step_of_finished {run : Run δ} (finished : run.finished = true) (patience : Option Nat) :
    run.step patience = none := by
  simp [step, finished]

end Run

end AvControl

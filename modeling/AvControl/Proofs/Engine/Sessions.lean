import AvControl.Proofs.Engine.Steps
import AvControl.Proofs.Lists

/-!
# The sessions of a run

From the point of view of one session a run is a sequence of two kinds of events: one of its tasks
is looked after, or its coordinator looks around. What a session is about never changes, and the
answers to some requests are those of their sessions at the end of the run.
-/

namespace AvControl

open Relation

namespace Task

/-- The task as it was before it began. -/
def anew (task : Task) : Task := task.enter (.opening .fresh)

variable (task : Task) (phase : Phase)

@[simp]
theorem anew_enter : (task.enter phase).anew = task.anew := rfl

@[simp]
theorem device_enter : (task.enter phase).device = task.device := rfl

@[simp]
theorem config_enter : (task.enter phase).config = task.config := rfl

@[simp]
theorem work_enter : (task.enter phase).work = task.work := rfl

@[simp]
theorem phase_enter : (task.enter phase).phase = phase := rfl

end Task

namespace Session

/-- What can happen to a session in a world of some drivers. -/
inductive Goes (δ : Type) [Driver δ] (session : Session) : Session → Prop
  | stays : Goes δ session session
  | polls {j : Nat} {task : Task} (world : World δ) (unfinished : session.finished = false)
      (isTask : session.tasks[j]? = some task) :
      Goes δ session (session.receive j (task.poll session.context world).2)
  | attends (world : World δ) : Goes δ session (session.attend world).2

/-- Some things have happened to a session. -/
abbrev Reaches (δ : Type) [Driver δ] : Session → Session → Prop := ReflTransGen (Goes δ)

/-- Two sessions are about the same. -/
structure Continues (before after : Session) : Prop where
  operation : after.operation = before.operation
  context : after.context = before.context
  cancelAt : after.cancelAt = before.cancelAt
  tasks : after.tasks.map Task.anew = before.tasks.map Task.anew

namespace Continues

theorem refl (session : Session) : session.Continues session := ⟨rfl, rfl, rfl, rfl⟩

theorem trans {first middle last : Session} (earlier : first.Continues middle)
    (later : middle.Continues last) : first.Continues last where
  operation := later.operation.trans earlier.operation
  context := later.context.trans earlier.context
  cancelAt := later.cancelAt.trans earlier.cancelAt
  tasks := later.tasks.trans earlier.tasks

/-- A task of the one session is in the other, in some phase. -/
theorem task {before after : Session} (continues : before.Continues after) {j : Nat} {task : Task}
    (isTask : before.tasks[j]? = some task) :
    ∃ phase, after.tasks[j]? = some (task.enter phase) := by
  have same := congrArg (fun tasks => tasks[j]?) continues.tasks
  simp only [List.getElem?_map, isTask, Option.map_some] at same
  rcases Option.map_eq_some_iff.1 same with ⟨later, isLater, sameAnew⟩
  refine ⟨later.phase, ?_⟩
  rw [isLater]
  simp only [Task.anew, Task.enter, Task.mk.injEq] at sameAnew
  rcases sameAnew with ⟨sameDevice, sameConfig, sameWork, -⟩
  cases later
  simp_all [Task.enter]

theorem symm {before after : Session} (continues : before.Continues after) :
    after.Continues before where
  operation := continues.operation.symm
  context := continues.context.symm
  cancelAt := continues.cancelAt.symm
  tasks := continues.tasks.symm

theorem mem {before after : Session} (continues : before.Continues after) {task : Task}
    (member : task ∈ before.tasks) : ∃ phase, task.enter phase ∈ after.tasks := by
  rcases List.mem_iff_getElem?.1 member with ⟨j, isTask⟩
  rcases continues.task isTask with ⟨phase, isLater⟩
  exact ⟨phase, List.mem_of_getElem? isLater⟩

theorem devices {before after : Session} (continues : before.Continues after) :
    after.tasks.map Task.device = before.tasks.map Task.device := by
  have same := congrArg (List.map Task.device) continues.tasks
  rw [List.map_map, List.map_map] at same
  exact same

end Continues

theorem continues_coordinate (session : Session) (ended : Option Interruption) :
    session.Continues (session.coordinate ended) := by
  rcases session.coordinate_eq ended with ⟨_, _, _, same⟩
  rw [same]
  exact ⟨rfl, rfl, rfl, rfl⟩

theorem continues_attend {δ : Type} (session : Session) (world : World δ) :
    session.Continues (session.attend world).2 := by
  have attends := session.attend_attends world
  generalize session.attend world = attended at attends
  cases attends with
  | rests => exact .refl session
  | givesUp => exact session.continues_coordinate (some _)
  | collects => exact session.continues_coordinate none
  | cancels => exact (session.continues_coordinate _).trans (continues_coordinate _ _)

theorem tasks_coordinate (session : Session) (ended : Option Interruption) :
    (session.coordinate ended).tasks = session.tasks := by
  rcases session.coordinate_eq ended with ⟨_, _, _, same⟩
  rw [same]

theorem tasks_attend {δ : Type} (session : Session) (world : World δ) :
    (session.attend world).2.tasks = session.tasks := by
  have attends := session.attend_attends world
  generalize session.attend world = attended at attends
  cases attends with
  | rests => rfl
  | givesUp => exact tasks_coordinate session (some _)
  | collects => exact tasks_coordinate session none
  | cancels => exact (tasks_coordinate _ _).trans (tasks_coordinate session none)

theorem continues_enter {session : Session} {j : Nat} {task : Task} (phase : Phase)
    (outcome : Option Outcome) (isTask : session.tasks[j]? = some task) :
    session.Continues (session.receive j (task.enter phase, outcome)) := by
  refine ⟨rfl, rfl, rfl, ?_⟩
  apply List.ext_getElem?
  intro other
  simp only [receive]
  rw [List.getElem?_map, List.getElem?_map, List.getElem?_set]
  by_cases here : j = other
  · subst here
    rcases List.getElem?_eq_some_iff.1 isTask with ⟨inside, isHere⟩
    simp [inside, isHere]
  · simp [here]

variable {δ : Type} [Driver δ]

theorem continues_receive {session : Session} {j : Nat} {task : Task} (world : World δ)
    (isTask : session.tasks[j]? = some task) :
    session.Continues (session.receive j (task.poll session.context world).2) := by
  rcases (task.poll_polls session.context world).eq_enter with ⟨phase, same⟩
  have continues := continues_enter phase (task.poll session.context world).2.2 isTask
  rwa [← same] at continues

theorem Goes.continues {session session' : Session} (goes : session.Goes δ session') :
    session.Continues session' := by
  cases goes with
  | stays => exact .refl session
  | polls world unfinished isTask => exact continues_receive world isTask
  | attends world => exact session.continues_attend world

theorem Goes.reaches {first middle last : Session} (goes : first.Goes δ middle)
    (reaches : middle.Reaches δ last) : first.Reaches δ last := .head goes reaches

theorem Reaches.continues {session session' : Session} (reaches : session.Reaches δ session') :
    session.Continues session' := by
  induction reaches with
  | refl => exact .refl session
  | tail _ goes ih => exact ih.trans goes.continues

end Session

namespace Run

variable {δ : Type} [Driver δ]

theorem attendAll_goes (world : World δ) (sessions : List Session) :
    List.Forall₂ (Session.Goes δ) sessions (attendAll world sessions).2 := by
  apply (attendAll_sessions sessions world).imp
  intro session session' attended
  rcases attended with ⟨tokens, -, rfl⟩
  exact .attends _

theorem Steps.goes {patience : Option Nat} {run next : Run δ} (steps : Steps patience run next) :
    List.Forall₂ (Session.Goes δ) run.sessions next.sessions := by
  cases steps with
  | collect => exact attendAll_goes _ _
  | wait => exact attendAll_goes _ _
  | @poll turn i j session task _ isSession unfinished isTask _ =>
      rcases List.getElem?_eq_some_iff.1 isSession with ⟨inside, isHere⟩
      refine List.forall₂_iff_get.2 ⟨by simp, fun other inside' inside'' => ?_⟩
      simp only [List.get_eq_getElem, List.getElem_set]
      split
      · rename_i here
        subst here
        rw [isHere]
        exact .polls run.world unfinished isTask
      · exact .stays

theorem go_reaches (patience : Option Nat) (steps : Nat) (run : Run δ) :
    List.Forall₂ (Session.Reaches δ) run.sessions (go patience steps run).sessions := by
  have kept : ∀ middle next : Run δ,
      List.Forall₂ (Session.Reaches δ) run.sessions middle.sessions →
        middle.step patience = some next →
          List.Forall₂ (Session.Reaches δ) run.sessions next.sessions := by
    intro middle next reaches isNext
    exact forall₂_trans reaches (step_steps isNext).2.goes fun _ _ _ => .tail
  exact go_induction kept steps (List.forall₂_same.2 fun session _ => .refl)

theorem complete_reaches (run : Run δ) (patience : Option Nat) :
    List.Forall₂ (Session.Reaches δ) run.sessions (run.complete patience).sessions :=
  forall₂_trans (attendAll_goes run.world run.sessions) (go_reaches patience _ run.attend)
    fun _ _ _ => Session.Goes.reaches

end Run

namespace World

/-- How a request is answered: by the check that it does not pass, or by its session. -/
def Answers {ε : Type} (ends : Session → Session → Prop) (prepared : Except ε Session)
    (answer : Except ε Answer) : Prop :=
  match prepared with
  | .error error => answer = .error error
  | .ok session => ∃ session', ends session session' ∧ answer = .ok session'.answer

theorem distribute_answers {ends : Session → Session → Prop}
    (prepared : List (Except RequestError Session)) : ∀ sessions : List Session,
    List.Forall₂ ends (prepared.filterMap fun session => session.toOption) sessions →
      List.Forall₂ (Answers ends) prepared (distribute prepared sessions) := by
  induction prepared with
  | nil => exact fun _ _ => .nil
  | cons session rest ih =>
      intro sessions related
      cases session with
      | error error => exact .cons rfl (ih sessions related)
      | ok session =>
          cases related with
          | cons related others => exact .cons ⟨_, related, rfl⟩ (ih _ others)

variable {δ : Type} [Driver δ]

/-- The run that serves some requests, before it begins. -/
def engage (world : World δ) (requests : List RoomRequest) : Run δ where
  world := world
  sessions := (requests.map world.prepare).filterMap fun session => session.toOption

theorem serve_eq (world : World δ) (requests : List RoomRequest) (patience : Option Nat) :
    world.serve requests patience =
      if ((world.engage requests).complete patience).finished then
        (((world.engage requests).complete patience).world,
          some (distribute (requests.map world.prepare)
            ((world.engage requests).complete patience).sessions))
      else (((world.engage requests).complete patience).world, none) := rfl

/-- Every request is answered by its own check, or by its own session once that is finished. -/
theorem serve_answers {world world' : World δ} {requests : List RoomRequest} {patience : Option Nat}
    {answers : List (Except RequestError Answer)}
    (served : world.serve requests patience = (world', some answers)) :
    List.Forall₂
      (fun request => Answers
        (fun session session' => session.Reaches δ session' ∧ session'.finished = true)
        (world.prepare request))
      requests answers := by
  rw [serve_eq] at served
  split at served
  · rename_i finished
    simp only [Prod.mk.injEq, Option.some.injEq] at served
    rcases served with ⟨-, rfl⟩
    have reaches := (world.engage requests).complete_reaches patience
    have answers := distribute_answers _ _ (forall₂_and_right reaches (List.all_eq_true.1 finished))
    exact List.forall₂_map_left_iff.1 answers
  · simp at served

end World

end AvControl

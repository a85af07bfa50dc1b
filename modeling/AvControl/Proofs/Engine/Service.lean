import AvControl.Proofs.Engine.Accord
import AvControl.Proofs.Engine.Companions
import AvControl.Proofs.Engine.Reports

/-!
# Requests in the background

A request that has no deadline and that nobody cancels waits for all its tasks. If each of them has
a device to itself and never waits for ever, the request is answered, and the answer says of every
device what its task has brought. So two such answers are the same when the tasks bring the same.
-/

namespace AvControl

/-- An answer says of every device what its task has brought, and nothing of others. -/
structure Answer.Gathers (answer : Answer) (session : Session)
    (brings : Task → Outcome → Prop) : Prop where
  operation : answer.operation = session.operation
  sorted : answer.response.errors.Pairwise fun a b => (a.compare b).isLE = true
  tasks : ∀ task ∈ session.tasks, ∃ outcome, brings task outcome ∧
    answer.Tells task.device outcome
  others : ∀ device, device ∉ session.tasks.map Task.device → answer.Tells device {}

/-- Answers are the same when they have gathered the same. -/
theorem Answer.Gathers.eq_of_accords {answer other : Answer} {session : Session}
    {brings brings' : Task → Outcome → Prop} (gathers : answer.Gathers session brings)
    (gathers' : other.Gathers session brings')
    (accords : ∀ task ∈ session.tasks, ∀ outcome outcome', brings task outcome →
      brings' task outcome' → outcome.Accords session.operation outcome') : answer = other := by
  refine Answer.eq_of_accords (gathers.operation.trans gathers'.operation.symm)
    gathers.sorted gathers'.sorted fun device => ?_
  rw [gathers.operation]
  by_cases isDevice : device ∈ session.tasks.map Task.device
  · rcases List.mem_map.1 isDevice with ⟨task, isTask, rfl⟩
    rcases gathers.tasks task isTask with ⟨outcome, brings, tells⟩
    rcases gathers'.tasks task isTask with ⟨outcome', brings', tells'⟩
    exact ⟨outcome, outcome', tells, tells', accords task isTask outcome outcome' brings brings'⟩
  · exact ⟨{}, {}, gathers.others device isDevice, gathers'.others device isDevice,
      ⟨rfl, .refl _, List.nodup_nil⟩⟩

/-- No two devices of a room are reached by the same driver at the same address. -/
def RoomConfig.Apart (room : RoomConfig) : Prop :=
  ∀ device config other config', room.devices.get? device = some config →
    room.devices.get? other = some config' → device ≠ other →
      (config.driver, config.address) ≠ (config'.driver, config'.address)

namespace World

theorem apart_lab : lab.Apart := by
  intro device config other config' isDevice isOther differ
  exact absurd ((eq_of_lab isDevice).1.trans (eq_of_lab isOther).1.symm) differ

variable {δ : Type} [Driver δ]

/-- A request without a deadline that nobody cancels while it is served. -/
structure Background (world : World δ) (request : RoomRequest) : Prop where
  unbounded : request.context.deadline = none
  patient : request.cancelAt = none
  live : (world.serveOne request none).1.interruption? request.context = none

theorem world_serveOne (world : World δ) (request : RoomRequest) (patience : Option Nat) :
    (world.serveOne request patience).1 = ((world.engage [request]).complete patience).world := by
  simp only [serveOne, serve_eq]
  split <;> rfl

end World

namespace Run

variable {δ : Type} [Driver δ] {run : Run δ} {session : Session}
  {busy : Task → World δ → Task → Prop} {brings : Task → World δ → Outcome → Prop}

/-- A run comes to its end with all its tasks as long as none of them waits for ever. -/
theorem Undisturbed.finished (undisturbed : run.Undisturbed session)
    (watches : ∀ task ∈ session.tasks, ∃ last task',
      (run.complete none).Watches last task' (busy task) (brings task) ∧
        session.Onward last ∧ task'.device = task.device)
    (stirs : ∀ task ∈ session.tasks, ∀ world task', busy task world task' →
      (task'.turn? session.context world).isSome = true ∨ ∃ wake, wake ∈ task'.wakes world) :
    (run.complete none).finished = true := by
  by_contra unfinished
  -- a run that stops early has nothing left to wait for, but a task at work still stirs
  rcases step_eq_none undisturbed.ends with finished | impatient | ⟨noTurn, noMail, never⟩
  · exact unfinished finished
  · cases impatient
  · rcases undisturbed.collecting_end with ⟨last, collecting, onward⟩
    rcases collecting.missing (Bool.not_eq_true _ ▸ unfinished) noMail with
      ⟨device, isDevice, missing⟩
    rw [onward.continues.devices] at isDevice
    rcases List.mem_map.1 isDevice with ⟨task, isTask, rfl⟩
    rcases watches task isTask with ⟨last', task', watches, onward', sameDevice⟩
    have atWork : task'.phase ≠ .reported := fun isOver => missing
      ⟨last', by simp [watches.hosts.alone], task', watches.hosts.isTask, sameDevice, isOver⟩
    have goesOn := stirs task isTask _ _ (watches.atWork atWork)
    rw [← onward'.continues.context] at goesOn
    exact watches.hosts.goes_on watches.hosts.isTask atWork goesOn ⟨noTurn, noMail⟩ never

end Run

namespace World

variable {δ : Type} [Driver δ] {world : World δ} {request : RoomRequest} {session : Session}

/-- A request in the background is answered with what is known that its tasks bring. -/
theorem serveOne_gathers (calm : world.Calm) (apart : request.room.Apart)
    (background : world.Background request) (prepared : world.prepare request = .ok session)
    (busy : Task → World δ → Task → Prop) (brings : Task → World δ → Outcome → Prop)
    (watch : ∀ task ∈ session.tasks,
      Task.Watch δ session.context task.config (busy task) (brings task))
    (isBusy : ∀ task ∈ session.tasks, busy task world task)
    (stirs : ∀ task ∈ session.tasks, ∀ world task', busy task world task' →
      (task'.turn? session.context world).isSome = true ∨ ∃ wake, wake ∈ task'.wakes world) :
    ∃ answer, (world.serveOne request none).2 = some (.ok answer) ∧
      answer.Gathers session fun task => brings task (world.serveOne request none).1 := by
  have ready := ready_of_prepare prepared
  have undisturbed := undisturbed prepared background.unbounded background.patient
    (by rw [← world_serveOne]; exact background.live)
  have watches : ∀ task ∈ session.tasks, ∃ last task',
      ((world.engage [request]).complete none).Watches last task' (busy task) (brings task) ∧
        session.Onward last ∧ task'.device = task.device := by
    intro task isTask
    rcases ready.assigned isTask with ⟨target, -, assigned⟩
    have hosts := hosts_engage prepared calm undisturbed.toUnhurried isTask
      fun other config isOther differs =>
        apart _ _ other config (assigned.device ▸ assigned.config) isOther differs.symm
    rcases undisturbed.watches hosts assigned.fresh (watch task isTask) (isBusy task isTask) with
      ⟨last, task', watches, onward, sameDevice, -⟩
    exact ⟨last, task', watches, onward, sameDevice⟩
  have finished := undisturbed.finished watches stirs
  rcases undisturbed.collecting_end with ⟨last, collecting, onward⟩
  have served := serveOne_eq prepared finished collecting.alone
  have isOver : last.finished = true := collecting.finished_eq ▸ finished
  refine ⟨last.answer, by rw [served], onward.continues.operation,
    RoomResponse.pairwise_sortErrors _, fun task isTask => ?_, fun device foreign => ?_⟩
  · rcases watches task isTask with ⟨last', task', watches, -, sameDevice⟩
    obtain rfl : last' = last := by simpa [watches.hosts.alone] using collecting.alone
    rcases watches.tells isOver with ⟨outcome, brings, tells⟩
    rw [served]
    exact ⟨outcome, brings, sameDevice ▸ tells⟩
  · rw [← onward.continues.devices] at foreign
    refine (collecting.kept.about_others foreign).trans (Prod.ext (summarize_nil _).symm ?_)
    exact List.mergeSort_nil.symm

end World

end AvControl

import AvControl.Proofs.Engine.Refusal

/-!
# What the journal is about

Whatever is asked of drivers is written down with the driver and the address that it is about. A
task asks for nothing but its own device, so that all that requests add to the journal is about
devices that they contact.
-/

namespace AvControl

/-- An entry is about the device with a configuration. -/
def Event.IsFor (event : Event) (config : DeviceConfig) : Prop :=
  event.driver = config.driver ∧ event.address = config.address

namespace World

variable {δ : Type}

/-- On the way from one world to another only entries of one kind have been written down. -/
def Logs (kind : Event → Prop) (before after : World δ) : Prop :=
  ∃ entries, after.journal = before.journal ++ entries ∧ ∀ event ∈ entries, kind event

namespace Logs

variable {kind : Event → Prop} {first middle last : World δ}

theorem nothing (same : last.journal = first.journal) : Logs kind first last :=
  ⟨[], by simp [same], by simp⟩

theorem one {event : Event} (isKind : kind event)
    (added : last.journal = first.journal ++ [event]) : Logs kind first last :=
  ⟨[event], added, by simpa using isKind⟩

theorem trans (earlier : Logs kind first middle) (later : Logs kind middle last) :
    Logs kind first last := by
  rcases earlier with ⟨entries, added, areKind⟩
  rcases later with ⟨entries', added', areKind'⟩
  refine ⟨entries ++ entries', by simp [added, added'], fun event member => ?_⟩
  exact (List.mem_append.1 member).elim (areKind event) (areKind' event)

theorem mono {weaker : Event → Prop} (logs : Logs kind first last)
    (implies : ∀ event, kind event → weaker event) : Logs weaker first last := by
  rcases logs with ⟨entries, added, areKind⟩
  exact ⟨entries, added, fun event member => implies event (areKind event member)⟩

/-- Every entry that was not there before is of that kind. -/
theorem mem (logs : Logs kind first last) {event : Event} (member : event ∈ last.journal) :
    event ∈ first.journal ∨ kind event := by
  rcases logs with ⟨entries, added, areKind⟩
  rw [added] at member
  exact (List.mem_append.1 member).imp_right (areKind event)

end Logs

variable [Driver δ]

theorem logs_lookAfter (world : World δ) (config : DeviceConfig) (context : RequestContext)
    (caller : Caller) : Logs (Event.IsFor · config) world
      (world.lookAfter config.driver config.address context caller).1 := by
  simp only [lookAfter]
  split
  · exact .nothing rfl
  · split
    · exact .one ⟨rfl, rfl⟩ rfl
    · exact .nothing rfl

theorem logs_beginCall (world : World δ) (config : DeviceConfig) (context : RequestContext)
    (command : Command) :
    Logs (Event.IsFor · config) world (world.beginCall config context command).1 := by
  simp only [beginCall]
  split
  · exact .nothing rfl
  · exact .one ⟨rfl, rfl⟩ rfl

theorem logs_finishCall (kind : Event → Prop) (world : World δ) (config : DeviceConfig)
    (command : Command) : Logs kind world (world.finishCall config command).1 := by
  cases found : world.registry.get config.driver with
  | none => exact .nothing (by rw [finishCall_missing found])
  | some cached => exact .nothing (by rw [finishCall_eq found])

end World

namespace Task

variable {δ : Type} [Driver δ] {task : Task} {context : RequestContext}

theorem Move.logs {before after : Bench δ} (move : task.Move context before after) :
    World.Logs (Event.IsFor · task.config) before.world after.world := by
  cases move with
  | skip | breakOff | leave | proceed => exact .nothing rfl
  | begin => exact before.world.logs_beginCall task.config context _
  | @finish _ _ call _ world _ _ _ done =>
      have logs := before.world.logs_finishCall (Event.IsFor · task.config) task.config call.command
      rwa [done] at logs

theorem Moves.logs {before after : Bench δ} (moves : task.Moves context before after) :
    World.Logs (Event.IsFor · task.config) before.world after.world := by
  induction moves with
  | refl => exact .nothing rfl
  | tail _ move ih => exact ih.trans move.logs

theorem Works.logs {bench : Bench δ} {result : World δ × Task × Option Outcome}
    (works : task.Works context bench result) :
    World.Logs (Event.IsFor · task.config) bench.world result.1 := by
  cases works with
  | stays moves => exact Moves.logs moves
  | reports moves => exact Moves.logs moves
  | @crashes bench' world moves crash =>
      rcases crash with ⟨_, call, _, _, _, _, crashed⟩
      have logs := bench'.world.logs_finishCall (Event.IsFor · task.config) task.config call.command
      rw [crashed] at logs
      exact (Moves.logs moves).trans logs

/-- A task writes down nothing but what it asks of its own device. -/
theorem Polls.logs {world : World δ} {result : World δ × Task × Option Outcome}
    (polls : task.Polls context world result) :
    World.Logs (Event.IsFor · task.config) world result.1 := by
  have opened : ∀ caller,
      World.Logs (Event.IsFor · task.config) world (task.opened context world caller).1 :=
    fun caller => world.logs_lookAfter task.config context caller
  cases polls with
  | silent | leavesOut => exact .nothing rfl
  | fails | givesUp | waits => exact opened _
  | begins opening live answer works => exact (opened _).trans works.logs
  | goesOn working works => exact works.logs

end Task

namespace Run

variable {δ : Type} [Driver δ]

/-- An entry is about the device of a task that is under way in a run. -/
def Concerns (run : Run δ) (event : Event) : Prop :=
  ∃ session ∈ run.sessions, ∃ task ∈ session.tasks, event.IsFor task.config

theorem Steps.logs {patience : Option Nat} {run next : Run δ} (steps : Steps patience run next) :
    World.Logs run.Concerns run.world next.world := by
  cases steps with
  | collect =>
      rcases run.world_attend with ⟨tokens, -, same⟩
      exact .nothing (by rw [same])
  | @wait time =>
      rcases (run.wind time).world_attend with ⟨tokens, -, same⟩
      exact .nothing (by rw [same]; rfl)
  | @poll turn i j session task _ isSession unfinished isTask _ =>
      exact (task.poll_polls session.context run.world).logs.mono fun event isFor =>
        ⟨session, List.mem_of_getElem? isSession, task, List.mem_of_getElem? isTask, isFor⟩

/-- Later on a run is about no other devices than at its beginning. -/
theorem concerns_of_reaches {run later : Run δ} {event : Event}
    (reaches : List.Forall₂ (Session.Reaches δ) run.sessions later.sessions)
    (concerns : later.Concerns event) : run.Concerns event := by
  rcases concerns with ⟨session', isSession', task', isTask', isFor⟩
  rcases mem_right_of_forall₂ reaches isSession' with ⟨session, isSession, reaches⟩
  rcases reaches.continues.symm.mem isTask' with ⟨phase, isTask⟩
  exact ⟨session, isSession, _, isTask, isFor⟩

theorem logs_go {patience : Option Nat} (steps : Nat) (run : Run δ) :
    World.Logs run.Concerns run.world (go patience steps run).world := by
  have kept : ∀ middle next : Run δ,
      List.Forall₂ (Session.Reaches δ) run.sessions middle.sessions ∧
          World.Logs run.Concerns run.world middle.world →
        middle.step patience = some next →
          List.Forall₂ (Session.Reaches δ) run.sessions next.sessions ∧
            World.Logs run.Concerns run.world next.world := by
    rintro middle next ⟨reaches, logs⟩ isNext
    have steps := (step_steps isNext).2
    exact ⟨forall₂_trans reaches steps.goes fun _ _ _ => .tail,
      logs.trans (steps.logs.mono fun _ => concerns_of_reaches reaches)⟩
  exact (go_induction kept steps
    ⟨List.forall₂_same.2 fun session _ => .refl, .nothing rfl⟩).2

theorem logs_complete (run : Run δ) (patience : Option Nat) :
    World.Logs run.Concerns run.world (run.complete patience).world := by
  rcases run.world_attend with ⟨tokens, -, same⟩
  have attended : World.Logs run.Concerns run.world run.attend.world := .nothing (by rw [same])
  have reaches : List.Forall₂ (Session.Reaches δ) run.sessions run.attend.sessions :=
    (attendAll_goes run.world run.sessions).imp fun _ _ goes => .single goes
  exact attended.trans ((logs_go run.bound run.attend).mono fun _ => concerns_of_reaches reaches)

end Run

/-- An entry is about a device that a request contacts. -/
def RoomRequest.Concerns (request : RoomRequest) (event : Event) : Prop :=
  ∃ device config, request.operation.Contacts request.room device ∧
    request.room.devices.get? device = some config ∧ event.IsFor config

namespace World

variable {δ : Type}

theorem concerns_engage {world : World δ} {requests : List RoomRequest} {event : Event}
    (concerns : (world.engage requests).Concerns event) :
    ∃ request ∈ requests, request.Concerns event := by
  rcases concerns with ⟨session, isSession, task, isTask, isFor⟩
  rcases mem_engage isSession with ⟨request, isRequest, ready⟩
  rcases ready.assigned isTask with ⟨target, isTarget, assigned⟩
  exact ⟨request, isRequest, target.1, task.config,
    Operation.mem_targets_iff.1 (List.mem_map.2 ⟨target, isTarget, rfl⟩), assigned.config, isFor⟩

variable [Driver δ]

/-- Requests write down nothing but what they ask of devices that they contact. -/
theorem logs_serve (world : World δ) (requests : List RoomRequest) (patience : Option Nat) :
    Logs (fun event => ∃ request ∈ requests, request.Concerns event) world
      (world.serve requests patience).1 := by
  have logs := ((world.engage requests).logs_complete patience).mono fun _ => concerns_engage
  rw [serve_eq]
  split <;> exact logs

end World

end AvControl

import AvControl.Proofs.Engine.Bookkeeping

/-!
# Sessions that are about to begin

A request that passes the checks has one new task for each device that is to be contacted. The
device belongs to the room and its driver is registered, and the books are in order.
-/

namespace AvControl

namespace Operation

variable {δ : Type}

/-- A task that has not begun, for a device of a room. -/
structure Assigned (registry : Registry δ) (room : RoomConfig) (target : DeviceId × Work)
    (task : Task) : Prop where
  device : task.device = target.1
  work : task.work = target.2
  config : room.devices.get? target.1 = some task.config
  registered : (registry.get task.config.driver).isSome = true
  fresh : task.phase = .opening .fresh

theorem assigned_task {registry : Registry δ} {room : RoomConfig} {target : DeviceId × Work}
    {made : Task} (isTask : task registry room target = .ok made) :
    Assigned registry room target made := by
  simp only [task] at isTask
  split at isTask
  · simp at isTask
  · rename_i config isConfig
    split at isTask
    · simp at isTask
    · rename_i cached found
      obtain rfl := Except.ok.inj isTask
      exact ⟨rfl, rfl, isConfig, by simp [found], rfl⟩

theorem targets_distinct (operation : Operation) (room : RoomConfig) :
    ((operation.targets room).map Prod.fst).Nodup := by
  have everyDevice : ∀ work, ((everywhere room work).map Prod.fst).Nodup := by
    intro work
    simpa [everywhere, Function.comp_def] using room.devices.nodup_keys
  cases operation with
  | get | health | info => exact everyDevice _
  | set request =>
      simp only [targets, List.map_map, Function.comp_def]
      exact (request.devices.filter fun _ desired => !desired.isEmpty).nodup_keys

/-- A device is contacted when something is wanted of it. -/
theorem mem_targets_set {request : StateRequest} {room : RoomConfig} {device : DeviceId}
    {desired : DeviceState} (targeted : request.devices.get? device = some desired)
    (notEmpty : desired.isEmpty = false) :
    (device, Work.apply desired) ∈ (set request).targets room := by
  refine List.mem_map.2 ⟨(device, desired), List.mem_filter.2 ⟨?_, by simp [notEmpty]⟩, rfl⟩
  exact SortedMap.mem_entries_iff.2 targeted

/-- A request to set states has devices apply what is wanted of them. -/
theorem exists_apply {change : StateRequest} {room : RoomConfig} {target : DeviceId × Work}
    (isTarget : target ∈ (set change).targets room) :
    ∃ desired, change.devices.get? target.1 = some desired ∧ target.2 = .apply desired := by
  rcases List.mem_map.1 isTarget with ⟨entry, member, rfl⟩
  exact ⟨entry.2, SortedMap.mem_entries_iff.1 (List.mem_filter.1 member).1, rfl⟩

theorem not_apply {operation : Operation} {room : RoomConfig} {target : DeviceId × Work}
    (reads : ∀ change, operation ≠ set change) (isTarget : target ∈ operation.targets room)
    (desired : DeviceState) : target.2 ≠ .apply desired := by
  cases operation with
  | set change => exact absurd rfl (reads change)
  | get | health | info =>
      rcases List.mem_map.1 isTarget with ⟨_, -, rfl⟩
      simp

/-- A request that passes the checks has a live context, and one task for each target in a room. -/
theorem prepare_ok {operation : Operation} {world : World δ} {context : RequestContext}
    {room : RoomConfig} {tasks : List Task}
    (passes : operation.prepare world context room = .ok tasks) :
    world.interruption? context = none ∧ room.devices.isEmpty = false ∧
      List.Forall₂ (Assigned world.registry room) (operation.targets room) tasks := by
  simp only [prepare] at passes
  split at passes
  · simp at passes
  · rename_i live
    split at passes
    · simp at passes
    · rename_i notEmpty
      split at passes
      · simp at passes
      · exact ⟨live, Bool.not_eq_true _ ▸ notEmpty,
          (forall₂_of_mapM passes).imp fun _ _ => assigned_task⟩

/-- The checks look at nothing but the context and which drivers are registered. -/
theorem prepare_congr {ε : Type} {world : World δ} {other : World ε}
    {context context' : RequestContext} (operation : Operation) (room : RoomConfig)
    (live : world.interruption? context = other.interruption? context')
    (registered : ∀ name,
      (world.registry.get name).isSome = (other.registry.get name).isSome) :
    operation.prepare world context room = operation.prepare other context' room := by
  have sameTask : task world.registry room = task other.registry room := by
    funext target
    simp only [task]
    cases room.devices.get? target.1 with
    | none => rfl
    | some config =>
        have same := registered config.driver
        dsimp only
        generalize world.registry.get config.driver = found at same
        generalize other.registry.get config.driver = found' at same
        cases found <;> cases found' <;> first | rfl | cases same
  simp only [prepare]
  rw [sameTask, live]

/-- The states of a room can be read when it has devices and all their drivers are registered. -/
theorem exists_prepare_get {world : World δ} {context : RequestContext} {room : RoomConfig}
    (live : world.interruption? context = none) (notEmpty : room.devices.isEmpty = false)
    (registered : ∀ device config, room.devices.get? device = some config →
      (world.registry.get config.driver).isSome = true) :
    ∃ tasks, get.prepare world context room = .ok tasks := by
  simp only [prepare, live, notEmpty, stranger?, Bool.false_eq_true, if_false]
  refine exists_mapM fun target isTarget => ?_
  rcases List.mem_map.1 isTarget with ⟨device, isDevice, rfl⟩
  rcases List.mem_map.1 isDevice with ⟨⟨_, config⟩, member, rfl⟩
  have isConfig := SortedMap.mem_entries_iff.1 member
  rcases Option.isSome_iff_exists.1 (registered _ config isConfig) with ⟨cached, found⟩
  exact ⟨_, by simp only [task, isConfig, found]; rfl⟩

end Operation

namespace World

variable {δ : Type}

/-- A session that is about to begin the work of a request. -/
structure Ready (world : World δ) (request : RoomRequest) (session : Session) : Prop where
  operation : session.operation = request.operation
  context : session.context = request.context
  cancelAt : session.cancelAt = request.cancelAt
  live : world.interruption? request.context = none
  notEmpty : request.room.devices.isEmpty = false
  tasks : List.Forall₂ (Operation.Assigned world.registry request.room)
    (request.operation.targets request.room) session.tasks
  empty : session.arrived = []
  unfinished : session.finished = false

theorem ready_of_prepare {world : World δ} {request : RoomRequest} {session : Session}
    (prepared : world.prepare request = .ok session) : world.Ready request session := by
  simp only [prepare] at prepared
  cases passes : request.operation.prepare world request.context request.room with
  | error error => simp [passes, Except.map] at prepared
  | ok tasks =>
      simp only [passes, Except.map, Except.ok.injEq] at prepared
      subst prepared
      rcases Operation.prepare_ok passes with ⟨live, notEmpty, assigned⟩
      exact ⟨rfl, rfl, rfl, live, notEmpty, assigned, rfl, rfl⟩

namespace Ready

variable {world : World δ} {request : RoomRequest} {session : Session}

theorem devices (ready : world.Ready request session) :
    session.tasks.map Task.device = (request.operation.targets request.room).map Prod.fst :=
  map_eq_of_forall₂ (ready.tasks.imp fun _ _ assigned => assigned.device)

theorem assigned (ready : world.Ready request session) {task : Task}
    (member : task ∈ session.tasks) : ∃ target ∈ request.operation.targets request.room,
      Operation.Assigned world.registry request.room target task :=
  mem_right_of_forall₂ ready.tasks member

theorem task (ready : world.Ready request session) {target : DeviceId × Work}
    (member : target ∈ request.operation.targets request.room) : ∃ task ∈ session.tasks,
      Operation.Assigned world.registry request.room target task :=
  mem_left_of_forall₂ ready.tasks member

/-- Every task is for a target of the request. -/
theorem targets (ready : world.Ready request session) {task : Task}
    (member : task ∈ session.tasks) :
    (task.device, task.work) ∈ session.operation.targets request.room := by
  rcases ready.assigned member with ⟨target, isTarget, assigned⟩
  rw [ready.operation, assigned.device, assigned.work]
  exact isTarget

theorem fresh (ready : world.Ready request session) {task : Task} (member : task ∈ session.tasks) :
    task.phase = .opening .fresh := by
  rcases ready.assigned member with ⟨_, _, assigned⟩
  exact assigned.fresh

theorem kept (ready : world.Ready request session) {busy : Task → Prop}
    {brings : Task → Outcome → Prop} (isBusy : ∀ task ∈ session.tasks, busy task) :
    session.Kept busy brings := by
  refine Session.kept_start ?_ isBusy (fun task => ready.fresh) ready.empty ready.unfinished
  rw [ready.devices]
  exact request.operation.targets_distinct request.room

variable [Driver δ]

/-- The answer to a request holds for every device what one outcome says that its task brings. -/
theorem outcome (ready : world.Ready request session) {busy : Task → Prop}
    {brings : Task → Outcome → Prop} (conduct : Task.Conduct δ busy brings)
    (isBusy : ∀ task ∈ session.tasks, busy task)
    (own : ∀ {task outcome}, brings task outcome → ∀ report ∈ outcome.reports,
      report.device = task.device)
    {session' : Session} (reaches : session.Reaches δ session')
    (finished : session'.finished = true) {answer : Answer} (isAnswer : answer = session'.answer)
    {task : Task} (member : task ∈ session.tasks) :
    ∃ outcome, brings task outcome ∧ answer.Tells task.device outcome := by
  subst isAnswer
  have kept := (ready.kept isBusy : session.Kept busy brings).reaches conduct reaches
  rcases reaches.continues.mem member with ⟨phase, stillThere⟩
  rcases kept.outcome finished stillThere with ⟨outcome, collected, brought⟩
  have brings := conduct.enter task.phase brought
  exact ⟨outcome, brings, kept.tells own collected⟩

end Ready

theorem prepare_congr {ε : Type} {world : World δ} {other : World ε} (request : RoomRequest)
    (live : world.interruption? request.context = other.interruption? request.context)
    (registered : ∀ name,
      (world.registry.get name).isSome = (other.registry.get name).isSome) :
    world.prepare request = other.prepare request := by
  rw [prepare, Operation.prepare_congr request.operation request.room live registered]
  rfl

/-- A request is checked like another one that asks the same of the same room. -/
theorem prepare_again {ε : Type} {world : World δ} {other : World ε} {request again : RoomRequest}
    (operation : again.operation = request.operation) (room : again.room = request.room)
    (live : world.interruption? request.context = other.interruption? again.context)
    (registered : ∀ name,
      (world.registry.get name).isSome = (other.registry.get name).isSome) :
    other.prepare again = (world.prepare request).map fun session =>
      { session with context := again.context, cancelAt := again.cancelAt } := by
  rw [prepare, prepare, operation, room,
    Operation.prepare_congr request.operation request.room live registered]
  cases request.operation.prepare other again.context request.room <;> rfl

theorem mem_engage {world : World δ} {requests : List RoomRequest} {session : Session}
    (member : session ∈ (world.engage requests).sessions) :
    ∃ request ∈ requests, world.Ready request session := by
  rcases List.mem_filterMap.1 member with ⟨prepared, isPrepared, isSession⟩
  rcases List.mem_map.1 isPrepared with ⟨request, isRequest, rfl⟩
  cases prepared : world.prepare request with
  | error error => simp [prepared, Except.toOption] at isSession
  | ok session' =>
      simp only [prepared, Except.toOption, Option.some.injEq] at isSession
      exact ⟨request, isRequest, isSession ▸ ready_of_prepare prepared⟩

theorem exists_of_isSome {ε α : Type} {result : Except ε α}
    (isOk : result.toOption.isSome = true) : ∃ value, result = .ok value := by
  cases result with
  | error => cases isOk
  | ok value => exact ⟨value, rfl⟩

theorem exists_of_answered {α β ε : Type} {result : α × Option (Except ε β)}
    (isOk : (result.2.bind Except.toOption).isSome = true) :
    ∃ value, result = (result.1, some (.ok value)) := by
  rcases result with ⟨world, _ | _ | value⟩
  · cases isOk
  · cases isOk
  · exact ⟨value, rfl⟩

/-- A room with one device, to try things out. -/
def lab : RoomConfig where
  id := ⟨"LAB-1"⟩
  devices := SortedMap.empty.insert ⟨"D1"⟩ { address := "lab", driver := "display" }

theorem eq_of_lab {device : DeviceId} {config : DeviceConfig}
    (isDevice : lab.devices.get? device = some config) :
    device = ⟨"D1"⟩ ∧ config = { address := "lab", driver := "display" } := by
  simp only [lab, SortedMap.get?_insert] at isDevice
  split at isDevice
  · exact ⟨‹_›, (Option.some.inj isDevice).symm⟩
  · cases isDevice

/-- The lab with a second device, at an address of its own. -/
def annexedLab : RoomConfig :=
  { lab with
    devices := lab.devices.insert ⟨"D2"⟩ { address := "annex", driver := "display" } }

/-- The world in which one driver speaks to the devices of these rooms. -/
def labWorld (driver : δ) : World δ where
  registry := ({} : Registry δ).set "display" { driver := driver }

end World

end AvControl

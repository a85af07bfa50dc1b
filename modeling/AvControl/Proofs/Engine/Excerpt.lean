import AvControl.Proofs.Engine.Preparation

/-!
# What concerns one device

A room, a request and an answer can be cut down to one device. What is asked of the room that is cut
down is the work on this device, and an answer that says of the device what an outcome says holds
just that when it is cut down.
-/

namespace AvControl

/-- The room with one of its devices. -/
def RoomConfig.only (room : RoomConfig) (device : DeviceId) : RoomConfig :=
  { room with devices := room.devices.filter fun other _ => other = device }

def StateRequest.only (request : StateRequest) (device : DeviceId) : StateRequest where
  devices := request.devices.filter fun other _ => other = device

def Operation.only (operation : Operation) (device : DeviceId) : Operation :=
  match operation with
  | set request => set (request.only device)
  | get => get
  | health => health
  | info => info

/-- The same request for the room with one of its devices. -/
def RoomRequest.only (request : RoomRequest) (device : DeviceId) : RoomRequest :=
  { request with
    operation := request.operation.only device
    room := request.room.only device }

/-- What a response says of a device, and nothing else. -/
def RoomResponse.only {α : Type} (response : RoomResponse α) (device : DeviceId) :
    RoomResponse α where
  devices := response.devices.filter fun other _ => other = device
  errors := response.errors.filter fun report => report.device = device

/-- What an answer says of a device, as an answer to the same request for this device. -/
def Answer.only (answer : Answer) (device : DeviceId) : Answer :=
  match answer with
  | ⟨.set request, response⟩ => ⟨.set (request.only device), response.only device⟩
  | ⟨.get, response⟩ => ⟨.get, response.only device⟩
  | ⟨.health, response⟩ => ⟨.health, response.only device⟩
  | ⟨.info, response⟩ => ⟨.info, response.only device⟩

/-! ### Requests -/

namespace Operation

theorem everywhere_only (room : RoomConfig) (device : DeviceId) (work : Work) :
    everywhere (room.only device) work =
      (everywhere room work).filter fun target => target.1 = device := by
  simp only [everywhere, RoomConfig.only, SortedMap.filter, SortedMap.keys, List.filter_map,
    List.map_map]
  rfl

/-- The target of a request that is cut down is the target of the request that it is cut out of. -/
theorem targets_only (operation : Operation) (room : RoomConfig) {device : DeviceId} {work : Work}
    (isTarget : (device, work) ∈ operation.targets room) :
    (operation.only device).targets (room.only device) = [(device, work)] := by
  have cutDown : (operation.only device).targets (room.only device) =
      (operation.targets room).filter fun target => target.1 = device := by
    cases operation with
    | get | health | info => exact everywhere_only room device _
    | set request =>
        simp only [only, targets, StateRequest.only, SortedMap.filter, List.filter_map,
          List.filter_filter]
        congr 1
        exact List.filter_congr fun entry _ => Bool.and_comm _ _
  rw [cutDown]
  exact filter_eq_singleton Prod.fst (operation.targets_distinct room) isTarget

theorem stranger_only (operation : Operation) {room : RoomConfig} {device : DeviceId}
    {config : DeviceConfig} (isConfig : room.devices.get? device = some config) :
    (operation.only device).stranger? (room.only device) = none := by
  cases operation with
  | get | health | info => rfl
  | set request =>
      refine List.find?_eq_none.2 fun other isOther => ?_
      rcases List.mem_map.1 isOther with ⟨entry, isEntry, rfl⟩
      obtain rfl : entry.1 = device := of_decide_eq_true (List.mem_filter.1 isEntry).2
      simp [RoomConfig.only, SortedMap.contains, isConfig]

end Operation

namespace World

variable {δ : Type} {world : World δ} {request : RoomRequest} {session : Session} {task : Task}
  {device : DeviceId}

/-- A request that passes the checks passes them when it is cut down to one of its targets. -/
theorem Ready.prepare_only (ready : world.Ready request session) (isTask : task ∈ session.tasks) :
    world.prepare (request.only task.device) = .ok {
      operation := request.operation.only task.device
      context := request.context
      cancelAt := request.cancelAt
      tasks := [task] } := by
  rcases ready.assigned isTask with ⟨⟨device, work⟩, isTarget, assigned⟩
  obtain rfl : task.device = device := assigned.device
  rcases Option.isSome_iff_exists.1 assigned.registered with ⟨cached, found⟩
  have isConfig : (request.room.only task.device).devices.get? task.device = some task.config := by
    simp [RoomConfig.only, assigned.config]
  have notEmpty : (request.room.only task.device).devices.isEmpty = false :=
    SortedMap.isEmpty_eq_false_iff.2 ⟨task.device, task.config, isConfig⟩
  have made : Operation.task world.registry (request.room.only task.device) (task.device, work) =
      .ok task := by
    simp only [Operation.task, isConfig, found]
    rcases task with ⟨device, config, work', phase⟩
    obtain rfl : work' = work := assigned.work
    obtain rfl : phase = .opening .fresh := assigned.fresh
    rfl
  have passes : (request.operation.only task.device).prepare world request.context
      (request.room.only task.device) = .ok [task] := by
    simp only [Operation.prepare, ready.live, notEmpty,
      Operation.stranger_only request.operation assigned.config,
      request.operation.targets_only request.room isTarget, List.mapM_cons, List.mapM_nil, made]
    rfl
  simp only [prepare, RoomRequest.only, passes]
  rfl

end World

/-! ### Answers -/

/-- The response that holds what is known of one device. -/
def RoomResponse.single {α : Type} (device : DeviceId) (data : Option α)
    (reports : List FieldReport) : RoomResponse α where
  devices := match data with
    | some data => SortedMap.empty.insert device data
    | none => SortedMap.empty
  errors := reports

/-- A response that is cut down holds what it says of the device. -/
theorem RoomResponse.only_eq {α : Type} {response : RoomResponse α} {device : DeviceId}
    {data : Option α} {reports : List FieldReport}
    (tells : response.about device = (data, reports)) :
    response.only device = single device data reports := by
  obtain ⟨rfl, rfl⟩ := Prod.mk.inj tells
  have sameDevices : (response.devices.filter fun other _ => other = device) =
      (single device (response.devices.get? device) (response.errors.filter fun report =>
        report.device = device)).devices := by
    apply SortedMap.ext_get?
    intro other
    rw [SortedMap.get?_filter]
    by_cases same : other = device
    · subst same
      cases found : response.devices.get? other <;> simp [single]
    · rw [show (single device (response.devices.get? device) _).devices.get? other = none from ?_]
      · simp [same]
      · cases response.devices.get? device <;> simp [single, same]
  simp only [only, sameDevices]
  rfl

/-- An answer that says of a device what an outcome says holds just that when it is cut down. -/
theorem Answer.only_eq {answer : Answer} {device : DeviceId} {outcome : Outcome}
    (tells : answer.Tells device outcome) :
    answer.only device = {
      operation := answer.operation.only device
      response := .single device ((answer.operation.only device).summarize outcome.findings)
        (outcome.reports.mergeSort fun a b => (a.compare b).isLE) } := by
  rcases answer with ⟨operation, response⟩
  have cutDown := RoomResponse.only_eq tells
  cases operation <;> exact congrArg (Answer.mk _) cutDown

/-- A session that has collected one outcome answers with this outcome. -/
theorem Session.answer_single {session : Session} {device : DeviceId} {outcome : Outcome}
    (collected : session.collected = [(device, outcome)]) :
    session.answer = {
      operation := session.operation
      response := .single device (session.operation.summarize outcome.findings)
        (outcome.reports.mergeSort fun a b => (a.compare b).isLE) } := by
  simp only [answer, collected, RoomResponse.sortErrors, RoomResponse.single, List.flatMap_cons,
    List.flatMap_nil, List.append_nil, List.filterMap_cons, List.filterMap_nil]
  cases session.operation.summarize outcome.findings <;> rfl

end AvControl

import AvControl.Proofs.Engine.Unhurried

/-!
# Requests that are refused

A request is refused for the first of four reasons that there is: its context has ended, its room
has no devices, it names a device that is not in the room, or a device that it would contact has a
driver that nobody has registered. Of several devices the one with the least id is to blame. Here
the reasons are put in terms of look-ups and not of checks, and they are shown to be what requests
are refused for. A refusal is all that comes of a refused request: for the world it might as well
not have been made, and a request that has come as far as to contact a device is not refused.
-/

namespace AvControl

/-! ### The first key with a property -/

/-- A key has a property, and no key before it does. -/
structure First {κ : Type} [OrderedKey κ] (property : κ → Prop) (key : κ) : Prop where
  has : property key
  least : ∀ other, property other → ¬other < key

section First

variable {κ : Type} [OrderedKey κ] {property : κ → Prop} {keys : List κ}

/-- Among keys in order, the first one with a property has only keys without it in front. -/
theorem first_iff (sorted : keys.Pairwise (· < ·)) {key : κ} :
    First (fun key => key ∈ keys ∧ property key) key ↔
      ∃ front back, keys = front ++ key :: back ∧ property key ∧
        ∀ other ∈ front, ¬property other := by
  constructor
  · rintro ⟨⟨member, has⟩, least⟩
    rcases List.append_of_mem member with ⟨front, back, rfl⟩
    refine ⟨front, back, rfl, has, fun other inFront hasToo => ?_⟩
    refine least other ⟨List.mem_append_left _ inFront, hasToo⟩ ?_
    exact (List.pairwise_append.1 sorted).2.2 other inFront key List.mem_cons_self
  · rintro ⟨front, back, rfl, has, noneBefore⟩
    refine ⟨⟨by simp, has⟩, ?_⟩
    rintro other ⟨member, hasToo⟩ less
    rcases List.mem_append.1 member with inFront | fromKey
    · exact noneBefore other inFront hasToo
    · rcases List.mem_cons.1 fromKey with rfl | inBack
      · exact OrderedKey.lt_irrefl other less
      · have greater := (List.pairwise_cons.1 (List.pairwise_append.1 sorted).2.1).1 other inBack
        exact OrderedKey.lt_irrefl key (OrderedKey.lt_trans greater less)

end First

theorem SortedMap.pairwise_keys {κ α : Type} [OrderedKey κ] (map : SortedMap κ α) :
    map.keys.Pairwise (· < ·) := List.pairwise_map.2 map.sorted

theorem SortedMap.mem_keys_iff {κ α : Type} [OrderedKey κ] [DecidableEq κ] {map : SortedMap κ α}
    {key : κ} : key ∈ map.keys ↔ ∃ value, map.get? key = some value := by
  simp [keys, ← mem_entries_iff]

/-! ### What is wrong with a request -/

namespace Operation

/-- A device is named in a request, whether anything is wanted of it or not. -/
def Names (operation : Operation) (device : DeviceId) : Prop :=
  match operation with
  | set request => ∃ desired, request.devices.get? device = some desired
  | _ => False

/-- A device is to be contacted: one that something is wanted of, or any if the room is read. -/
def Contacts (operation : Operation) (room : RoomConfig) (device : DeviceId) : Prop :=
  match operation with
  | set request =>
    ∃ desired, request.devices.get? device = some desired ∧ desired.isEmpty = false
  | _ => ∃ config, room.devices.get? device = some config

variable {operation : Operation} {room : RoomConfig}

theorem mem_targets_iff {device : DeviceId} :
    device ∈ (operation.targets room).map Prod.fst ↔ operation.Contacts room device := by
  cases operation with
  | get | health | info =>
      simp [targets, everywhere, Contacts, Function.comp_def, SortedMap.mem_keys_iff]
  | set request =>
      simp only [targets, Contacts, List.map_map, Function.comp_def]
      change device ∈ (request.devices.filter _).keys ↔ _
      simp only [SortedMap.mem_keys_iff, SortedMap.get?_filter, Option.filter_eq_some_iff,
        Bool.not_eq_true']

theorem pairwise_targets : ((operation.targets room).map Prod.fst).Pairwise (· < ·) := by
  cases operation with
  | get | health | info =>
      simpa [targets, everywhere, Function.comp_def] using room.devices.pairwise_keys
  | set request =>
      simp only [targets, List.map_map, Function.comp_def]
      exact (request.devices.filter fun _ desired => !desired.isEmpty).pairwise_keys

/-- The first stranger is the least device that is named but is not in the room. -/
theorem stranger?_eq_some_iff {device : DeviceId} :
    operation.stranger? room = some device ↔
      First (fun device => operation.Names device ∧ room.devices.get? device = none) device := by
  cases operation with
  | get | health | info =>
      simp only [stranger?, reduceCtorEq, false_iff]
      exact fun first => first.has.1
  | set request =>
      have inKeys : ∀ device, (set request).Names device ↔ device ∈ request.devices.keys :=
        fun device => SortedMap.mem_keys_iff.symm
      simp only [inKeys]
      rw [first_iff request.devices.pairwise_keys, stranger?, List.find?_eq_some_iff_append]
      simp only [SortedMap.contains, Bool.not_eq_true', Option.isSome_eq_false_iff,
        Option.isNone_iff_eq_none, Bool.not_not, Option.isSome_iff_ne_none, ne_eq]
      constructor
      · rintro ⟨foreign, front, back, same, others⟩
        exact ⟨front, back, same, foreign, others⟩
      · rintro ⟨front, back, same, foreign, others⟩
        exact ⟨foreign, front, back, same, others⟩

theorem stranger?_eq_none_iff : operation.stranger? room = none ↔
    ∀ device, operation.Names device → ∃ config, room.devices.get? device = some config := by
  cases operation with
  | get | health | info => simp [stranger?, Names]
  | set request =>
      simp [stranger?, Names, SortedMap.mem_keys_iff, SortedMap.contains,
        ← Option.isSome_iff_exists, Option.isSome_iff_ne_none]

end Operation

namespace World

variable {δ : Type}

/-- How a context has ended: by cancellation, or because its time is up. -/
def Ended (world : World δ) (context : RequestContext) : Interruption → Prop
  | .canceled => world.tokens.isCancelled context.token = true
  | .deadlineExceeded => world.tokens.isCancelled context.token = false ∧
    ∃ deadline, context.deadline = some deadline ∧ deadline ≤ world.clock

theorem interruption?_eq_some_iff {world : World δ} {context : RequestContext}
    {interruption : Interruption} :
    world.interruption? context = some interruption ↔ world.Ended context interruption := by
  simp only [World.interruption?, RequestContext.interruption?]
  cases cancelled : world.tokens.isCancelled context.token with
  | true => cases interruption <;> simp [Ended, cancelled]
  | false =>
      cases isDeadline : context.deadline with
      | none => cases interruption <;> simp [Ended, cancelled, isDeadline]
      | some deadline => cases interruption <;> simp [Ended, cancelled, isDeadline]

/-- A device has a driver that nobody has registered. -/
def Unserved (world : World δ) (room : RoomConfig) (device : DeviceId) : Prop :=
  ∃ config, room.devices.get? device = some config ∧ world.registry.get config.driver = none

/-- Why a request is refused. Every reason counts only where there is none before it. -/
inductive Refuses (world : World δ) (request : RoomRequest) : RequestError → Prop
  | ended {interruption : Interruption} (ended : world.Ended request.context interruption) :
      Refuses world request (.cancelled interruption)
  | empty (live : ∀ interruption, ¬world.Ended request.context interruption)
      (noDevice : ∀ device, request.room.devices.get? device = none) :
      Refuses world request (.emptyRoom request.room.id)
  | foreign {device : DeviceId}
      (live : ∀ interruption, ¬world.Ended request.context interruption)
      (notEmpty : ∃ device config, request.room.devices.get? device = some config)
      (first : First (fun device => request.operation.Names device ∧
        request.room.devices.get? device = none) device) :
      Refuses world request (.invalidDevice device)
  | unserved {device : DeviceId} {config : DeviceConfig}
      (live : ∀ interruption, ¬world.Ended request.context interruption)
      (notEmpty : ∃ device config, request.room.devices.get? device = some config)
      (familiar : ∀ device, request.operation.Names device →
        ∃ config, request.room.devices.get? device = some config)
      (first : First (fun device => request.operation.Contacts request.room device ∧
        world.Unserved request.room device) device)
      (isConfig : request.room.devices.get? device = some config) :
      Refuses world request (.unknownDriver device config.driver)

end World

namespace Operation

variable {δ : Type} {operation : Operation} {world : World δ} {room : RoomConfig}

theorem exists_target_config (familiar : ∀ device, operation.Names device →
      ∃ config, room.devices.get? device = some config) {target : DeviceId × Work}
    (isTarget : target ∈ operation.targets room) :
    ∃ config, room.devices.get? target.1 = some config := by
  have contacts := mem_targets_iff.1 (List.mem_map.2 ⟨target, isTarget, rfl⟩)
  cases operation with
  | get | health | info => exact contacts
  | set request =>
      rcases contacts with ⟨desired, named, -⟩
      exact familiar target.1 ⟨desired, named⟩

/-- In a room that has all devices that are named, only a driver can be missing. -/
theorem task_of_config (world : World δ) {target : DeviceId × Work} {config : DeviceConfig}
    (isConfig : room.devices.get? target.1 = some config) :
    (world.Unserved room target.1 ∧
        task world.registry room target = .error (.unknownDriver target.1 config.driver)) ∨
      (¬world.Unserved room target.1 ∧ ∃ made, task world.registry room target = .ok made) := by
  simp only [World.Unserved, task, isConfig, Option.some.injEq, exists_eq_left']
  cases world.registry.get config.driver <;> simp

/-- The tasks of a request cannot be made exactly when a device to be contacted has no driver. -/
theorem mapM_task_eq_error_iff {error : RequestError} (familiar : ∀ device,
      operation.Names device → ∃ config, room.devices.get? device = some config) :
    (operation.targets room).mapM (task world.registry room) = .error error ↔
      ∃ device config, First (fun device => operation.Contacts room device ∧
        world.Unserved room device) device ∧ room.devices.get? device = some config ∧
          error = .unknownDriver device config.driver := by
  simp only [← mem_targets_iff, first_iff pairwise_targets, mapM_eq_error_iff]
  constructor
  · rintro ⟨front, target, back, isTargets, made, failed⟩
    have inTargets : ∀ other, other ∈ front ∨ other = target → other ∈ operation.targets room := by
      rw [isTargets]
      rintro other (inFront | rfl) <;> simp [*]
    rcases exists_target_config familiar (inTargets target (Or.inr rfl)) with ⟨config, isConfig⟩
    rcases task_of_config world isConfig with ⟨unserved, isError⟩ | ⟨-, _, isOk⟩
    · refine ⟨target.1, config, ⟨front.map Prod.fst, back.map Prod.fst, by simp [isTargets],
        unserved, fun device inFront => ?_⟩, isConfig, Except.error.inj (failed.symm.trans isError)⟩
      rcases List.mem_map.1 inFront with ⟨other, isOther, rfl⟩
      rcases exists_target_config familiar (inTargets other (Or.inl isOther)) with ⟨_, isConfig'⟩
      rcases task_of_config world isConfig' with ⟨-, isError'⟩ | ⟨served, -⟩
      · rcases made other isOther with ⟨_, isOk⟩
        cases isError'.symm.trans isOk
      · exact served
    · cases failed.symm.trans isOk
  · rintro ⟨device, config, ⟨front, back, isTargets, unserved, served⟩, isConfig, rfl⟩
    rcases List.map_eq_append_iff.1 isTargets with ⟨front', rest, isWhole, rfl, isRest⟩
    rcases List.map_eq_cons_iff.1 isRest with ⟨target, back', rfl, rfl, rfl⟩
    refine ⟨front', target, back', isWhole, fun other inFront => ?_, ?_⟩
    · have isTarget : other ∈ operation.targets room := by simp [isWhole, inFront]
      rcases exists_target_config familiar isTarget with ⟨_, isConfig'⟩
      rcases task_of_config world isConfig' with ⟨unserved', -⟩ | ⟨-, isOk⟩
      · exact absurd unserved' (served other.1 (List.mem_map.2 ⟨other, inFront, rfl⟩))
      · exact isOk
    · rcases task_of_config world isConfig with ⟨-, isError⟩ | ⟨served', -⟩
      · exact isError
      · exact absurd unserved served'

end Operation

namespace World

variable {δ : Type} {world : World δ} {request : RoomRequest} {error : RequestError}

theorem interruption?_eq_none_iff {context : RequestContext} :
    world.interruption? context = none ↔
      ∀ interruption, ¬world.Ended context interruption := by
  simp only [← interruption?_eq_some_iff, Option.eq_none_iff_forall_ne_some, ne_eq]

theorem prepare_eq_error_of_operation : world.prepare request = .error error ↔
    request.operation.prepare world request.context request.room = .error error := by
  simp only [prepare]
  cases request.operation.prepare world request.context request.room <;> simp [Except.map]

/-- What the checks refuse a request for is a reason. -/
theorem refuses_of_prepare (refused : world.prepare request = .error error) :
    world.Refuses request error := by
  rw [prepare_eq_error_of_operation, Operation.prepare] at refused
  split at refused
  · rename_i interruption interrupted
    cases refused
    exact .ended (interruption?_eq_some_iff.1 interrupted)
  · rename_i running
    have live := interruption?_eq_none_iff.1 running
    split at refused
    · rename_i isEmpty
      cases refused
      exact .empty live (SortedMap.isEmpty_iff.1 isEmpty)
    · rename_i notEmpty
      have notEmpty := SortedMap.isEmpty_eq_false_iff.1 (Bool.eq_false_iff.2 notEmpty)
      split at refused
      · rename_i device stranger
        cases refused
        exact .foreign live notEmpty (Operation.stranger?_eq_some_iff.1 stranger)
      · rename_i noStranger
        have familiar := Operation.stranger?_eq_none_iff.1 noStranger
        rcases (Operation.mapM_task_eq_error_iff familiar).1 refused with
          ⟨device, config, first, isConfig, rfl⟩
        exact .unserved live notEmpty familiar first isConfig

/-- The checks refuse a request for the first reason that there is, and for no other. -/
theorem prepare_eq_error_iff :
    world.prepare request = .error error ↔ world.Refuses request error := by
  refine ⟨refuses_of_prepare, fun refuses => ?_⟩
  rw [prepare_eq_error_of_operation, Operation.prepare]
  cases refuses with
  | ended ended => rw [interruption?_eq_some_iff.2 ended]
  | empty live noDevice =>
      simp only [interruption?_eq_none_iff.2 live, SortedMap.isEmpty_iff.2 noDevice, if_true]
  | foreign live notEmpty first =>
      simp only [interruption?_eq_none_iff.2 live, SortedMap.isEmpty_eq_false_iff.2 notEmpty,
        Operation.stranger?_eq_some_iff.2 first, Bool.false_eq_true, if_false]
  | unserved live notEmpty familiar first isConfig =>
      simp only [interruption?_eq_none_iff.2 live, SortedMap.isEmpty_eq_false_iff.2 notEmpty,
        Operation.stranger?_eq_none_iff.2 familiar, Bool.false_eq_true, if_false]
      exact (Operation.mapM_task_eq_error_iff familiar).2 ⟨_, _, first, isConfig, rfl⟩

/-! ### What comes of a refused request -/

variable [Driver δ] {front back : List RoomRequest} {patience : Option Nat}

/-- For the world a refused request might as well not have been made. -/
theorem world_serve_of_refused (refused : world.prepare request = .error error) :
    (world.serve (front ++ request :: back) patience).1 =
      (world.serve (front ++ back) patience).1 := by
  have same : world.engage (front ++ request :: back) = world.engage (front ++ back) := by
    simp [engage, refused, Except.toOption]
  rw [serve_eq, serve_eq, same]
  cases ((world.engage (front ++ back)).complete patience).finished <;> rfl

/-- A request that passes the checks is not answered with an error. -/
theorem exists_answer_of_prepared {session : Session}
    (prepared : world.prepare request = .ok session) {reply : Except RequestError Answer}
    (replied : (world.serveOne request patience).2 = some reply) :
    ∃ answer, reply = .ok answer := by
  rcases served : world.serve [request] patience with ⟨world', _ | answers⟩
  · simp [serveOne, served] at replied
  · have answered := serve_answers served
    rcases List.forall₂_cons_left_iff.1 answered with ⟨first, rest, answers', -, rfl⟩
    simp only [serveOne, served, Option.bind_some, List.head?_cons, Option.some.injEq] at replied
    subst replied
    rw [prepared] at answers'
    rcases answers' with ⟨session', -, isAnswer⟩
    exact ⟨session'.answer, isAnswer⟩

/-- A request is answered with an error exactly when there is a reason to refuse it. -/
theorem serveOne_eq_error_iff :
    (world.serveOne request patience).2 = some (.error error) ↔ world.Refuses request error := by
  rw [← prepare_eq_error_iff]
  constructor
  · intro answered
    cases prepared : world.prepare request with
    | error error' =>
        rw [serveOne_refused prepared] at answered
        exact congrArg _ (Except.error.inj (Option.some.inj answered))
    | ok session =>
        rcases exists_answer_of_prepared prepared answered with ⟨answer, isAnswer⟩
        cases isAnswer
  · intro refused
    rw [serveOne_refused refused]

/--
A request is answered with an error exactly when there is a reason to refuse it, and the error is
that of the first reason. Then nothing has happened to the world, and whatever other requests are
served with a refused one, the world becomes what it would become without it. A request that has
asked anything of a driver is not answered with an error, whatever happens.
-/
theorem refuses_first (world : World δ) (request : RoomRequest) (patience : Option Nat) :
    (∀ error, (world.serveOne request patience).2 = some (.error error) ↔
      world.Refuses request error) ∧
    (∀ error, world.Refuses request error →
      (world.serveOne request patience).1 = world ∧
      ∀ front back, (world.serve (front ++ request :: back) patience).1 =
        (world.serve (front ++ back) patience).1) ∧
    ((world.serveOne request patience).1.journal ≠ world.journal →
      ∀ reply, (world.serveOne request patience).2 = some reply →
        ∃ answer, reply = .ok answer) := by
  refine ⟨fun _ => serveOne_eq_error_iff, fun error refuses => ?_, fun asked reply replied => ?_⟩
  · have refused := prepare_eq_error_iff.2 refuses
    exact ⟨by rw [serveOne_refused refused], fun _ _ => world_serve_of_refused refused⟩
  · cases prepared : world.prepare request with
    | error error =>
        rw [serveOne_refused prepared] at asked
        exact absurd rfl asked
    | ok session => exact exists_answer_of_prepared prepared replied

end World

end AvControl

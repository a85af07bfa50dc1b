import AvControl.Http.Server
import AvControl.Proofs.Engine.Deadline
import AvControl.Proofs.Engine.Punctuality
import AvControl.Proofs.Engine.Success
import AvControl.Proofs.Http.Body
import AvControl.Proofs.Virtual.Applied

/-!
# Replies about rooms

A request for a room is always answered, since it has a deadline. What the reply says depends on
three things, one after the other: whether the text that names the room is an identifier, whether
there is such a room, and what the engine makes of the request. Nothing but an answer without
reports has the status of a success, and such an answer to a change says that the change was made as
a whole: every setting was written to its device, is echoed, and nothing else is.
-/

namespace AvControl.Http

open Virtual

/-- The request asks for an operation on the room that a text names. -/
inductive Request.Asks (request : Request) : String → Operation → Prop
  | reads {segment : List Char} {resource : RoomResource} {id : String}
      (isGet : request.method = "GET")
      (routed : Route.ofTarget? request.target = some (.room segment resource))
      (decoded : decodeSegment? segment = some id) : Asks request id resource.reading
  | changes {segment : List Char} {id : String} {change : StateRequest}
      (isPut : request.method = "PUT")
      (routed : Route.ofTarget? request.target = some (.room segment .state))
      (decoded : decodeSegment? segment = some id)
      (isChange : readChange request = .ok change) : Asks request id (.set change)

/-- What the engine may refuse a request for, and the status that says so. -/
inductive Fatal : RequestError → Nat → Prop
  | cancelled (interruption : Interruption) : Fatal (.cancelled interruption) 504
  | emptyRoom (room : RoomId) : Fatal (.emptyRoom room) 400
  | invalidDevice (device : DeviceId) : Fatal (.invalidDevice device) 400
  | unknownDriver (device : DeviceId) (driver : String) : Fatal (.unknownDriver device driver) 500

namespace Reply

/-- A reply that only says what is wrong. -/
def failure (status : Nat) (message : String) : Reply :=
  { status, content := some (.json (.object [("error", .string message)])) }

/-- The reply to what the engine makes of a request. -/
def ofResult : Except RequestError Answer → Reply
  | .ok answer => .ofAnswer answer
  | .error error => .ofError error

end Reply

theorem Fatal.ofError {error : RequestError} {status : Nat} (fatal : Fatal error status) :
    Reply.ofError error = .failure status error.message := by
  cases fatal <;> rfl

theorem exists_fatal {δ : Type} {world : World δ} {request : RoomRequest} {error : RequestError}
    (refuses : world.Refuses request error) : ∃ status, Fatal error status := by
  cases refuses with
  | ended => exact ⟨_, .cancelled _⟩
  | empty => exact ⟨_, .emptyRoom _⟩
  | foreign => exact ⟨_, .invalidDevice _⟩
  | unserved => exact ⟨_, .unknownDriver _ _⟩

namespace Server

variable {δ : Type}

/-- There is a room that a text names. -/
def Finds (server : Server δ) (id : String) (room : RoomConfig) : Prop :=
  ∃ roomId, RoomId.parse id = .ok roomId ∧ server.rooms.rooms.get? roomId = some room

/-- The same server with drivers that are recorded from now on. -/
def recorded (server : Server δ) : Server (Recorded δ) where
  world := server.world.recorded
  rooms := server.rooms
  timeout := server.timeout

variable [Driver δ]

/-- What the engine makes of an operation in the time that there is for one request. -/
def engage (server : Server δ) (operation : Operation) (room : RoomConfig) :
    World δ × Option (Except RequestError Answer) :=
  let (world, request) := server.world.ask operation room (some server.timeout)
  world.serveOne request none

/-- What a server has to reply when an operation on the room that a text names is asked for. -/
inductive Replies (server : Server δ) (id : String) (operation : Operation) : Reply → Prop
  | malformed {error : ValidationError} (isMalformed : RoomId.parse id = .error error) :
      Replies server id operation (.failure 400 error.message)
  | unknown {roomId : RoomId} (isId : RoomId.parse id = .ok roomId)
      (isUnknown : server.rooms.rooms.get? roomId = none) :
      Replies server id operation (.failure 404 (RequestError.notFoundMessage "Room" roomId.text))
  | refused {room : RoomConfig} {error : RequestError} {status : Nat}
      (finds : server.Finds id room)
      (isError : (server.engage operation room).2 = some (.error error))
      (fatal : Fatal error status) :
      Replies server id operation (.failure status error.message)
  | complete {room : RoomConfig} {response : RoomResponse operation.Data}
      (finds : server.Finds id room)
      (isAnswer : (server.engage operation room).2 = some (.ok ⟨operation, response⟩))
      (success : response.errors = []) :
      Replies server id operation
        { status := 200, content := some (.json (operation.responseToJson response)) }
  | incomplete {room : RoomConfig} {response : RoomResponse operation.Data}
      (finds : server.Finds id room)
      (isAnswer : (server.engage operation room).2 = some (.ok ⟨operation, response⟩))
      (failure : response.errors ≠ []) :
      Replies server id operation
        { status := 500, content := some (.json (operation.responseToJson response)) }

/-- A setting was written to the device that it is wanted of while the request was served. -/
def Applies (server : Server δ) (request : Request) (id : String) (device : DeviceId)
    (field : Field) (setting : Setting) : Prop :=
  ∃ room config, server.Finds id room ∧ room.devices.get? device = some config ∧
    setting ∈ (server.recorded.serve request none).1.world.writes config.driver config.address field

/-- A setting is in what the engine answers about a device. -/
def Confirms (server : Server δ) (change : StateRequest) (id : String) (device : DeviceId)
    (field : Field) (setting : Setting) : Prop :=
  ∃ room response state, server.Finds id room ∧
    (server.engage (.set change) room).2 = some (.ok ⟨.set change, response⟩) ∧
    response.devices.get? device = some state ∧ state.setting? field = some setting

variable {server : Server δ} {request : Request} {id : String} {operation : Operation}

/-- Whatever leads to a room, the operation that is asked for is what is done. -/
theorem serve_of_asks (asks : request.Asks id operation) (patience : Option Nat) :
    server.serve request patience = server.operate id operation patience := by
  cases asks with
  | reads isGet routed decoded => simp [serve, isGet, routed, read, decoded]
  | changes isPut routed decoded isChange => simp [serve, isPut, routed, change, decoded, isChange]

/-- The engine keeps no request waiting for ever that comes over HTTP. -/
theorem exists_engage (server : Server δ) (operation : Operation) (room : RoomConfig) :
    ∃ result, (server.engage operation room).2 = some result := by
  have bounded : (server.world.ask operation room (some server.timeout)).2.context.deadline =
      some (server.world.clock + server.timeout) := rfl
  exact World.serveOne_of_deadline bounded

omit [Driver δ] in
theorem findRoom_of_finds {room : RoomConfig} (finds : server.Finds id room) :
    server.findRoom id = .ok room := by
  rcases finds with ⟨roomId, isId, isRoom⟩
  simp [findRoom, isId, RoomStore.find, isRoom]

/-- What the engine makes of a request for a room is what is replied. -/
theorem operate_of_finds {room : RoomConfig} {result : Except RequestError Answer}
    (inTime : server.world.clock + server.timeout ≤ lastTime) (finds : server.Finds id room)
    (engaged : (server.engage operation room).2 = some result) :
    server.operate id operation none =
      ({ server with world := (server.engage operation room).1 }, .reply (.ofResult result)) := by
  have engages : server.world.ask operation room (some server.timeout) =
      ((server.world.createContext (some server.timeout)).1,
        { operation, room, context := (server.world.createContext (some server.timeout)).2 }) := rfl
  simp only [engage, engages] at engaged ⊢
  simp only [operate, findRoom_of_finds finds, createContext?, if_pos inTime, engaged]
  cases result <;> rfl

/-- A server has one of these replies, as long as its clock can tell when the time is over. -/
theorem exists_replies (inTime : server.world.clock + server.timeout ≤ lastTime) (id : String)
    (operation : Operation) : ∃ reply, (server.operate id operation none).2 = .reply reply ∧
      server.Replies id operation reply := by
  cases isId : RoomId.parse id with
  | error error =>
      refine ⟨.failure 400 error.message, ?_, .malformed isId⟩
      simp only [operate, findRoom, isId]
      rfl
  | ok roomId =>
      cases isRoom : server.rooms.rooms.get? roomId with
      | none =>
          refine ⟨_, ?_, .unknown isId isRoom⟩
          simp only [operate, findRoom, isId, RoomStore.find, isRoom]
          rfl
      | some room =>
          have finds : server.Finds id room := ⟨roomId, isId, isRoom⟩
          rcases server.exists_engage operation room with ⟨result, engaged⟩
          refine ⟨.ofResult result, by rw [operate_of_finds inTime finds engaged], ?_⟩
          cases result with
          | error error =>
              rcases exists_fatal (World.serveOne_eq_error_iff.1 engaged) with ⟨status, fatal⟩
              rw [Reply.ofResult, fatal.ofError]
              exact .refused finds engaged fatal
          | ok answer =>
              have same : answer.operation = operation :=
                World.operation_of_answered (Prod.ext rfl engaged)
              rcases answer with ⟨_, response⟩
              subst same
              cases errors : response.errors with
              | nil =>
                  have isReply : Reply.ofResult (.ok ⟨_, response⟩) =
                      { status := 200,
                        content := some (.json (Operation.responseToJson _ response)) } := by
                    simp [Reply.ofResult, Reply.ofAnswer, RoomResponse.hasErrors, errors]
                  rw [isReply]
                  exact .complete finds engaged errors
              | cons report rest =>
                  have isReply : Reply.ofResult (.ok ⟨_, response⟩) =
                      { status := 500,
                        content := some (.json (Operation.responseToJson _ response)) } := by
                    simp [Reply.ofResult, Reply.ofAnswer, RoomResponse.hasErrors, errors]
                  rw [isReply]
                  exact .incomplete finds engaged (by simp [errors])

/-- Recording changes nothing for the engine. -/
theorem engage_recorded (server : Server δ) (operation : Operation) (room : RoomConfig) :
    (server.recorded.engage operation room).2 = (server.engage operation room).2 :=
  World.serveOne_recorded (server.world.ask operation room (some server.timeout)).1 _ none

/-- What a request to a room that there is leaves behind is what the engine leaves behind. -/
theorem world_serve_of_finds {room : RoomConfig} (asks : request.Asks id operation)
    (inTime : server.world.clock + server.timeout ≤ lastTime) (finds : server.Finds id room) :
    (server.serve request none).1.world = (server.engage operation room).1 := by
  rcases server.exists_engage operation room with ⟨result, engaged⟩
  rw [serve_of_asks asks, operate_of_finds inTime finds engaged]

/-- What the engine echoes of a device was written to it. -/
theorem applies_of_echo [Enacts δ] {change : StateRequest} {room : RoomConfig}
    {response : RoomResponse DeviceState} {device : DeviceId} {state : DeviceState} {field : Field}
    {setting : Setting} (asks : request.Asks id (.set change))
    (inTime : server.world.clock + server.timeout ≤ lastTime) (finds : server.Finds id room)
    (isAnswer : (server.engage (.set change) room).2 = some (.ok ⟨.set change, response⟩))
    (echoed : response.devices.get? device = some state)
    (isSetting : state.setting? field = some setting) :
    server.Applies request id device field setting := by
  have served : (server.world.ask (.set change) room (some server.timeout)).1.recorded.serveOne
      (server.world.ask (.set change) room (some server.timeout)).2 none =
        ((server.recorded.engage (.set change) room).1, some (.ok ⟨.set change, response⟩)) := by
    rw [← isAnswer, ← engage_recorded]
    rfl
  rcases World.writes_of_echo rfl served echoed isSetting with ⟨config, isConfig, isWritten⟩
  have after : (server.recorded.serve request none).1.world =
      (server.recorded.engage (.set change) room).1 := world_serve_of_finds asks inTime finds
  rw [← after] at isWritten
  exact ⟨room, config, finds, isConfig, isWritten⟩

/-- The body of a reply to a change that was made as a whole. -/
theorem responseToJson_of_success {change : StateRequest} {response : RoomResponse DeviceState}
    (devices : response.devices = change.pruned.devices) (success : response.errors = []) :
    (Operation.set change).responseToJson response = change.pruned.toJson := by
  rcases response with ⟨_, _⟩
  subst devices success
  rfl

theorem Replies.success_or_failure {reply : Reply} (replies : server.Replies id operation reply) :
    reply.status = 200 ∨ 400 ≤ reply.status := by
  cases replies with
  | complete => exact Or.inl rfl
  | refused _ _ fatal => cases fatal <;> simp [Reply.failure]
  | malformed | unknown | incomplete => simp [Reply.failure]

/-- Only an answer without reports has the status of a success. -/
theorem Replies.exists_of_success {reply : Reply} (replies : server.Replies id operation reply)
    (success : reply.status = 200) : ∃ (room : RoomConfig) (response : RoomResponse operation.Data),
      server.Finds id room ∧
      (server.engage operation room).2 = some (.ok ⟨operation, response⟩) ∧ response.errors = [] ∧
      reply.body = some (.json (operation.responseToJson response)) := by
  cases replies with
  | complete finds isAnswer noErrors => exact ⟨_, _, finds, isAnswer, noErrors, rfl⟩
  | refused _ _ fatal => cases fatal <;> cases success
  | malformed | unknown | incomplete => cases success

/-- What is replied to a change with the status of a success was done. -/
theorem Replies.applied [Enacts δ] {reply : Reply} {change : StateRequest}
    (asks : request.Asks id (.set change))
    (inTime : server.world.clock + server.timeout ≤ lastTime)
    (replies : server.Replies id (.set change) reply) (success : reply.status = 200) :
    reply.body = some (.json change.pruned.toJson) ∧
      ∀ device desired field setting, change.devices.get? device = some desired →
        desired.setting? field = some setting →
        server.Applies request id device field setting ∧
          server.Confirms change id device field setting := by
  rcases replies.exists_of_success success with ⟨room, response, finds, isAnswer, noErrors, body⟩
  have devices : response.devices = change.pruned.devices :=
    World.devices_of_success rfl (Prod.ext rfl isAnswer) noErrors
  refine ⟨by rw [body, responseToJson_of_success devices noErrors], ?_⟩
  intro device desired field setting isDesired isSetting
  have echoed : response.devices.get? device = some desired.pruned :=
    (congrArg (fun devices => devices.get? device) devices).trans
      (StateRequest.get?_pruned isDesired isSetting)
  have isEchoed : desired.pruned.setting? field = some setting := by
    rw [DeviceState.setting?_pruned, isSetting]
  exact ⟨applies_of_echo asks inTime finds isAnswer echoed isEchoed,
    room, response, desired.pruned, finds, isAnswer, echoed, isEchoed⟩

/--
A request for a room is replied to as it has to be. If the reply to a change has the status of a
success then every setting that is wanted was written and is echoed, and the body is the change
without what asks for nothing; if a setting was not written or is not echoed, the reply has the
status of a failure.
-/
theorem replies_truthfully [Enacts δ] (server : Server δ)
    (inTime : server.world.clock + server.timeout ≤ lastTime) (asks : request.Asks id operation) :
    ∃ reply, (server.serve request none).2 = .reply reply ∧
      server.Replies id operation reply ∧
      ∀ change, operation = .set change →
        (reply.status = 200 → reply.body = some (.json change.pruned.toJson)) ∧
        ∀ device desired field setting, change.devices.get? device = some desired →
          desired.setting? field = some setting →
          (reply.status = 200 → server.Applies request id device field setting ∧
            server.Confirms change id device field setting) ∧
          (¬server.Applies request id device field setting ∨
            ¬server.Confirms change id device field setting → 400 ≤ reply.status) := by
  rcases exists_replies inTime id operation with ⟨reply, isReply, replies⟩
  refine ⟨reply, by rw [serve_of_asks asks, isReply], replies, ?_⟩
  rintro change rfl
  refine ⟨fun success => (replies.applied asks inTime success).1, ?_⟩
  intro device desired field setting isDesired isSetting
  have applied : reply.status = 200 → server.Applies request id device field setting ∧
      server.Confirms change id device field setting := by
    intro success
    exact (replies.applied asks inTime success).2 _ _ _ _ isDesired isSetting
  refine ⟨applied, fun missing => ?_⟩
  rcases replies.success_or_failure with success | failure
  · rcases applied success with ⟨applies, confirms⟩
    rcases missing with missing | missing
    · exact absurd applies missing
    · exact absurd confirms missing
  · exact failure

/-- A server for the lab. -/
def labServer : Server VirtualDriver where
  world := World.labWorld { model := .display }
  rooms := .ofRooms [World.lab]
  timeout := 10000

/-- A request that sets the level of the display in the lab. -/
def labRequest : Request where
  method := "PUT"
  target := "/room/LAB-1/state"
  headers := [("content-type", "application/json")]
  body := (World.labLevel 40 true).toJson.render.toUTF8

theorem asks_labRequest : labRequest.Asks "LAB-1" (.set (World.labLevel 40 true)) := by
  have isJson : ((labRequest.header? "content-type").bind fun value =>
      MediaType.parse? value.toList).any MediaType.isJson = true := by decide +kernel
  have small : ¬bodyLimit < labRequest.body.size := by decide +kernel
  have decodes : readStateRequest labRequest.body = .ok (World.labLevel 40 true) := by
    rw [labRequest, readStateRequest_toUTF8]
    decide +kernel
  have isChange : readChange labRequest = .ok (World.labLevel 40 true) := by
    simp only [readChange, isJson, if_neg small, if_true, decodes]
  have routed : Route.ofTarget? labRequest.target = some (.room "LAB-1".toList .state) := by
    decide +kernel
  exact .changes rfl routed (by decide +kernel) isChange

theorem replies_truthfully_lab :
    labServer.world.clock + labServer.timeout ≤ lastTime ∧
      labRequest.Asks "LAB-1" (.set (World.labLevel 40 true)) ∧
      ∃ reply, (labServer.serve labRequest none).2 = .reply reply ∧
        labServer.Replies "LAB-1" (.set (World.labLevel 40 true)) reply ∧
        ∀ change, Operation.set (World.labLevel 40 true) = .set change →
          (reply.status = 200 → reply.body = some (.json change.pruned.toJson)) ∧
          ∀ device desired field setting, change.devices.get? device = some desired →
            desired.setting? field = some setting →
            (reply.status = 200 → labServer.Applies labRequest "LAB-1" device field setting ∧
              labServer.Confirms change "LAB-1" device field setting) ∧
            (¬labServer.Applies labRequest "LAB-1" device field setting ∨
              ¬labServer.Confirms change "LAB-1" device field setting → 400 ≤ reply.status) := by
  have inTime : labServer.world.clock + labServer.timeout ≤ lastTime := by decide +kernel
  exact ⟨inTime, asks_labRequest, labServer.replies_truthfully inTime asks_labRequest⟩

end Server

end AvControl.Http

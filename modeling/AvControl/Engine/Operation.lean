import AvControl.Engine.Task

/-!
# Operations

What can be asked of a room: the state of its devices, a change of some of them, their health or
what they tell about themselves. Before any device is touched a request has to pass some checks,
and the first that fails is its answer: the context is live, the room has devices, every device
that is named belongs to the room, and every device that is to be contacted has a registered
driver. Devices are gone through in the order of their ids.
-/

namespace AvControl

/-- What can be asked of a room. -/
inductive Operation
  | get
  | set (request : StateRequest)
  | health
  | info
deriving DecidableEq, Repr

namespace Operation

/-- What a device contributes to the response. -/
def Data : Operation → Type
  | get | set _ => DeviceState
  | health => DeviceHealth
  | info => DeviceInfo

/-- What some findings make up. -/
def summarize : (operation : Operation) → List Finding → Option operation.Data
  | get, findings | set _, findings => DeviceState.ofFindings? findings
  | health, findings => DeviceHealth.ofFindings? findings
  | info, findings => DeviceInfo.ofFindings? findings

/-- The same work for every device of a room. -/
def everywhere (room : RoomConfig) (work : Work) : List (DeviceId × Work) :=
  room.devices.keys.map fun device => (device, work)

/-- The devices that are to be contacted, each with its work. -/
def targets (operation : Operation) (room : RoomConfig) : List (DeviceId × Work) :=
  match operation with
  | get => everywhere room .read
  | health => everywhere room .probeHealth
  | info => everywhere room .probeInfo
  | set request =>
    (request.devices.filter fun _ desired => !desired.isEmpty).entries.map fun entry =>
      (entry.1, .apply entry.2)

/-- The first device that is named but does not belong to the room. -/
def stranger? (operation : Operation) (room : RoomConfig) : Option DeviceId :=
  match operation with
  | set request => request.devices.keys.find? fun device => !room.devices.contains device
  | _ => none

/-- The task for one target, provided that its driver is registered. -/
def task {δ : Type} (registry : Registry δ) (room : RoomConfig) (target : DeviceId × Work) :
    Except RequestError Task :=
  match room.devices.get? target.1 with
  | none => .error (.invalidDevice target.1)
  | some config =>
    match registry.get config.driver with
    | none => .error (.unknownDriver target.1 config.driver)
    | some _ => .ok { device := target.1, config, work := target.2 }

/-- The tasks of a request, or the check that it does not pass. -/
def prepare {δ : Type} (operation : Operation) (world : World δ) (context : RequestContext)
    (room : RoomConfig) : Except RequestError (List Task) :=
  match world.interruption? context with
  | some interruption => .error (.cancelled interruption)
  | none =>
    if room.devices.isEmpty then .error (.emptyRoom room.id)
    else
      match operation.stranger? room with
      | some device => .error (.invalidDevice device)
      | none => (operation.targets room).mapM (task world.registry room)

end Operation

end AvControl

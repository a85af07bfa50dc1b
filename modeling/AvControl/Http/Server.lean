import AvControl.Engine.Run
import AvControl.Http.Body
import AvControl.Http.MediaType
import AvControl.Http.Message
import AvControl.Http.Target
import AvControl.Settings.Startup

/-!
# The server

A server answers requests about its rooms. Everything that is served can be read, and the state of a
room can also be changed. What is wrong with a request is found in this order: its path, its method,
the segment that names the room, the type of its body, its body, the identifier of the room, the
room, and whatever else the engine finds. Every request to a room gets a context of its own, that
ends when the time for one request is over.
-/

namespace AvControl.Http

/-- The last time that the clock can tell, which counts seconds in 64 bits with a sign. -/
def lastTime : Nat := Int64.maxValue.toInt.toNat * 1000 + 999

/-- The drivers, the rooms, and the number of milliseconds that a request may take. -/
structure Server (δ : Type) where
  world : World δ
  rooms : RoomStore
  timeout : Nat

/-- What comes out of a request. -/
inductive Served
  | reply (reply : Reply)
  /-- There was no answer when patience ended, or there would never have been one. -/
  | unanswered
  /-- The server broke down. -/
  | crashed

/-- A reply without its content. -/
def Served.withoutContent : Served → Served
  | .reply full => .reply { full with sendsContent := false }
  | served => served

namespace Route

/-- The methods that are allowed for a route. -/
def methods : Route → List String
  | room _ .state => ["GET", "HEAD", "PUT"]
  | _ => ["GET", "HEAD"]

end Route

/-- Reading one side of a room. -/
def RoomResource.reading : RoomResource → Operation
  | state => .get
  | health => .health
  | info => .info

/-- The change that the body of a request asks for, or how the request is rejected. -/
def readChange (request : Request) : Except Reply StateRequest :=
  if ((request.header? "content-type").bind fun value => MediaType.parse? value.toList).any
      MediaType.isJson then
    if bodyLimit < request.body.size then .error (.rejection 413)
    else
      match readStateRequest request.body with
      | .ok change => .ok change
      | .error .malformed => .error (.rejection 400)
      | .error .mismatched => .error (.rejection 422)
  else .error (.rejection 415)

namespace Server

variable {δ : Type}

/-- The room with the given identifier. -/
def findRoom (server : Server δ) (id : String) : Except RequestError RoomConfig :=
  match RoomId.parse id with
  | .ok id => server.rooms.find id
  | .error error => .error (.validation error)

/-- A context for one request, unless the clock cannot tell when it ends. -/
def createContext? (server : Server δ) : Option (World δ × RequestContext) :=
  if server.world.clock + server.timeout ≤ lastTime then
    some (server.world.createContext (some server.timeout))
  else none

variable [Driver δ]

/-- Do something with a room. -/
def operate (server : Server δ) (id : String) (operation : Operation) (patience : Option Nat) :
    Server δ × Served :=
  match server.findRoom id with
  | .error error => (server, .reply (.ofError error))
  | .ok room =>
    match server.createContext? with
    | none => (server, .crashed)
    | some (world, context) =>
      let (world, answer) := world.serveOne { operation, room, context } patience
      let served := match answer with
        | some (.ok answer) => .reply (.ofAnswer answer)
        | some (.error error) => .reply (.ofError error)
        | none => .unanswered
      ({ server with world }, served)

/-- Read what is served under a route. -/
def read (server : Server δ) (route : Route) (patience : Option Nat) : Server δ × Served :=
  match route with
  | .liveness => (server, .reply { status := 200, content := some (.text "OK") })
  | .drivers =>
    let names := Json.ofTexts server.world.registry.list
    (server, .reply { status := 200, content := some (.json names) })
  | .room segment resource =>
    match decodeSegment? segment with
    | none => (server, .reply (.rejection 400))
    | some id => server.operate id resource.reading patience

/-- Change the state of the room that a segment names. -/
def change (server : Server δ) (segment : List Char) (request : Request) (patience : Option Nat) :
    Server δ × Served :=
  match decodeSegment? segment with
  | none => (server, .reply (.rejection 400))
  | some id =>
    match readChange request with
    | .error reply => (server, .reply reply)
    | .ok change => server.operate id (.set change) patience

/-- Serve one request. -/
def serve (server : Server δ) (request : Request) (patience : Option Nat) : Server δ × Served :=
  match Route.ofTarget? request.target with
  | none => (server, .reply .notFound)
  | some route =>
    match request.method, route with
    | "GET", route => server.read route patience
    | "HEAD", route =>
      let (server, served) := server.read route patience
      (server, served.withoutContent)
    | "PUT", .room segment .state => server.change segment request patience
    | _, route => (server, .reply (.notAllowed route.methods))

end Server

/-- The server that some settings ask for. -/
def Server.ofSettings (settings : Settings) : Except StartupError (Server VirtualDriver) := do
  let (registry, rooms) ← settings.startup
  pure {
    world := { registry := registry }
    rooms
    timeout := settings.server.timeoutSeconds.toNat * 1000 }

end AvControl.Http

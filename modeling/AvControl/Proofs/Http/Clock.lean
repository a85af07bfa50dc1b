import AvControl.Proofs.Http.Replies
import AvControl.Proofs.Settings.Environment

/-!
# When the clock cannot tell the end of a request

A request for a room that there is gets a context that ends when the time for one request is over.
If the clock cannot tell this time then there is no context, and the server breaks down; nothing
else in a request makes it break down. Settings are not checked for this: any time but none at all
is accepted, from a file or from the environment, and the longest one that can be asked for takes
the clock too far whatever it reads.
-/

namespace AvControl.Http

/-- The request is to read or to change the room that a text names; its content may be spared. -/
inductive Request.Concerns (request : Request) (id : String) : Prop
  | asks {operation : Operation} (asks : request.Asks id operation)
  | head {operation : Operation} (isHead : request.method = "HEAD")
      (asks : Request.Asks { request with method := "GET" } id operation)

namespace Server

variable {δ : Type} {server : Server δ} {id : String}

theorem createContext?_eq_none_iff :
    server.createContext? = none ↔ lastTime < server.world.clock + server.timeout := by
  rw [createContext?]
  split
  · rename_i inTime
    simpa using inTime
  · rename_i late
    simpa using late

theorem findRoom_eq_ok {room : RoomConfig} (found : server.findRoom id = .ok room) :
    server.Finds id room := by
  rw [findRoom] at found
  split at found
  · rename_i roomId isId
    refine ⟨roomId, isId, ?_⟩
    cases isRoom : server.rooms.rooms.get? roomId with
    | none => simp [RoomStore.find, isRoom] at found
    | some other => simpa [RoomStore.find, isRoom] using found
  · cases found

variable [Driver δ] {operation : Operation} {patience : Option Nat}

/-- Doing something with a room makes the server break down only for want of a context. -/
theorem operate_eq_crashed_iff :
    (server.operate id operation patience).2 = .crashed ↔
      (∃ room, server.Finds id room) ∧ lastTime < server.world.clock + server.timeout := by
  rw [← createContext?_eq_none_iff]
  constructor
  · intro crashed
    rw [operate] at crashed
    split at crashed
    · cases crashed
    · rename_i room found
      refine ⟨⟨room, findRoom_eq_ok found⟩, ?_⟩
      split at crashed
      · assumption
      · dsimp only at crashed
        split at crashed <;> cases crashed
  · rintro ⟨⟨room, finds⟩, noContext⟩
    simp only [operate, findRoom_of_finds finds, noContext]

theorem withoutContent_eq_crashed_iff {served : Served} :
    served.withoutContent = .crashed ↔ served = .crashed := by
  cases served <;> simp [Served.withoutContent]

theorem exists_id_of_read {route : Route} (crashed : (server.read route patience).2 = .crashed) :
    ∃ segment resource id, route = .room segment resource ∧ decodeSegment? segment = some id ∧
      (server.operate id resource.reading patience).2 = .crashed := by
  cases route with
  | liveness => cases crashed
  | drivers => cases crashed
  | room segment resource =>
      cases decoded : decodeSegment? segment with
      | none => simp [read, decoded] at crashed
      | some id =>
          simp only [read, decoded] at crashed
          exact ⟨segment, resource, id, rfl, decoded, crashed⟩

theorem exists_id_of_change {segment : List Char} {request : Request}
    (crashed : (server.change segment request patience).2 = .crashed) :
    ∃ id change, decodeSegment? segment = some id ∧ readChange request = .ok change ∧
      (server.operate id (.set change) patience).2 = .crashed := by
  cases decoded : decodeSegment? segment with
  | none => simp [change, decoded] at crashed
  | some id =>
      cases isChange : readChange request with
      | error reply => simp [change, decoded, isChange] at crashed
      | ok change =>
          simp only [Server.change, decoded, isChange] at crashed
          exact ⟨id, change, rfl, rfl, crashed⟩

/-- A server breaks down on a request only when an operation on a room breaks down. -/
theorem exists_operation_of_serve {request : Request}
    (crashed : (server.serve request patience).2 = .crashed) :
    ∃ id operation, request.Concerns id ∧
      (server.operate id operation patience).2 = .crashed := by
  rw [serve] at crashed
  split at crashed
  · cases crashed
  · rename_i route routed
    split at crashed
    · rename_i route isGet
      rcases exists_id_of_read crashed with ⟨segment, resource, id, rfl, decoded, operated⟩
      exact ⟨id, _, .asks (.reads isGet routed decoded), operated⟩
    · rename_i route isHead
      rcases exists_id_of_read (withoutContent_eq_crashed_iff.1 crashed) with
        ⟨segment, resource, id, rfl, decoded, operated⟩
      exact ⟨id, _, .head isHead (.reads rfl routed decoded), operated⟩
    · rename_i segment isPut
      rcases exists_id_of_change crashed with ⟨id, change, decoded, isChange, operated⟩
      exact ⟨id, _, .asks (.changes isPut routed decoded isChange), operated⟩
    · cases crashed

theorem serve_eq_crashed_of_concerns {request : Request} (concerns : request.Concerns id)
    (broken : ∀ operation, (server.operate id operation patience).2 = .crashed) :
    (server.serve request patience).2 = .crashed := by
  rcases concerns with asks | ⟨isHead, asks⟩
  · rw [serve_of_asks asks]
    exact broken _
  · cases asks with
    | reads _ routed decoded =>
        simp only [serve, isHead, routed, read, decoded]
        exact withoutContent_eq_crashed_iff.2 (broken _)
    | changes isPut =>
        have differs : "GET" = "PUT" := isPut
        simp at differs

/-- A server breaks down on the requests for a room that there is, and only when its clock cannot
tell the end of the time that a request may take. -/
theorem serve_eq_crashed_iff {request : Request} :
    (server.serve request patience).2 = .crashed ↔
      (∃ id room, request.Concerns id ∧ server.Finds id room) ∧
        lastTime < server.world.clock + server.timeout := by
  constructor
  · intro crashed
    rcases exists_operation_of_serve crashed with ⟨id, operation, concerns, operated⟩
    rcases operate_eq_crashed_iff.1 operated with ⟨⟨room, finds⟩, late⟩
    exact ⟨⟨id, room, concerns, finds⟩, late⟩
  · rintro ⟨⟨id, room, concerns, finds⟩, late⟩
    exact serve_eq_crashed_of_concerns concerns fun operation =>
      operate_eq_crashed_iff.2 ⟨⟨room, finds⟩, late⟩

/-- The clock cannot tell the end of a time when it has not the seconds to count it. -/
theorem lastTime_lt_iff {clock seconds : Nat} :
    lastTime < clock + seconds * 1000 ↔ lastTime / 1000 < clock / 1000 + seconds := by
  rw [lastTime]
  omega

theorem timeout_of_ofSettings {settings : Settings} {server : Server VirtualDriver}
    (started : ofSettings settings = .ok server) :
    server.timeout = settings.server.timeoutSeconds.toNat * 1000 := by
  cases startup : settings.startup with
  | error error => simp [ofSettings, startup, bind, Except.bind] at started
  | ok served =>
      simp only [ofSettings, startup, bind, Except.bind, pure, Except.pure,
        Except.ok.injEq] at started
      rw [← started]

/-- Whatever has become of a server that was started with some settings, and whatever its clock
reads: as long as its clock has enough seconds for the time that a request may take, a request gets
a context that ends then and the server does not break down; and when it has not, every request for
a room that there is makes the server break down. -/
theorem breaks_beyond_clock {settings : Settings} {server : Server VirtualDriver}
    (started : ofSettings settings = .ok server) (world : World VirtualDriver) :
    let current := { server with world }
    let enough := world.clock / 1000 + settings.server.timeoutSeconds.toNat ≤ lastTime / 1000
    (enough → ∃ world' context, current.createContext? = some (world', context) ∧
      context.deadline = some (world.clock + settings.server.timeoutSeconds.toNat * 1000)) ∧
    ∀ request patience, (current.serve request patience).2 = .crashed ↔
      (∃ id room, request.Concerns id ∧ current.Finds id room) ∧ ¬enough := by
  intro current enough
  have late : lastTime < current.world.clock + current.timeout ↔ ¬enough := by
    rw [Nat.not_le, ← lastTime_lt_iff, ← timeout_of_ofSettings started]
  constructor
  · intro isEnough
    refine ⟨_, _, if_pos (Nat.le_of_not_lt fun isLate => late.1 isLate isEnough), ?_⟩
    rw [← timeout_of_ofSettings started]
    rfl
  · intro request patience
    rw [serve_eq_crashed_iff, late]

/-- Settings for one room with one display. -/
def loungeSettings : Settings where
  rooms := SortedMap.empty.insert "LAB-1"
    { devices := SortedMap.empty.insert "D1" { address := "lab", driver := "virtual-display" } }

/-- An environment that asks for the longest time there is. -/
def endlessEnvironment : Environment :=
  SortedMap.empty.insert "ROOMCTL_REQUEST_TIMEOUT_SECS" "18446744073709551615"

/-- A request for the health of the room. -/
def loungeRequest : Request where
  method := "GET"
  target := "/room/LAB-1/health"

theorem concerns_loungeRequest : loungeRequest.Concerns "LAB-1" :=
  have routed : Route.ofTarget? loungeRequest.target = some (.room "LAB-1".toList .health) := by
    decide +kernel
  .asks (.reads rfl routed (by decide +kernel))

/-- No variable has anything to do with whether a server starts. -/
theorem startup_override (environment : Environment) (settings : Settings) :
    (settings.override environment).startup = settings.startup := by
  simp only [Settings.startup, Settings.registry, Settings.roomConfigs, Settings.drivers_override,
    Settings.rooms_override]

/-- A server with the room starts under any environment. -/
theorem exists_lounge (environment : Environment) :
    ∃ server, ofSettings (loungeSettings.override environment) = .ok server ∧
      ∃ room, server.Finds "LAB-1" room := by
  have served : (match loungeSettings.startup with
      | .ok served => (served.2.rooms.get? ⟨"LAB-1"⟩).isSome
      | .error _ => false) = true := by decide +kernel
  have isId : RoomId.parse "LAB-1" = .ok ⟨"LAB-1"⟩ := by decide +kernel
  cases startup : loungeSettings.startup with
  | error error => simp [startup] at served
  | ok started =>
      simp only [startup] at served
      rcases Option.isSome_iff_exists.1 served with ⟨room, isRoom⟩
      have same : (loungeSettings.override environment).startup = .ok started :=
        (startup_override environment loungeSettings).trans startup
      let server : Server VirtualDriver :=
        { world := { registry := started.1 }
          rooms := started.2
          timeout := (loungeSettings.override environment).server.timeoutSeconds.toNat * 1000 }
      have isServer : ofSettings (loungeSettings.override environment) = .ok server := by
        simp only [ofSettings, same, bind, Except.bind, pure, Except.pure, server]
      exact ⟨server, isServer, room, ⟨"LAB-1"⟩, isId, isRoom⟩

theorem breaks_beyond_clock_lounge : ∃ server, ofSettings (loungeSettings.override .empty) =
      .ok server ∧ ∀ world,
    let current : Server VirtualDriver := { server with world }
    let enough := world.clock / 1000 +
      (loungeSettings.override .empty).server.timeoutSeconds.toNat ≤ lastTime / 1000
    (enough → ∃ world' context, current.createContext? = some (world', context) ∧
      context.deadline = some (world.clock +
        (loungeSettings.override .empty).server.timeoutSeconds.toNat * 1000)) ∧
    ∀ request patience, (current.serve request patience).2 = .crashed ↔
      (∃ id room, request.Concerns id ∧ current.Finds id room) ∧ ¬enough := by
  rcases exists_lounge .empty with ⟨server, started, -⟩
  exact ⟨server, started, fun world => breaks_beyond_clock started world⟩

/-- The longest time that can be asked for is accepted, a server starts with it, and then every
request for the room makes it break down, whatever its clock reads. -/
theorem endless_timeout_breaks :
    (loungeSettings.override endlessEnvironment).validate = .ok () ∧
      ∃ server, ofSettings (loungeSettings.override endlessEnvironment) = .ok server ∧
        ∀ world patience, (({ server with world } : Server VirtualDriver).serve loungeRequest
          patience).2 = .crashed := by
  have validated : (match (loungeSettings.override endlessEnvironment).validate with
      | .ok () => true
      | .error _ => false) = true := by decide +kernel
  have endless : (loungeSettings.override endlessEnvironment).server.timeoutSeconds =
      18446744073709551615 := by decide +kernel
  constructor
  · split at validated
    · assumption
    · cases validated
  · rcases exists_lounge endlessEnvironment with ⟨server, started, room, finds⟩
    refine ⟨server, started, fun world patience => ?_⟩
    rw [serve_eq_crashed_iff]
    refine ⟨⟨"LAB-1", room, concerns_loungeRequest, finds⟩, ?_⟩
    have timeout := timeout_of_ofSettings started
    rw [endless] at timeout
    simp only [timeout, lastTime]
    have late : Int64.maxValue.toInt.toNat * 1000 + 999 <
        (18446744073709551615 : UInt64).toNat * 1000 := by decide +kernel
    exact Nat.lt_of_lt_of_le late (Nat.le_add_left _ _)

end Server

end AvControl.Http

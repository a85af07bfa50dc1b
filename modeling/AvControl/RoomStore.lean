import AvControl.Room

/-!
# The rooms that are served

A store answers for a fixed set of rooms, each found under its own identifier.
-/

namespace AvControl

/-- A fixed set of rooms by identifier. -/
structure RoomStore where
  rooms : SortedMap RoomId RoomConfig := SortedMap.empty
deriving DecidableEq, Repr

namespace RoomStore

/-- The store of some rooms; of rooms with one identifier the last one counts. -/
def ofRooms (rooms : List RoomConfig) : RoomStore :=
  ⟨SortedMap.ofList (rooms.map fun room => (room.id, room))⟩

/-- The identifiers of the stored rooms in order. -/
def ids (store : RoomStore) : List RoomId := store.rooms.keys

/-- The room with the given identifier. -/
def find (store : RoomStore) (id : RoomId) : Except RequestError RoomConfig :=
  match store.rooms.get? id with
  | some room => .ok room
  | none => .error (.notFound "Room" id.text)

end RoomStore

end AvControl

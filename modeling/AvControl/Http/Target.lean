import AvControl.Text.Hexadecimal

/-!
# Request targets

The target of a request leads to what is asked for by its path, the part up to a question mark or a
hash sign; a target may also name a scheme and a host in front of its path. Segments of the path are
compared as they are written. Only the segment that names a room is decoded: a percent sign and two
hexadecimal digits stand for a byte, everything else stands for itself, and the bytes have to be
well-formed UTF-8.
-/

namespace AvControl.Http

/-- What a room has to be asked about. -/
inductive RoomResource
  | state
  | health
  | info
deriving DecidableEq, Repr

/-- What is served under a path. -/
inductive Route
  /-- The server says that it is alive. -/
  | liveness
  /-- The names of all registered drivers. -/
  | drivers
  /-- One side of the room that the segment names. -/
  | room (segment : List Char) (resource : RoomResource)
deriving DecidableEq, Repr

/-- A target without scheme and host. -/
def dropOrigin : List Char → List Char
  | ':' :: '/' :: '/' :: rest => rest.dropWhile fun c => c != '/' && c != '?' && c != '#'
  | _ :: rest => dropOrigin rest
  | [] => []

/-- The path of a target. -/
def pathOf (target : List Char) : List Char :=
  let path := if target.head? = some '/' then target else dropOrigin target
  path.takeWhile fun c => c != '?' && c != '#'

/-- The parts of a path between its slashes, without the empty one in front of the first slash. -/
def segments (path : List Char) : Option (List (List Char)) :=
  match path with
  | '/' :: rest => some (rest.splitOn '/')
  | _ => none

namespace RoomResource

/-- The segment that names a side of a room. -/
def segment : RoomResource → String
  | state => "state"
  | health => "health"
  | info => "info"

/-- The side of a room that a segment names. -/
def ofSegment? (segment : List Char) : Option RoomResource :=
  [state, health, info].find? fun resource => resource.segment.toList = segment

end RoomResource

namespace Route

/-- What is served under the given segments. -/
def ofSegments? : List (List Char) → Option Route
  | [name] =>
    if name = "health".toList then some .liveness
    else if name = "drivers".toList then some .drivers
    else none
  | [group, id, resource] =>
    if group = "room".toList ∧ id ≠ [] then
      (RoomResource.ofSegment? resource).map (Route.room id)
    else none
  | _ => none

/-- What a target leads to. -/
def ofTarget? (target : String) : Option Route :=
  (segments (pathOf target.toList)).bind ofSegments?

end Route

/-- The bytes that a segment stands for. -/
def segmentBytes : List Char → List UInt8
  | '%' :: a :: b :: rest =>
    match Text.hexDigit? a, Text.hexDigit? b with
    | some high, some low => UInt8.ofNat (high * 16 + low) :: segmentBytes rest
    | _, _ => String.utf8EncodeChar '%' ++ segmentBytes (a :: b :: rest)
  | c :: rest => String.utf8EncodeChar c ++ segmentBytes rest
  | [] => []

/-- The text that a segment stands for, if there is one. -/
def decodeSegment? (segment : List Char) : Option String :=
  String.fromUTF8? ⟨(segmentBytes segment).toArray⟩

end AvControl.Http

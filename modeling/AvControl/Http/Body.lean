import AvControl.Wire.State

/-!
# Bodies of requests

A body is a sequence of bytes that should be UTF-8. Bytes that are not matter only where somebody
needs the text that they stand in: they spoil the text, as half of a surrogate pair does, but not a
value that nobody looks at.
-/

namespace AvControl.Http

/-- The size of the largest body that is taken in, two megabytes. -/
def bodyLimit : Nat := 2 * 1024 * 1024

/--
What is read for a byte that is not part of well-formed UTF-8. Inside a JSON text it leaves the
text without a value, behind a backslash it is no escape, and elsewhere it is no JSON.
-/
def illFormed : List Char := "\uFFFD\\udc00".toList

/-- The characters of some bytes from a position on. -/
def charactersFrom (bytes : ByteArray) (position : Nat) : List Char :=
  if position < bytes.size then
    match bytes.utf8DecodeChar? position with
    | some c => c :: charactersFrom bytes (position + c.utf8Size)
    | none => illFormed ++ charactersFrom bytes (position + 1)
  else []
termination_by bytes.size - position
decreasing_by
  · have := c.utf8Size_pos
    omega
  · omega

/-- The text of a body. -/
def bodyText (body : ByteArray) : String := String.ofList (charactersFrom body 0)

/-- The state request in a body. -/
def readStateRequest (body : ByteArray) : Except Json.DecodeFault StateRequest :=
  StateRequest.decoder.runText (bodyText body)

end AvControl.Http

import AvControl.Engine.Session
import AvControl.Http.ErrorAnswer
import AvControl.Wire.Answer

/-!
# Requests and replies

A request says what is to be done with which target, and a reply says what became of it. Every
reply carries the identifier that the client has given to its request, or a new one. A reply whose
content nobody asked for still says of which type it is.
-/

namespace AvControl.Http

/-- A request as it comes in. -/
structure Request where
  method : String
  target : String
  /-- Names and values in the order in which they were sent. -/
  headers : List (String × String) := []
  body : ByteArray := ByteArray.empty

/-- The first value of a header, whose name may be in letters of either case. -/
def Request.header? (request : Request) (name : String) : Option String :=
  (request.headers.find? fun header => header.1.toLower = name).map Prod.snd

/-- The identifier of a request. -/
inductive RequestId
  | given (text : String)
  | generated
deriving DecidableEq, Repr

/-- The number of characters in a new identifier. -/
def RequestId.generatedLength : Nat := 36

/-- The identifier that the client has given to its request, or a new one. -/
def Request.id (request : Request) : RequestId :=
  match request.header? "x-request-id" with
  | some text => .given text
  | none => .generated

/-- What a reply says. -/
inductive Content
  | json (value : Json)
  | text (value : String)
  /-- A sentence about what is wrong with the request, in words that nobody relies on. -/
  | complaint

namespace Content

/-- The type of a content. -/
def type : Content → String
  | json _ => "application/json"
  | text _ | complaint => "text/plain; charset=utf-8"

end Content

/-- What became of a request. -/
structure Reply where
  status : Nat
  content : Option Content := none
  /-- The methods that would have been allowed, if that is what the reply is about. -/
  allowed : List String := []
  /-- Whether the content goes along with the reply. -/
  sendsContent : Bool := true

namespace Reply

/-- The type of the content, whether it goes along or not. -/
def contentType (reply : Reply) : Option String := reply.content.map Content.type

/-- The content that goes along. -/
def body (reply : Reply) : Option Content :=
  if reply.sendsContent then reply.content else none

/-- Nothing is served under the path. -/
def notFound : Reply := { status := 404 }

/-- Other methods are allowed. -/
def notAllowed (allowed : List String) : Reply := { status := 405, allowed }

/-- The request is not fit to be looked at. -/
def rejection (status : Nat) : Reply := { status, content := some .complaint }

/-- A request that could not be processed at all. -/
def ofError (error : RequestError) : Reply :=
  { status := error.status, content := some (.json error.body) }

/--
An answer is a success only if it reports nothing; otherwise it is a failure that still tells what
worked.
-/
def ofAnswer (answer : Answer) : Reply where
  status := if answer.response.hasErrors then 500 else 200
  content := some (.json (answer.operation.responseToJson answer.response))

end Reply

end AvControl.Http

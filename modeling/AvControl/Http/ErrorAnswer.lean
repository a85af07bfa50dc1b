import AvControl.Error
import AvControl.Json.Render

/-!
# Request errors over HTTP

Every request error has a status and a JSON body that names it. Errors that wrap another one show
the inner message, and a failing store shows nothing of its own.
-/

namespace AvControl.RequestError

/-- The HTTP status of a request error. -/
def status : RequestError → Nat
  | invalidDevice _ | emptyRoom _ | validation _ => 400
  | notFound _ _ => 404
  | cancelled _ => 504
  | unknownDriver _ _ | storage _ => 500

/-- The text that a client is shown. -/
def publicMessage (error : RequestError) : String :=
  match error with
  | validation inner => inner.message
  | notFound entity id => notFoundMessage entity id
  | storage _ => "internal server error"
  | _ => error.message

/-- The body that a client is sent. -/
def body (error : RequestError) : Json :=
  .object [("error", .string error.publicMessage)]

end AvControl.RequestError

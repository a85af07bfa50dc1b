import AvControl.Identifier

/-!
# Errors

There are three layers. A `RequestError` ends a request before any device is touched, a
`FieldError` spoils one field of one device and leaves its neighbours alone, and a `DriverError`
is whatever a driver has to say. Each error has a message and the chain of messages of its causes,
nearest first.
-/

namespace AvControl

/-- Why a request context takes no more work. -/
inductive Interruption
  | canceled
  | deadlineExceeded
deriving DecidableEq, Repr

namespace Interruption

/-- The text shown for the end of a context. -/
def message : Interruption → String
  | canceled => "context canceled"
  | deadlineExceeded => "context deadline exceeded"

end Interruption

/-- An error of a driver: its message and the messages of its causes. -/
structure DriverError where
  message : String
  causes : List String := []
deriving DecidableEq, Repr, Inhabited

namespace DriverError

/-- A context that ended, seen as an error of the driver that noticed it. -/
def ofInterruption (interruption : Interruption) : DriverError :=
  { message := interruption.message }

end DriverError

/-- Why one field could not be read or applied. -/
inductive FieldError
  | notCapable
  | invalidBlock
  | create (error : DriverError)
  | driver (error : DriverError)
  | context (interruption : Interruption)
deriving DecidableEq, Repr

namespace FieldError

/-- The text of a field error; driver and context errors speak for themselves. -/
def message : FieldError → String
  | notCapable => "can't set this field on this device"
  | invalidBlock => "invalid block"
  | create error => "unable to create device: " ++ error.message
  | driver error => error.message
  | context interruption => interruption.message

/-- The messages of the causes. A failed opening has the driver's error as its own cause. -/
def causes : FieldError → List String
  | create error => error.message :: error.causes
  | driver error => error.causes
  | _ => []

end FieldError

/-- Why a request could not be processed at all. -/
inductive RequestError
  | invalidDevice (device : DeviceId)
  | unknownDriver (device : DeviceId) (driver : String)
  | emptyRoom (room : RoomId)
  | validation (error : ValidationError)
  | notFound (entity id : String)
  | cancelled (interruption : Interruption)
  | storage (error : DriverError)
deriving DecidableEq, Repr

namespace RequestError

/-- What a lookup that came back empty says. -/
def notFoundMessage (entity id : String) : String :=
  entity ++ " " ++ id ++ " not found"

/-- The text of a request error. -/
def message : RequestError → String
  | invalidDevice device => device.text ++ ": device is invalid in this room"
  | unknownDriver device driver => device.text ++ ": unknown driver " ++ Text.quoted driver
  | emptyRoom room => "room " ++ room.text ++ " has no devices"
  | validation _ => "Validation error"
  | notFound _ _ => "Not found"
  | cancelled interruption => "request aborted: " ++ interruption.message
  | storage _ => "Storage error"

/-- The messages of the causes. -/
def causes : RequestError → List String
  | validation error => [error.message]
  | notFound entity id => [notFoundMessage entity id]
  | cancelled interruption => [interruption.message]
  | storage error => error.message :: error.causes
  | _ => []

/-- A request error passed on as an error of a driver keeps its message and causes. -/
def toDriverError (error : RequestError) : DriverError :=
  { message := error.message, causes := error.causes }

end RequestError

end AvControl

import AvControl.Driver.Cached
import AvControl.Text.Quoted

/-!
# Driver registry

The registry knows every driver by its name and keeps it for good, together with the handles that
it has handed out. A name is taken once and for all; the empty name is nobody's.
-/

namespace AvControl

/-- Why a driver could not be registered or configured. -/
inductive RegistryError
  | emptyName
  | duplicate (name : String)
  | unknown (name : String)
  | config (name : String) (error : DriverError)
deriving DecidableEq, Repr

namespace RegistryError

/-- The text of a registry error. -/
def message : RegistryError → String
  | emptyName => "driver name must not be empty"
  | duplicate name => "driver " ++ Text.quoted name ++ " is already registered"
  | unknown name => "driver " ++ Text.quoted name ++ " is not registered"
  | config name _ => "invalid configuration for driver " ++ Text.quoted name

/-- The messages of the causes. -/
def causes : RegistryError → List String
  | config _ error => error.message :: error.causes
  | _ => []

end RegistryError

/-- The registered drivers by name. -/
structure Registry (δ : Type) where
  drivers : SortedMap String (CachedDriver δ) := SortedMap.empty

namespace Registry

variable {δ : Type}

instance : Inhabited (Registry δ) := ⟨{}⟩

/-- Register a driver under a name that is not taken. -/
def register (registry : Registry δ) (name : String) (driver : δ) :
    Except RegistryError (Registry δ) :=
  if name = "" then .error .emptyName
  else if registry.drivers.contains name then .error (.duplicate name)
  else .ok ⟨registry.drivers.insert name { driver := driver }⟩

/-- Register drivers one after another. What was registered before a failure stays registered. -/
def registerAll (registry : Registry δ) : List (String × δ) → Registry δ × Except RegistryError Unit
  | [] => (registry, .ok ())
  | (name, driver) :: rest =>
    match registry.register name driver with
    | .ok registry => registry.registerAll rest
    | .error error => (registry, .error error)

/-- The driver of a name. -/
def get (registry : Registry δ) (name : String) : Option (CachedDriver δ) :=
  registry.drivers.get? name

/-- The names of all drivers in order. -/
def list (registry : Registry δ) : List String := registry.drivers.keys

/-- The registry with a new state of one driver. -/
def set (registry : Registry δ) (name : String) (cached : CachedDriver δ) : Registry δ :=
  ⟨registry.drivers.insert name cached⟩

/-- Hand a configuration to the driver of a name. -/
def configure [Driver δ] (registry : Registry δ) (name : String) (configuration : Json) :
    Except RegistryError (Registry δ) :=
  match registry.get name with
  | none => .error (.unknown name)
  | some cached =>
    match cached.configure configuration with
    | .ok cached => .ok (registry.set name cached)
    | .error error => .error (.config name error)

end Registry

end AvControl

import AvControl.Virtual.Configuration
import AvControl.Virtual.Display
import AvControl.Virtual.Dsp
import AvControl.Virtual.Switcher

/-!
# Virtual drivers

A virtual driver plays all devices of one model. Opening a device and every call of it take one
round trip, whose length is the one that was configured when the opening began; a request context
that ends first breaks it off. Addresses under the reserved domain `invalid` are never reached.
-/

namespace AvControl.Virtual

/-- The models of virtual devices. -/
inductive Model
  | display
  | switcher
  | dsp
deriving DecidableEq, Repr

/-- The state of a virtual device. -/
inductive Hardware
  | display (state : Display)
  | switcher (state : Switcher)
  | dsp (state : Dsp)
deriving DecidableEq, Repr

namespace Model

/-- All models in the order in which their drivers are registered. -/
def all : List Model := [display, switcher, dsp]

/-- The name of the driver of a model. -/
def driverName : Model → String
  | display => "virtual-display"
  | switcher => "virtual-switcher"
  | dsp => "virtual-dsp"

/-- A device of a model as it comes out of the box. -/
def fresh : Model → Hardware
  | display => .display {}
  | switcher => .switcher {}
  | dsp => .dsp {}

/-- The handle of a device of a model. -/
def handle : Model → Handle
  | display => ⟨Display.capabilities⟩
  | switcher => ⟨Switcher.capabilities⟩
  | dsp => ⟨Dsp.capabilities⟩

end Model

namespace Hardware

/-- Obey one command. -/
def perform (hardware : Hardware) (address : String) (command : Command) :
    Except DriverError (Hardware × command.Result) :=
  match hardware with
  | display state => (state.perform address command).map fun done => (display done.1, done.2)
  | switcher state => (state.perform address command).map fun done => (switcher done.1, done.2)
  | dsp state => (state.perform address command).map fun done => (dsp done.1, done.2)

end Hardware

/-- The connection to one address. -/
inductive Link
  | dialing (latency : Nat)
  | connected (latency : Nat) (hardware : Hardware)
deriving DecidableEq, Repr

namespace Link

/-- How long a round trip over the connection takes. -/
def latency : Link → Nat
  | dialing latency | connected latency _ => latency

end Link

end Virtual

/-- A driver that plays devices of one model. -/
structure VirtualDriver where
  model : Virtual.Model
  /-- The round trip of the devices that are opened from now on. -/
  latency : Nat := 0
  links : SortedMap String Virtual.Link := SortedMap.empty
deriving DecidableEq, Repr

namespace VirtualDriver

open Virtual

/-- Whether an address lies under the domain that is never reached. -/
def unreachable (address : String) : Bool := address.endsWith ".invalid"

/-- How the driver goes about a round trip. -/
def roundTrip (latency : Nat) : Reaction := { wait := .ms latency, heedsContext := true }

/-- The round trip of the connection to an address. -/
def latencyAt (driver : VirtualDriver) (address : String) : Nat :=
  match driver.links.get? address with
  | some link => link.latency
  | none => driver.latency

/-- The driver with another state of one connection. -/
def setLink (driver : VirtualDriver) (address : String) (link : Link) : VirtualDriver :=
  { driver with links := driver.links.insert address link }

/-- Connect a new device to an address. -/
def connect (driver : VirtualDriver) (address : String) : VirtualDriver × Reply Handle :=
  if unreachable address then
    (driver, .error { message := "dial " ++ address ++ ": no such host" })
  else
    (driver.setLink address (.connected (driver.latencyAt address) driver.model.fresh),
      .ok driver.model.handle)

/-- Have the device at an address obey a command. -/
def perform (driver : VirtualDriver) (address : String) (command : Command) :
    VirtualDriver × Reply command.Result :=
  match driver.links.get? address with
  | some (.connected latency hardware) =>
    match hardware.perform address command with
    | .ok (hardware, result) =>
      (driver.setLink address (.connected latency hardware), .ok result)
    | .error error => (driver, .error error)
  | _ => (driver, .error notOffered)

instance : Driver VirtualDriver where
  configure driver configuration :=
    (readConfiguration configuration).map fun latency => { driver with latency }
  beginOpen driver address :=
    (driver.setLink address (.dialing driver.latency), roundTrip driver.latency)
  finishOpen := connect
  beginCall driver address _ := (driver, roundTrip (driver.latencyAt address))
  finishCall := perform

/-- A driver for each model under its usual name, in the order of registration. -/
def all : List (String × VirtualDriver) :=
  Model.all.map fun model => (model.driverName, { model := model })

end VirtualDriver

end AvControl

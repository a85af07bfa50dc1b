import AvControl.Driver.Registry
import AvControl.RoomStore
import AvControl.Settings.Basic
import AvControl.Virtual.Driver

/-!
# Startup

A server starts with the virtual drivers, each told what the settings have for it, and with the
rooms of the settings. It does not start when settings are for a driver that is not there, when a
driver refuses what it is told, or when a room is malformed; drivers are looked at first.
-/

namespace AvControl

/-- Why a server does not start. -/
inductive StartupError
  | settings (error : SettingsError)
  | registry (error : RegistryError)
deriving DecidableEq, Repr

namespace Settings

/-- The virtual drivers, told what the settings have for them. -/
def registry (settings : Settings) : Except RegistryError (Registry VirtualDriver) := do
  let (registry, registered) := Registry.registerAll {} VirtualDriver.all
  registered
  settings.drivers.entries.foldlM
    (fun registry entry => registry.configure entry.1 entry.2) registry

/-- What a server works with: its drivers and its rooms. -/
def startup (settings : Settings) : Except StartupError (Registry VirtualDriver × RoomStore) := do
  let registry ← settings.registry.mapError .registry
  let rooms ← settings.roomConfigs.mapError .settings
  pure (registry, RoomStore.ofRooms rooms)

end Settings

end AvControl

import AvControl.Proofs.Driver.Registry
import AvControl.Proofs.Settings.Rooms
import AvControl.Proofs.Virtual.Configuration
import AvControl.Settings.Startup

/-!
# The rooms that a server serves

The rooms of the settings are the rooms that are served: each table becomes one room, found under
its key, or the first table that is not well given keeps the server from starting. Once the settings
are found valid, only what they tell the drivers can keep it from starting.
-/

namespace AvControl

open Virtual

namespace RoomSection

theorem exists_room_iff {table : RoomSection} {key : String} :
    (∃ room, table.room key = .ok room) ↔ table.WellGiven key := by
  constructor
  · rintro ⟨room, isRoom⟩
    exact (room_eq_ok.1 isRoom).1
  · exact fun wellGiven => ⟨_, room_of_wellGiven wellGiven⟩

end RoomSection

namespace Settings

/-- All tables are well given. -/
def WellGiven (settings : Settings) : Prop :=
  ∀ key table, settings.rooms.get? key = some table → table.WellGiven key

/-- The rooms that the settings describe, in the order of their keys. -/
def described (settings : Settings) : List RoomConfig :=
  settings.rooms.entries.map fun entry => entry.2.described entry.1

/-- What is reported about the first table that is not well given. -/
def Fault (settings : Settings) (error : SettingsError) : Prop :=
  ∃ key table, settings.rooms.IsFirst (fun key table => ¬table.WellGiven key) key table ∧
    table.Fault key error

theorem eq_described {settings : Settings} {rooms : List RoomConfig}
    (isOk : settings.roomConfigs = .ok rooms) :
    settings.WellGiven ∧ rooms = settings.described := by
  have pairs := forall₂_of_mapM isOk
  constructor
  · intro key table isTable
    rcases mem_left_of_forall₂ pairs (SortedMap.mem_entries_iff.2 isTable) with ⟨room, -, isRoom⟩
    exact (RoomSection.room_eq_ok.1 isRoom).1
  · rw [described, ← List.map_id rooms]
    exact map_eq_of_forall₂ (pairs.imp fun entry room isRoom => (RoomSection.room_eq_ok.1 isRoom).2)

theorem roomConfigs_eq_ok {settings : Settings} {rooms : List RoomConfig} :
    settings.roomConfigs = .ok rooms ↔ settings.WellGiven ∧ rooms = settings.described := by
  constructor
  · exact eq_described
  · rintro ⟨wellGiven, rfl⟩
    have all : ∀ entry ∈ settings.rooms.entries, ∃ room, entry.2.room entry.1 = .ok room := by
      intro entry isEntry
      apply RoomSection.exists_room_iff.2
      exact wellGiven _ _ (SortedMap.mem_entries_iff.1 isEntry)
    rcases exists_mapM all with ⟨rooms, isOk⟩
    exact (eq_described isOk).2 ▸ isOk

theorem roomConfigs_eq_error {settings : Settings} {error : SettingsError} :
    settings.roomConfigs = .error error ↔ settings.Fault error := by
  simp only [roomConfigs, mapM_eq_error_iff, Fault, SortedMap.isFirst_iff,
    RoomSection.exists_room_iff, RoomSection.room_eq_error, not_not]
  constructor
  · rintro ⟨front, ⟨key, table⟩, back, split, earlier, fault⟩
    refine ⟨key, table, ⟨front, back, split, earlier, fun wellGiven => ?_⟩, fault⟩
    cases (RoomSection.room_of_fault fault).symm.trans (RoomSection.room_of_wellGiven wellGiven)
  · rintro ⟨key, table, ⟨front, back, split, earlier, -⟩, fault⟩
    exact ⟨front, (key, table), back, split, earlier, fault⟩

/-! ### The store -/

/-- The described rooms are stored side by side, each under its identifier. -/
theorem entries_ofRooms_described (settings : Settings) :
    (RoomStore.ofRooms settings.described).rooms.entries =
      settings.rooms.entries.map fun entry => (⟨entry.1⟩, entry.2.described entry.1) := by
  have sorted : (settings.rooms.entries.map fun entry =>
      ((⟨entry.1⟩ : RoomId), entry.2.described entry.1)).Pairwise fun a b => a.1 < b.1 :=
    List.pairwise_map.2 settings.rooms.sorted
  rw [← SortedMap.entries_ofList sorted, RoomStore.ofRooms, described, List.map_map]
  rfl

theorem get?_ofRooms_described (settings : Settings) (id : RoomId) :
    (RoomStore.ofRooms settings.described).rooms.get? id =
      (settings.rooms.get? id.text).map fun table => table.described id.text := by
  apply Option.ext
  intro room
  rw [← SortedMap.mem_entries_iff, entries_ofRooms_described, List.mem_map, Option.map_eq_some_iff]
  constructor
  · rintro ⟨⟨key, table⟩, isEntry, same⟩
    obtain ⟨rfl, rfl⟩ := Prod.mk.inj same
    exact ⟨table, SortedMap.mem_entries_iff.1 isEntry, rfl⟩
  · rintro ⟨table, isTable, rfl⟩
    exact ⟨(id.text, table), SortedMap.mem_entries_iff.2 isTable, rfl⟩

/-! ### The drivers -/

/-- What is reported about what a driver is told. -/
inductive DriverFault (settings : Settings) : RegistryError → Prop
  | unknown {name : String} {configuration : Json}
      (isTold : settings.drivers.get? name = some configuration)
      (unknown : ∀ model : Model, name ≠ model.driverName) :
    DriverFault settings (.unknown name)
  | refused {model : Model} {configuration : Json} {error : DriverError}
      (isTold : settings.drivers.get? model.driverName = some configuration)
      (refuses : readConfiguration configuration = .error error) :
    DriverFault settings (.config model.driverName error)

/-- There is a driver for every model, and there is no other one. -/
def Stocked (registry : Registry VirtualDriver) : Prop :=
  ∀ name, (registry.get name).isSome ↔ ∃ model : Model, name = model.driverName

theorem stocked_registerAll : Stocked (Registry.registerAll {} VirtualDriver.all).1 := by
  intro name
  constructor
  · intro registered
    by_contra unknown
    have others (model : Model) : name ≠ model.driverName := fun same => unknown ⟨model, same⟩
    have display : name ≠ "virtual-display" := others .display
    have switcher : name ≠ "virtual-switcher" := others .switcher
    have dsp : name ≠ "virtual-dsp" := others .dsp
    simp [VirtualDriver.all, Model.all, Registry.registerAll, Registry.register, Registry.get,
      SortedMap.contains, Model.driverName, display, switcher, dsp] at registered
  · rintro ⟨model, rfl⟩
    cases model <;> rfl

theorem Stocked.configure {registry registry' : Registry VirtualDriver} {name : String}
    {configuration : Json} (stocked : Stocked registry)
    (configured : registry.configure name configuration = .ok registry') : Stocked registry' := by
  rcases Registry.configure_eq_ok configured with ⟨cached, cached', found, -, rfl⟩
  intro other
  rw [Registry.get_set, ← stocked other]
  split
  · rename_i same
    simp [same, found]
  · rfl

theorem Stocked.refuses {registry : Registry VirtualDriver} {name : String} {configuration : Json}
    {error : RegistryError} {settings : Settings} (stocked : Stocked registry)
    (isTold : settings.drivers.get? name = some configuration)
    (configured : registry.configure name configuration = .error error) :
    settings.DriverFault error := by
  cases Registry.refuses_of_configure configured with
  | missing missing =>
      refine .unknown isTold fun model same => ?_
      have registered := (stocked name).2 ⟨model, same⟩
      simp [missing] at registered
  | refused found refused =>
      rcases (stocked name).1 (by simp [found]) with ⟨model, rfl⟩
      exact .refused isTold (VirtualDriver.configure_eq_error.1 refused)

/-- Drivers are told one thing after another, until one of them is missing or refuses. -/
theorem fault_of_foldlM {settings : Settings} {error : RegistryError}
    {entries : List (String × Json)} (told : ∀ entry ∈ entries, entry ∈ settings.drivers.entries) :
    ∀ {registry : Registry VirtualDriver}, Stocked registry →
      entries.foldlM (fun registry entry => registry.configure entry.1 entry.2) registry =
        .error error → settings.DriverFault error := by
  induction entries with
  | nil =>
      intro registry stocked failed
      cases failed
  | cons head rest ih =>
      intro registry stocked failed
      rcases List.forall_mem_cons.1 told with ⟨headTold, restTold⟩
      rw [List.foldlM_cons] at failed
      cases configured : registry.configure head.1 head.2 with
      | error error' =>
          have fault := stocked.refuses (SortedMap.mem_entries_iff.1 headTold) configured
          rw [configured] at failed
          exact Except.error.inj failed ▸ fault
      | ok registry' =>
          rw [configured] at failed
          exact ih restTold (stocked.configure configured) failed

theorem fault_of_registry {settings : Settings} {error : RegistryError}
    (failed : settings.registry = .error error) : settings.DriverFault error :=
  fault_of_foldlM (fun _ isEntry => isEntry) stocked_registerAll failed

/-! ### The start -/

theorem startup_eq (settings : Settings) :
    settings.startup =
      match settings.registry, settings.roomConfigs with
      | .error error, _ => .error (.registry error)
      | .ok _, .error error => .error (.settings error)
      | .ok registry, .ok rooms => .ok (registry, RoomStore.ofRooms rooms) := by
  rw [startup]
  cases settings.registry <;> cases settings.roomConfigs <;> rfl

theorem wellGiven_of_validate {settings : Settings} (valid : settings.validate = .ok ()) :
    settings.WellGiven := by
  simp only [validate] at valid
  split at valid
  · cases valid
  · split at valid
    · cases valid
    · cases found : settings.roomConfigs with
      | error error => simp [found, Except.map] at valid
      | ok rooms => exact (eq_described found).1

/-- The rooms that are served are those of the settings. -/
structure ServesRooms (settings : Settings) : Prop where
  accepted : (∃ rooms, settings.roomConfigs = .ok rooms) ↔ settings.WellGiven
  /-- There is one room for each table, in the order of the keys. -/
  yielded : ∀ rooms, settings.roomConfigs = .ok rooms →
    rooms = settings.rooms.entries.map fun entry => entry.2.described entry.1
  /-- No room is lost, and no two rooms become one. -/
  stored : ∀ rooms, settings.roomConfigs = .ok rooms →
    (RoomStore.ofRooms rooms).rooms.entries = rooms.map fun room => (room.id, room)
  found : ∀ rooms, settings.roomConfigs = .ok rooms → ∀ id table,
    settings.rooms.get? id = some table →
      (RoomStore.ofRooms rooms).find ⟨id⟩ = .ok (table.described id)
  missing : ∀ rooms, settings.roomConfigs = .ok rooms → ∀ id,
    settings.rooms.get? id = none →
      (RoomStore.ofRooms rooms).find ⟨id⟩ = .error (.notFound "Room" id)
  refused : ∀ error, settings.roomConfigs = .error error ↔ settings.Fault error
  /-- What is looked after is the store of these rooms. -/
  started : ∀ registry store, settings.startup = .ok (registry, store) →
    ∃ rooms, settings.roomConfigs = .ok rooms ∧ store = RoomStore.ofRooms rooms
  /-- Once the settings are valid, only what drivers are told keeps the server from starting. -/
  kept : settings.validate = .ok () → ∀ error, settings.startup = .error error →
    ∃ fault, settings.DriverFault fault ∧ error = .registry fault

theorem serves_configured_rooms (settings : Settings) : settings.ServesRooms where
  accepted := by
    constructor
    · rintro ⟨rooms, isOk⟩
      exact (eq_described isOk).1
    · exact fun wellGiven => ⟨_, roomConfigs_eq_ok.2 ⟨wellGiven, rfl⟩⟩
  yielded rooms isOk := (eq_described isOk).2
  stored rooms isOk := by
    obtain ⟨-, rfl⟩ := eq_described isOk
    rw [entries_ofRooms_described, described, List.map_map]
    rfl
  found rooms isOk id table isTable := by
    obtain ⟨-, rfl⟩ := eq_described isOk
    simp only [RoomStore.find, get?_ofRooms_described, isTable, Option.map_some]
  missing rooms isOk id nothing := by
    obtain ⟨-, rfl⟩ := eq_described isOk
    simp only [RoomStore.find, get?_ofRooms_described, nothing, Option.map_none]
  refused error := roomConfigs_eq_error
  started registry store isOk := by
    rw [startup_eq] at isOk
    split at isOk
    · cases isOk
    · cases isOk
    · rename_i rooms _ found
      obtain ⟨-, rfl⟩ := Prod.mk.inj (Except.ok.inj isOk)
      exact ⟨rooms, found, rfl⟩
  kept valid error failed := by
    have found := roomConfigs_eq_ok.2 ⟨wellGiven_of_validate valid, rfl⟩
    rw [startup_eq, found] at failed
    cases registered : settings.registry with
    | error fault =>
        rw [registered] at failed
        exact ⟨fault, fault_of_registry registered, (Except.error.inj failed).symm⟩
    | ok registry =>
        rw [registered] at failed
        cases failed

end Settings

end AvControl

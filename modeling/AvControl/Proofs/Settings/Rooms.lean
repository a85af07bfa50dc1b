import AvControl.Proofs.Identifier
import AvControl.Proofs.Lists
import AvControl.Proofs.SortedMap
import AvControl.Settings.Basic

/-!
# Rooms out of tables

A table becomes a room when it is well given: it does not contradict its key, the key names a
building and a room, and every device has a name, a driver and an address. Otherwise it has exactly
one fault that is reported. The faults are ordered: a table is only blamed for one of its devices
when there is nothing wrong with its key, and only the first incomplete device is ever blamed.
-/

namespace AvControl

/-- A device without a driver or without an address. -/
def DeviceConfig.Incomplete (config : DeviceConfig) : Prop :=
  config.driver = "" ∨ config.address = ""

namespace RoomSection

/-- The identifier in a table is its key, if there is one in it. -/
def Agrees (table : RoomSection) (key : String) : Prop :=
  ∀ explicit, table.id = some explicit → explicit = key

/-- Nothing is wrong with a table under its key. -/
structure WellGiven (table : RoomSection) (key : String) : Prop where
  agrees : table.Agrees key
  named : ∃ building room, RoomId.Names key building room
  complete : ∀ device config, table.devices.get? device = some config →
    device ≠ "" ∧ config.driver ≠ "" ∧ config.address ≠ ""

/-- The room that a table under its key describes. -/
def described (table : RoomSection) (key : String) : RoomConfig where
  id := ⟨key⟩
  proxy := table.proxy
  devices := ⟨table.devices.entries.map fun device => (⟨device.1⟩, device.2),
    List.pairwise_map.2 table.devices.sorted⟩

/-- What is reported about a table under its key. -/
inductive Fault (table : RoomSection) (key : String) : SettingsError → Prop
  | contradicted {explicit : String} (isGiven : table.id = some explicit)
      (differs : explicit ≠ key) :
    Fault table key (.validation ("rooms." ++ key ++ ": id " ++ Text.quoted explicit ++
      " does not match the table key"))
  | malformed (agrees : table.Agrees key)
      (unnamed : ¬∃ building room, RoomId.Names key building room) :
    Fault table key (.room key (.validation (.malformedRoomId key)))
  | nameless (agrees : table.Agrees key) (named : ∃ building room, RoomId.Names key building room)
      {config : DeviceConfig} (isDevice : table.devices.get? "" = some config) :
    Fault table key (.room key (.validation .emptyDeviceId))
  | driverless (agrees : table.Agrees key)
      (named : ∃ building room, RoomId.Names key building room)
      (allNamed : table.devices.get? "" = none) {device : String} {config : DeviceConfig}
      (first : table.devices.IsFirst (fun _ config => config.Incomplete) device config)
      (driverless : config.driver = "") :
    Fault table key (.room key (.validation (.emptyDriver ⟨device⟩)))
  | unaddressed (agrees : table.Agrees key)
      (named : ∃ building room, RoomId.Names key building room)
      (allNamed : table.devices.get? "" = none) {device : String} {config : DeviceConfig}
      (first : table.devices.IsFirst (fun _ config => config.Incomplete) device config)
      (driven : config.driver ≠ "") :
    Fault table key (.room key (.validation (.emptyAddress ⟨device⟩)))

theorem wellGiven_or_fault (table : RoomSection) (key : String) :
    table.WellGiven key ∨ ∃ error, table.Fault key error := by
  by_cases agrees : table.Agrees key
  · by_cases named : ∃ building room, RoomId.Names key building room
    · cases nameless : table.devices.get? "" with
      | some config => exact Or.inr ⟨_, .nameless agrees named nameless⟩
      | none =>
          by_cases incomplete : ∃ device config, table.devices.get? device = some config ∧
            config.Incomplete
          · rcases incomplete with ⟨device, config, isDevice, isIncomplete⟩
            rcases SortedMap.exists_isFirst (fun _ config => config.Incomplete) isDevice
              isIncomplete with ⟨device', config', first⟩
            right
            by_cases driverless : config'.driver = ""
            · exact ⟨_, .driverless agrees named nameless first driverless⟩
            · exact ⟨_, .unaddressed agrees named nameless first driverless⟩
          · refine Or.inl ⟨agrees, named, fun device config isDevice => ⟨?_, ?_, ?_⟩⟩
            · rintro rfl
              cases nameless.symm.trans isDevice
            · exact fun driverless => incomplete ⟨device, config, isDevice, Or.inl driverless⟩
            · exact fun unaddressed => incomplete ⟨device, config, isDevice, Or.inr unaddressed⟩
    · exact Or.inr ⟨_, .malformed agrees named⟩
  · rcases not_forall.1 agrees with ⟨explicit, contradicts⟩
    rcases Classical.not_imp.1 contradicts with ⟨isGiven, differs⟩
    exact Or.inr ⟨_, .contradicted isGiven differs⟩

theorem room_of_agrees {table : RoomSection} {key : String} (agrees : table.Agrees key) :
    table.room key = (table.build key).mapError (.room key) := by
  unfold room
  split
  · rename_i explicit isGiven
    rw [if_pos (agrees explicit isGiven)]
  · rfl

theorem namedDevices_cons (device : String × DeviceConfig)
    (rest : List (String × DeviceConfig)) :
    namedDevices (device :: rest) =
      if device.1 = "" then .error .emptyDeviceId
      else (namedDevices rest).map fun named => (⟨device.1⟩, device.2) :: named := by
  simp only [namedDevices, List.mapM_cons, DeviceId.parse, String.isEmpty_iff]
  split
  · rfl
  · simp only [bind, Except.bind, pure, Except.pure, Except.map]

theorem namedDevices_eq {devices : List (String × DeviceConfig)}
    (named : ∀ device ∈ devices, device.1 ≠ "") :
    namedDevices devices = .ok (devices.map fun device => (⟨device.1⟩, device.2)) := by
  induction devices with
  | nil => rfl
  | cons head rest ih =>
      rcases List.forall_mem_cons.1 named with ⟨headNamed, restNamed⟩
      rw [namedDevices_cons, if_neg headNamed, ih restNamed]
      rfl

theorem namedDevices_error {devices : List (String × DeviceConfig)} {config : DeviceConfig}
    (nameless : ("", config) ∈ devices) : namedDevices devices = .error .emptyDeviceId := by
  induction devices with
  | nil => cases nameless
  | cons head rest ih =>
      rw [namedDevices_cons]
      split
      · rfl
      · rename_i headNamed
        rcases List.mem_cons.1 nameless with rfl | inRest
        · exact absurd rfl headNamed
        · rw [ih inRest]
          rfl

/-- What is wrong with the devices of a table that all have names. -/
def deviceFault? (table : RoomSection) : Option ValidationError :=
  table.devices.entries.findSome? fun device => RoomConfig.deviceFault? ⟨device.1⟩ device.2

theorem build_of_named {table : RoomSection} {key : String}
    (named : ∃ building room, RoomId.Names key building room)
    (allNamed : table.devices.get? "" = none) :
    table.build key = match table.deviceFault? with
      | some fault => .error (.validation fault)
      | none => .ok (table.described key) := by
  have named' : ∀ device ∈ table.devices.entries, device.1 ≠ "" := by
    rintro ⟨device, config⟩ isDevice rfl
    cases allNamed.symm.trans (SortedMap.mem_entries_iff.1 isDevice)
  have devices : SortedMap.ofList (table.devices.entries.map fun device =>
      ((⟨device.1⟩ : DeviceId), device.2)) = (table.described key).devices :=
    SortedMap.ext (SortedMap.entries_ofList (table.described key).devices.sorted)
  have sameFault : (table.described key).fault? = table.deviceFault? := List.findSome?_map
  simp only [build, RoomId.parse_of_named named, namedDevices_eq named', RoomConfig.build, devices]
  change (do (table.described key).validate; pure (table.described key)) = _
  rw [RoomConfig.validate, sameFault]
  cases table.deviceFault? <;> rfl

theorem deviceFault?_eq_none {device : DeviceId} {config : DeviceConfig} :
    RoomConfig.deviceFault? device config = none ↔ ¬config.Incomplete := by
  by_cases driverless : config.driver = "" <;> by_cases unaddressed : config.address = "" <;>
    simp [RoomConfig.deviceFault?, DeviceConfig.Incomplete, driverless, unaddressed]

/-- A table is blamed for its first incomplete device. -/
theorem deviceFault?_of_first {table : RoomSection} {device : String} {config : DeviceConfig}
    (first : table.devices.IsFirst (fun _ config => config.Incomplete) device config) :
    table.deviceFault? =
      some (if config.driver = "" then .emptyDriver ⟨device⟩ else .emptyAddress ⟨device⟩) := by
  rcases SortedMap.isFirst_iff.1 first with ⟨front, back, split, earlier, incomplete⟩
  apply List.findSome?_eq_some_iff.2
  refine ⟨front, (device, config), back, split, ?_, fun entry isBefore => ?_⟩
  · by_cases driverless : config.driver = ""
    · simp [RoomConfig.deviceFault?, driverless]
    · have unaddressed := incomplete.resolve_left driverless
      simp [RoomConfig.deviceFault?, driverless, unaddressed]
  · exact deviceFault?_eq_none.2 (earlier entry isBefore)

theorem room_of_wellGiven {table : RoomSection} {key : String} (wellGiven : table.WellGiven key) :
    table.room key = .ok (table.described key) := by
  have allNamed : table.devices.get? "" = none := by
    by_contra nameless
    rcases Option.ne_none_iff_exists'.1 nameless with ⟨config, isDevice⟩
    exact (wellGiven.complete "" config isDevice).1 rfl
  have faultless : table.deviceFault? = none := by
    apply List.findSome?_eq_none_iff.2
    intro entry isEntry
    have complete := wellGiven.complete _ _ (SortedMap.mem_entries_iff.1 isEntry)
    exact deviceFault?_eq_none.2 fun incomplete => incomplete.elim complete.2.1 complete.2.2
  rw [room_of_agrees wellGiven.agrees, build_of_named wellGiven.named allNamed, faultless]
  rfl

/-- A table with a fault becomes no room, and the fault is what is reported. -/
theorem room_of_fault {table : RoomSection} {key : String} {error : SettingsError}
    (fault : table.Fault key error) : table.room key = .error error := by
  cases fault with
  | contradicted isGiven differs => simp only [room, isGiven, if_neg differs]
  | malformed agrees unnamed =>
      rw [room_of_agrees agrees, build, RoomId.parse_of_unnamed unnamed]
      rfl
  | nameless agrees named isDevice =>
      have refused := namedDevices_error (SortedMap.mem_entries_iff.2 isDevice)
      rw [room_of_agrees agrees, build, RoomId.parse_of_named named]
      simp only [refused]
      rfl
  | driverless agrees named allNamed first driverless =>
      rw [room_of_agrees agrees, build_of_named named allNamed, deviceFault?_of_first first,
        if_pos driverless]
      rfl
  | unaddressed agrees named allNamed first driven =>
      rw [room_of_agrees agrees, build_of_named named allNamed, deviceFault?_of_first first,
        if_neg driven]
      rfl

theorem room_eq_ok {table : RoomSection} {key : String} {room : RoomConfig} :
    table.room key = .ok room ↔ table.WellGiven key ∧ room = table.described key := by
  constructor
  · intro isRoom
    rcases table.wellGiven_or_fault key with wellGiven | ⟨error, fault⟩
    · exact ⟨wellGiven, Except.ok.inj (isRoom.symm.trans (room_of_wellGiven wellGiven))⟩
    · cases isRoom.symm.trans (room_of_fault fault)
  · rintro ⟨wellGiven, rfl⟩
    exact room_of_wellGiven wellGiven

theorem room_eq_error {table : RoomSection} {key : String} {error : SettingsError} :
    table.room key = .error error ↔ table.Fault key error := by
  constructor
  · intro refused
    rcases table.wellGiven_or_fault key with wellGiven | ⟨error', fault⟩
    · cases refused.symm.trans (room_of_wellGiven wellGiven)
    · exact Except.error.inj ((room_of_fault fault).symm.trans refused) ▸ fault
  · exact room_of_fault

end RoomSection

end AvControl

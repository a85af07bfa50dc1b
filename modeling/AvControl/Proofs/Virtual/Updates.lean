import AvControl.Proofs.Engine.Gathering
import AvControl.Proofs.Engine.Recording
import AvControl.Proofs.Virtual.World

/-!
# Updates are neither lost nor invented

Any number of requests may set states of the same virtual devices at the same time. A device writes
down when it has obeyed a write, so what it has been set to is on record from the first write to the
last. Whatever the requests get in each other's way, every field is set to what was last written to
it, or to what it was set to at the beginning, and what was ever written is just what the answers
echo. Writes to other fields have no part in it.
-/

namespace AvControl

open Relation Virtual

/-- What a deed sets a field of the device at an address to, if it does. -/
def Deed.write? (deed : Deed) (address : String) (field : Field) : Option Setting :=
  match deed with
  | .finishCall there command .ok =>
    if there = address ∧ command.field = field then command.setting? else none
  | _ => none

theorem Deed.write?_of_beat {deed : Deed} (opening : deed.beat? = none) (address : String)
    (field : Field) : deed.write? address field = none := by
  cases deed with
  | beginOpen | finishOpen => rfl
  | beginCall | finishCall => cases opening

/-- What a task sets a field of the device at an address to when it is done with a command. -/
def Task.gain? (task : Task) (deal : Option Deal) (driver address : String) (field : Field) :
    Option Setting :=
  if (task.config.driver, task.config.address) = (driver, address) then
    (deal.bind Deal.finding?).bind fun finding => finding.write? field
  else none

namespace World

/-! ### The record of what is written -/

section Records

variable {δ : Type}

/-- What a field of the device at an address was set to, one after another. -/
def writes (world : World (Recorded δ)) (driver address : String) (field : Field) :
    List Setting :=
  (world.deeds driver).filterMap fun deed => deed.write? address field

theorem deeds_congr {before after : World (Recorded δ)} {driver : String}
    (same : after.registry.get driver = before.registry.get driver) :
    after.deeds driver = before.deeds driver := by rw [deeds, deeds, same]

theorem writes_of_onlyOpens {before after : World (Recorded δ)} {driver : String}
    (opens : OnlyOpens (before.deeds driver) (after.deeds driver)) (address : String)
    (field : Field) : after.writes driver address field = before.writes driver address field := by
  rcases opens with ⟨openings, same, areOpenings⟩
  have nothing : openings.filterMap (fun deed => deed.write? address field) = [] :=
    List.filterMap_eq_nil_iff.2 fun deed member =>
      Deed.write?_of_beat (areOpenings deed member) address field
  rw [writes, same, List.filterMap_append, nothing, List.append_nil]
  rfl

theorem writes_recorded (world : World δ) (driver address : String) (field : Field) :
    world.recorded.writes driver address field = [] := by
  have fresh : world.recorded.deeds driver = [] := by
    simp only [deeds, recorded, Registry.get, SortedMap.get?_mapValues]
    cases world.registry.drivers.get? driver <;> rfl
  rw [writes, fresh]
  rfl

variable [Driver δ]

theorem writes_lookAfter (world : World (Recorded δ)) (name place : String)
    (context : RequestContext) (caller : Caller) (driver address : String) (field : Field) :
    (world.lookAfter name place context caller).1.writes driver address field =
      world.writes driver address field := by
  by_cases same : driver = name
  · exact writes_of_onlyOpens (same ▸ world.opens_lookAfter name place context caller) _ _
  · have untouched : ((world.lookAfter name place context caller).1.registry.get driver) =
        world.registry.get driver := by
      cases found : world.registry.get name with
      | none => rw [lookAfter_missing found]
      | some cached =>
          rcases lookAfter_eq found place context caller with ⟨journal, tickets, isAfter⟩
          rw [isAfter]
          exact get_set_ne _ same
    rw [writes, deeds_congr untouched]
    rfl

theorem writes_beginCall (world : World (Recorded δ)) (config : DeviceConfig)
    (context : RequestContext) (command : Command) (driver address : String) (field : Field) :
    (world.beginCall config context command).1.writes driver address field =
      world.writes driver address field := by
  cases found : world.registry.get config.driver with
  | none => simp only [beginCall, found]
  | some cached =>
      by_cases same : driver = config.driver
      · subst same
        rcases deeds_beginCall (Option.isSome_of_eq_some found) context command with
          ⟨reaction, added, -⟩
        rw [writes, added, List.filterMap_append]
        exact List.append_nil _
      · have untouched : (world.beginCall config context command).1.registry.get driver =
            world.registry.get driver := by
          simp only [beginCall, found]
          exact get_set_ne _ same
        rw [writes, deeds_congr untouched]
        rfl

theorem writes_finishCall {world world' : World (Recorded δ)} {task : Task} {deal : Deal}
    (done : world.finishCall task.config deal.command = (world', .done deal.result))
    (driver address : String) (field : Field) : world'.writes driver address field =
      world.writes driver address field ++
        (task.gain? (some deal) driver address field).toList := by
  cases found : world.registry.get task.config.driver with
  | none =>
      rw [finishCall_missing found] at done
      cases done
  | some cached =>
      rw [finishCall_eq found, Prod.mk.injEq] at done
      rcases done with ⟨rfl, isVerdict⟩
      by_cases same : driver = task.config.driver
      · subst same
        rw [writes, deeds_of_set rfl, writes, deeds_eq found]
        refine List.filterMap_append.trans (congrArg _ ?_)
        rcases deal with ⟨command, result⟩
        change List.filterMap _ [Deed.finishCall task.config.address command
          (Driver.finishCall cached.driver task.config.address command).2.kind] = _
        simp only at isVerdict
        generalize (Driver.finishCall cached.driver task.config.address command).2 = reply
          at isVerdict
        cases reply with
        | crash => cases isVerdict
        | error error =>
            obtain rfl := Verdict.done.inj isVerdict
            simp [Deed.write?, Reply.kind, Task.gain?, Deal.finding?]
        | ok value =>
            obtain rfl := Verdict.done.inj isVerdict
            simp only [Deed.write?, Reply.kind, Task.gain?, Deal.finding?, Option.bind_some,
              Finding.write?, List.filterMap_cons, List.filterMap_nil]
            by_cases here : task.config.address = address <;>
              by_cases sets : command.field = field <;> simp [here, sets]
            cases command.setting? <;> rfl
      · have nothing : task.gain? (some deal) driver address field = none :=
          if_neg fun both => same (congrArg Prod.fst both).symm
        rw [nothing, writes, deeds_congr (get_set_ne _ same)]
        exact (List.append_nil _).symm

theorem writes_configure {world : World (Recorded δ)} {name : String} {configuration : Json}
    {registry : Registry (Recorded δ)}
    (configured : world.registry.configure name configuration = .ok registry)
    (driver address : String) (field : Field) :
    ({ world with registry } : World (Recorded δ)).writes driver address field =
      world.writes driver address field := by
  rcases Registry.configure_eq_ok configured with ⟨cached, cached', found, accepted, rfl⟩
  rcases exists_of_map_eq_ok accepted with ⟨recorded, taken, rfl⟩
  rcases exists_of_map_eq_ok taken with ⟨driver', -, rfl⟩
  by_cases same : driver = name
  · subst same
    rw [writes, deeds_of_set rfl, writes, deeds_eq found]
  · rw [writes, deeds_congr (get_set_ne _ same)]
    rfl

end Records

/-! ### What fields are set to -/

section Settings

variable {δ : Type} [Driver δ] [Enacts δ]

theorem Preserves.setting? {before after : World δ} (preserves : before.Preserves after)
    {driver address : String} (wired : before.WiredAt driver address) (field : Field) :
    after.setting? driver address field = before.setting? driver address field := by
  rw [World.setting?, (preserves driver address wired).2]
  rfl

/-- What a device is set to after it was done with a command. -/
theorem setting?_deal {deal : Deal} {hardware : Hardware} {address : String}
    (same : deal.result = (hardware.deal address deal.command).result) (field : Field) :
    (hardware.after address deal.command).setting? field =
      (deal.finding?.bind fun finding => finding.write? field).or (hardware.setting? field) := by
  rcases deal with ⟨command, result⟩
  obtain rfl : result = (hardware.deal address command).result := same
  change _ = Option.or (((hardware.deal address command).finding?).bind _) _
  cases sets : command.setting? with
  | none =>
      rw [Hardware.setting?_after_read sets]
      cases found : (hardware.deal address command).finding? with
      | none => rfl
      | some finding =>
          have isCommand : finding.command = command := by
            simp only [Deal.finding?] at found
            split at found <;> cases found
            rfl
          simp [Finding.write?, isCommand, sets]
  | some setting =>
      rw [Hardware.setting?_after_write sets]
      cases replied : hardware.reply address command with
      | error error => simp [Hardware.deal, Deal.finding?, replied, Except.toOption]
      | ok result =>
          rw [Hardware.finding?_deal replied]
          by_cases isField : field = command.field <;>
            simp [Finding.write?, sets, isField, eq_comm, Except.toOption]

/-- A write that a device has obeyed shows at once, and nowhere else. -/
theorem setting?_finishCall {world world' : World δ} {task : Task} {deal : Deal}
    (done : world.finishCall task.config deal.command = (world', .done deal.result))
    {driver address : String} (wired : world.WiredAt driver address) (field : Field) :
    world'.setting? driver address field =
      (task.gain? (some deal) driver address field).or
        (world.setting? driver address field) := by
  have ends := world.finishCall_endsCall task.config deal.command
  rw [done] at ends
  generalize isResult : deal.result = result at ends
  cases ends with
  | disconnected found nothing preserves =>
      have failed : deal.finding? = none := by simp [Deal.finding?, isResult]
      rw [preserves.setting? wired, Task.gain?, Option.bind_some, failed]
      simp
  | @connected _ cached hardware found isHardware changes =>
      rw [World.setting?, (changes driver address wired).2, Task.gain?]
      by_cases here : driver = task.config.driver ∧ address = task.config.address
      · rcases here with ⟨rfl, rfl⟩
        have isHere : world.hardwareAt task.config.driver task.config.address = some hardware := by
          rw [hardwareAt_eq found, CachedDriver.hardwareAt, VirtualDriver.hardwareAt, isHardware]
          rfl
        rw [if_pos ⟨rfl, rfl⟩, if_pos rfl, Option.bind_some, setting?_deal isResult,
          World.setting?, isHere]
        rfl
      · rw [if_neg here, if_neg fun both => here ⟨(congrArg Prod.fst both).symm,
          (congrArg Prod.snd both).symm⟩, Option.none_or]
        rfl

theorem wired_recorded {world : World δ} (wired : world.Wired) : world.recorded.Wired := by
  intro driver address cached found
  simp only [recorded, Registry.get, SortedMap.get?_mapValues, Option.map_eq_some_iff] at found
  rcases found with ⟨plain, isPlain, rfl⟩
  have wiredAt := wired driver address plain isPlain
  exact ⟨wiredAt.paired, wiredAt.reached, wiredAt.rooted, wiredAt.waiting⟩

theorem setting?_recorded (world : World δ) (driver address : String) (field : Field) :
    world.recorded.setting? driver address field = world.setting? driver address field := by
  simp only [World.setting?, hardwareAt, recorded, Registry.get, SortedMap.get?_mapValues,
    Option.map_map]
  rfl

end Settings

end World

/-! ### Tasks -/

namespace Task.Does

variable {δ : Type} [Driver δ] {task : Task} {context : RequestContext} {deal : Option Deal}

theorem writes {world world' : World (Recorded δ)} (does : task.Does context world world' deal)
    (driver address : String) (field : Field) : world'.writes driver address field =
      world.writes driver address field ++ (task.gain? deal driver address field).toList := by
  have nothing : task.gain? none driver address field = none := by simp [gain?]
  cases does with
  | rests => rw [nothing, Option.toList_none, List.append_nil]
  | looks caller =>
      rw [nothing, Option.toList_none, List.append_nil]
      exact world.writes_lookAfter _ _ _ _ _ _ _
  | calls command =>
      rw [nothing, Option.toList_none, List.append_nil]
      exact world.writes_beginCall _ _ _ _ _ _
  | finishes done => exact World.writes_finishCall done driver address field

theorem setting? [Enacts δ] {world world' : World δ} (does : task.Does context world world' deal)
    {driver address : String} (wired : world.WiredAt driver address) (field : Field) :
    world'.setting? driver address field =
      (task.gain? deal driver address field).or (world.setting? driver address field) := by
  have nothing : task.gain? none driver address field = none := by simp [gain?]
  cases does with
  | rests => rw [nothing, Option.none_or]
  | looks caller =>
      rw [nothing, Option.none_or]
      exact (world.preserves_lookAfter _ _ _ _).setting? wired field
  | calls command =>
      rw [nothing, Option.none_or]
      exact (world.preserves_beginCall _ _ _).setting? wired field
  | finishes done => exact World.setting?_finishCall done wired field

end Task.Does

/-! ### Runs -/

namespace Run

variable {δ : Type} [Driver δ] [Enacts δ]

/--
What is on record accounts for what fields are set to, compared with how they were at the start, and
for what requests have set.
-/
structure KeepsTrack (start : World δ) (run : Run (Recorded δ)) : Prop where
  wired : run.world.Wired
  inOrder : run.InOrder
  current : ∀ driver address field, run.world.setting? driver address field =
    (run.world.writes driver address field).getLast?.or (start.setting? driver address field)
  gathered : ∀ driver address field setting,
    setting ∈ run.world.writes driver address field ↔ run.Sets driver address field setting

variable {start : World δ} {run next : Run (Recorded δ)}

omit [Driver δ] [Enacts δ] in
theorem not_sets_of_ready {session : Session} {request : RoomRequest} {world : World δ}
    (ready : world.Ready request session) (driver address : String) (field : Field)
    (setting : Setting) : ¬session.Sets driver address field setting := by
  exact Session.not_sets_of_fresh (fun task => ready.fresh) ready.empty

namespace KeepsTrack

theorem quiet (tracks : run.KeepsTrack start) (wired : next.world.Wired) (inOrder : next.InOrder)
    (writes : ∀ driver address field, next.world.writes driver address field =
      run.world.writes driver address field)
    (settings : ∀ driver address field, next.world.setting? driver address field =
      run.world.setting? driver address field)
    (sets : ∀ driver address field setting, next.Sets driver address field setting ↔
      run.Sets driver address field setting) : next.KeepsTrack start := by
  refine ⟨wired, inOrder, fun driver address field => ?_, fun driver address field setting => ?_⟩
  · rw [writes, settings, tracks.current]
  · rw [writes, sets, tracks.gathered]

theorem of_registry (tracks : run.KeepsTrack start) (wired : next.world.Wired)
    (inOrder : next.InOrder) (same : next.world.registry = run.world.registry)
    (sets : ∀ driver address field setting, next.Sets driver address field setting ↔
      run.Sets driver address field setting) : next.KeepsTrack start := by
  refine tracks.quiet wired inOrder (fun driver address field => ?_)
    (fun driver address field => ?_) sets
  · simp only [World.writes, World.deeds, same]
  · simp only [World.setting?, World.hardwareAt, same]

/-- What a task does is on record, shows, and is what its request has set. -/
theorem receive {i j : Nat} {session : Session} {task : Task}
    {result : World (Recorded δ) × Task × Option Outcome} (tracks : run.KeepsTrack start)
    (inOrder : (run.receive i session j result).InOrder)
    (isSession : run.sessions[i]? = some session) (isTask : session.tasks[j]? = some task)
    (stirs : task.Stirs session.context run.world result) :
    (run.receive i session j result).KeepsTrack start := by
  rcases stirs.exists_does with ⟨deal, does, gains⟩
  -- the record, the device and what the request has set all gain by the same deal
  refine ⟨does.wired tracks.wired, inOrder, fun driver address field => ?_,
    fun driver address field setting => ?_⟩
  · change result.1.setting? driver address field =
      (result.1.writes driver address field).getLast?.or _
    rw [does.setting? (tracks.wired driver address), does.writes, tracks.current,
      List.getLast?_append, ← Option.or_assoc]
    cases task.gain? deal driver address field <;> rfl
  · change setting ∈ result.1.writes driver address field ↔ _
    rw [does.writes, List.mem_append, tracks.gathered, Option.mem_toList]
    rcases stirs.eq_enter with ⟨phase, isPhase⟩
    rcases result with ⟨world, task', outcome⟩
    obtain rfl : task' = task.enter phase := isPhase
    have kept := (tracks.inOrder session (List.mem_of_getElem? isSession)).kept
    have received := Session.sets_receive driver address field setting kept isTask gains
    have gained : (task.config.driver, task.config.address) = (driver, address) ∧
        (∃ finding ∈ (deal.bind Deal.finding?).toList, finding.write? field = some setting) ↔
          setting ∈ task.gain? deal driver address field := by
      simp [Task.gain?, Option.bind_eq_some_iff]
    rw [gained] at received
    exact (exists_mem_set isSession (fun _ _ _ _ => Iff.rfl) received).symm

end KeepsTrack

/-- Whatever happens, the record accounts for it. -/
theorem Happens.tracks (happens : Happens run next) (live : next.Live)
    (tracks : run.KeepsTrack start) : next.KeepsTrack start := by
  have wired := happens.wired tracks.wired
  have inOrder := happens.inOrder live tracks.inOrder
  cases happens with
  | creates | cancels => exact tracks.of_registry wired inOrder rfl fun _ _ _ _ => Iff.rfl
  | visits =>
      refine tracks.quiet wired inOrder (fun _ _ _ => run.world.writes_lookAfter _ _ _ _ _ _ _)
        (fun driver address field => ?_) fun _ _ _ _ => Iff.rfl
      exact (run.world.preserves_lookAfter _ _ _ _).setting? (tracks.wired driver address) field
  | configures configured =>
      refine tracks.quiet wired inOrder (fun _ _ _ => World.writes_configure configured _ _ _)
        (fun driver address field => ?_) fun _ _ _ _ => Iff.rfl
      rcases Registry.configure_eq_ok configured with ⟨cached, cached', found, accepted, rfl⟩
      exact World.Preserves.setting? (.of_set found rfl (CachedDriver.preserves_configure accepted))
        (tracks.wired driver address) field
  | arrives prepared =>
      refine tracks.of_registry wired inOrder rfl fun driver address field setting => ?_
      have nothing := not_sets_of_ready (World.ready_of_prepare prepared) driver address field
        setting
      simp [Sets, or_and_right, exists_or, nothing]
  | advances advances =>
      cases advances with
      | waits => exact tracks.of_registry wired inOrder rfl fun _ _ _ _ => Iff.rfl
      | @attends i session isSession =>
          have same : (session.attend run.world).1.registry = run.world.registry := by
            rcases attend_world session run.world with ⟨tokens, -, same⟩
            rw [same]
          refine tracks.of_registry wired inOrder same fun driver address field setting => ?_
          have arrived := Session.arrived_attend (δ := Recorded δ)
            (tracks.inOrder session (List.mem_of_getElem? isSession)).kept
            (live_attend isSession live)
          have attended : (session.attend run.world).2.Sets driver address field setting ↔
              session.Sets driver address field setting ∨ False := by
            rw [or_false, Session.sets_attend arrived]
          exact (exists_mem_set isSession (fun _ _ _ _ => Iff.rfl) attended).trans (by simp [Sets])
      | stirs isSession unfinished isTask stirs =>
          exact tracks.receive inOrder isSession isTask stirs

theorem tracks_recorded {world : World δ} (wired : world.Wired) :
    Run.KeepsTrack world { world := world.recorded, sessions := [] } where
  wired := World.wired_recorded wired
  inOrder := by simp [InOrder]
  current driver address field := by
    rw [World.writes_recorded, World.setting?_recorded]
    rfl
  gathered driver address field setting := by simp [World.writes_recorded, Sets]

/-- As long as no request is cancelled, the record accounts for all that has happened. -/
theorem Happenings.tracks {world : World δ} (wired : world.Wired)
    (happenings : Happenings { world := world.recorded, sessions := [] } next)
    (live : next.Live) : next.KeepsTrack world := by
  induction happenings with
  | refl => exact tracks_recorded wired
  | tail _ happens ih => exact happens.tracks live (ih (happens.live_before live))

end Run

namespace World

/--
When requests have set states of virtual devices at the same time, in whatever way, and none of them
was cancelled, every field is set to what was last written to it since the start, or else to what
it was set to at the start; and what was written to it are the values that some answer echoes.
-/
theorem keeps_updates {start : World VirtualDriver} (reachable : start.Reachable)
    {last : Run (Recorded VirtualDriver)}
    (happenings : Run.Happenings { world := start.recorded, sessions := [] } last)
    (finished : ∀ session ∈ last.sessions, session.finished = true) (live : last.Live)
    (driver address : String) (field : Field) :
    last.world.setting? driver address field =
        (last.world.writes driver address field).getLast?.or
          (start.setting? driver address field) ∧
      ∀ setting, setting ∈ last.world.writes driver address field ↔
        ∃ session ∈ last.sessions, session.Echoes driver address field setting := by
  have tracks := happenings.tracks reachable.wired live
  refine ⟨tracks.current driver address field, fun setting => ?_⟩
  rw [tracks.gathered]
  refine exists_congr fun session => and_congr_right fun member => ?_
  exact (tracks.inOrder session member).sets_iff_echoes (finished session member)

theorem keeps_updates_lab :
    let requests : List RoomRequest := [
      { operation := .set (labLevel 40 true), room := lab,
        context := { deadline := none, token := 0 } },
      { operation := .set (labLevel 70 false), room := lab,
        context := { deadline := none, token := 0 } }]
    let start := labWorld ({ model := .display } : VirtualDriver)
    let last := (start.recorded.engage requests).complete none
    start.Reachable ∧ Run.Happenings { world := start.recorded, sessions := [] } last ∧
      (∀ session ∈ last.sessions, session.finished = true) ∧ last.Live ∧
      (last.world.setting? "display" "lab" (.volume "") =
          (last.world.writes "display" "lab" (.volume "")).getLast?.or
            (start.setting? "display" "lab" (.volume "")) ∧
        ∀ setting, setting ∈ last.world.writes "display" "lab" (.volume "") ↔
          ∃ session ∈ last.sessions, session.Echoes "display" "lab" (.volume "") setting) := by
  intro requests start last
  have reachable : start.Reachable := (unused_labWorld .display).reachable
  have happenings := Run.happenings_serve start.recorded requests none
  have finished : ∀ session ∈ last.sessions, session.finished = true := by decide +kernel
  have live : last.Live := by
    have isLive : ∀ session ∈ last.sessions,
        last.world.interruption? session.context = none := by decide +kernel
    exact isLive
  exact ⟨reachable, happenings, finished, live,
    keeps_updates reachable happenings finished live "display" "lab" (.volume "")⟩

end World

end AvControl

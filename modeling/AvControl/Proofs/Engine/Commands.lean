import AvControl.Proofs.Engine.Follow
import AvControl.Proofs.Setting
import AvControl.Virtual.Driver

/-!
# The commands that apply a state

A request to set the state of a device makes a call for everything that it wants and that the device
can do, and no other call: the power first, then the routes of every kind in the order of their
outputs, and everything else side by side. Whether calls succeed or fail makes no difference.
-/

namespace AvControl

/-- What a request that wants some state has to ask of a device. -/
def Command.IsDue (config : DeviceConfig) (handle : Handle) (desired : DeviceState) :
    Command → Prop
  | .setPower on => desired.poweredOn = some on ∧ handle.supports .power = true
  | .setInput kind output input =>
    (∃ inputs feed, desired.inputs = some inputs ∧ inputs.get? output = some feed ∧
      feed.slot kind = some input) ∧ handle.supports (.input kind) = true
  | .setBlank on => desired.blanked = some on ∧ handle.supports .blank = true
  | .setVolume block level =>
    (∃ volumes, desired.volumes = some volumes ∧ volumes.get? block = some level) ∧
      (block = "" ∨ ∃ port ∈ config.ports, port.name = block ∧ port.kind = "volume") ∧
      handle.supports .volume = true
  | .setMute block muted =>
    (∃ mutes, desired.mutes = some mutes ∧ mutes.get? block = some muted) ∧
      (block = "" ∨ ∃ port ∈ config.ports, port.name = block ∧ port.kind = "mute") ∧
      handle.supports .mute = true
  | _ => False

/-- Whether a command feeds an output with one kind of signal. -/
def Command.isRoute (kind : SignalKind) : Command → Bool
  | .setInput other _ _ => other = kind
  | _ => false

/--
The calls among some deeds apply a state: they are the due ones, each made once, the power is
switched before any other call begins, and the routes of one kind are set one after another.
-/
structure Applied (config : DeviceConfig) (handle : Handle) (desired : DeviceState)
    (deeds : List Deed) : Prop where
  address : ∀ deed ∈ deeds, deed.beat? ≠ none → deed.address = config.address
  once : ∀ command : Command, command.IsDue config handle desired →
    ((deeds.filterMap Deed.beat?).filter fun beat => beat.command = command) =
      [.began command, .ended command]
  nothingElse : ∀ beat ∈ deeds.filterMap Deed.beat?, beat.command.IsDue config handle desired
  powerFirst : ∀ on, Command.IsDue config handle desired (.setPower on) →
    ∃ others, deeds.filterMap Deed.beat? =
      .began (.setPower on) :: .ended (.setPower on) :: others
  routes : ∀ kind, ∃ routes : List (String × String),
    (routes.Pairwise fun route other => route.1 < other.1) ∧
    (∀ output input, (output, input) ∈ routes ↔
      Command.IsDue config handle desired (.setInput kind output input)) ∧
    ((deeds.filterMap Deed.beat?).filter fun beat => beat.command.isRoute kind) =
      routes.flatMap fun route =>
        [.began (.setInput kind route.1 route.2), .ended (.setInput kind route.1 route.2)]

namespace Plan

variable {config : DeviceConfig} {handle : Handle} {desired : DeviceState} {command : Command}

theorem accepted_iff : (refusal? config handle command).isNone = true ↔
    acceptsBlock config command = true ∧ handle.supports command.capability = true := by
  simp only [refusal?]
  split
  · rename_i refused
    simp at refused
    simp [refused]
  · rename_i accepts
    simp at accepts
    split
    · rename_i unable
      simp at unable
      simp [unable]
    · rename_i able
      simp at able
      simp [accepts, able]

theorem acceptsBlock_iff {block kind : String} : config.acceptsBlock block kind = true ↔
    block = "" ∨ ∃ port ∈ config.ports, port.name = block ∧ port.kind = kind := by
  simp [DeviceConfig.acceptsBlock, DeviceConfig.hasPort]

theorem mem_wanted_iff {setting : Setting} (sets : command.setting? = some setting) :
    command ∈ wanted desired ↔ desired.setting? command.field = some setting := by
  rw [mem_wanted]
  constructor
  · rintro ⟨other, sets', isWanted⟩
    rw [sets, Option.some.injEq] at sets'
    rw [isWanted, sets']
  · intro isWanted
    exact ⟨setting, sets, isWanted⟩

/-- The commands of a plan are those that are due. -/
theorem mem_accepted : command ∈ accepted config handle (wanted desired) ↔
    command.IsDue config handle desired := by
  rw [accepted, List.mem_filter, accepted_iff]
  cases command with
  | getPower | getInputs | getBlank | getVolumes | getMutes | healthy | info =>
      simp [mem_wanted, Command.setting?, Command.IsDue]
  | setPower on | setBlank on =>
      rw [mem_wanted_iff rfl]
      simp only [DeviceState.setting?, Command.field, Option.map_eq_some_iff,
        Setting.flag.injEq, exists_eq_right]
      simp [acceptsBlock, Command.capability, Command.IsDue]
  | setInput kind output input =>
      rw [mem_wanted_iff rfl]
      simp only [DeviceState.setting?, Command.field, Option.map_eq_some_iff,
        Setting.source.injEq, exists_eq_right, Option.bind_eq_some_iff]
      simp only [acceptsBlock, Command.capability, Command.IsDue, true_and]
      refine and_congr_left fun _ => ⟨?_, ?_⟩
      · rintro ⟨feed, ⟨inputs, isInputs, isFeed⟩, isSlot⟩
        exact ⟨inputs, feed, isInputs, isFeed, isSlot⟩
      · rintro ⟨inputs, feed, isInputs, isFeed, isSlot⟩
        exact ⟨feed, ⟨inputs, isInputs, isFeed⟩, isSlot⟩
  | setVolume block level =>
      rw [mem_wanted_iff rfl]
      simp only [DeviceState.setting?, Command.field, Option.map_eq_some_iff,
        Setting.level.injEq, exists_eq_right, Option.bind_eq_some_iff, acceptsBlock,
        acceptsBlock_iff]
      rfl
  | setMute block muted =>
      rw [mem_wanted_iff rfl]
      simp only [DeviceState.setting?, Command.field, Option.map_eq_some_iff,
        Setting.flag.injEq, exists_eq_right, Option.bind_eq_some_iff, acceptsBlock,
        acceptsBlock_iff]
      rfl

theorem nodup_commands (desired : DeviceState) (device : DeviceId) :
    ((Work.apply desired).plan device config handle).commands.Nodup := by
  rw [commands_plan]
  exact (distinct_wanted desired).of_map.filter _

theorem isRoute_others {kind : SignalKind} (member : command ∈ blankChanges desired ++
    volumeChanges desired ++ muteChanges desired) : command.isRoute kind = false := by
  simp only [List.mem_append, mem_blankChanges, mem_volumeChanges, mem_muteChanges] at member
  rcases member with (⟨_, rfl, -⟩ | ⟨_, _, rfl, -⟩) | ⟨_, _, rfl, -⟩ <;> rfl

/-- The commands that feed outputs with one kind of signal stand in one row. -/
theorem pairwise_isRoute (desired : DeviceState) (kind : SignalKind) :
    (changes desired).Pairwise fun row other =>
      ∀ a ∈ row, ∀ b ∈ other, a.isRoute kind = true → b.isRoute kind = true → False := by
  have noRoute : ∀ row ∈ (blankChanges desired ++ volumeChanges desired ++
      muteChanges desired).map fun command => [command], ∀ b ∈ row, b.isRoute kind = false := by
    intro row member b inRow
    rcases List.mem_map.1 member with ⟨command, isCommand, rfl⟩
    obtain rfl := List.mem_singleton.1 inRow
    exact isRoute_others isCommand
  rw [changes, List.pairwise_append]
  refine ⟨List.pairwise_map.2 ?_, ?_, ?_⟩
  · have kinds : SignalKind.all.Pairwise fun a b => a ≠ b := by simp [SignalKind.all]
    refine kinds.imp fun {first second} differ a inFirst b inSecond isFirst isSecond => ?_
    rcases List.mem_map.1 inFirst with ⟨_, _, rfl⟩
    rcases List.mem_map.1 inSecond with ⟨_, _, rfl⟩
    exact differ ((of_decide_eq_true isFirst).trans (of_decide_eq_true isSecond).symm)
  · refine List.pairwise_of_forall_mem_list ?_
    intro row isRow other _ a inRow b _ isRoute
    rw [noRoute row isRow a inRow] at isRoute
    cases isRoute
  · intro row _ other isOther a _ b inOther _ isRoute
    rw [noRoute other isOther b inOther] at isRoute
    cases isRoute

/-- The commands that feed outputs with one kind of signal, in the order of the outputs. -/
theorem filter_isRoute (desired : DeviceState) (kind : SignalKind) :
    (wanted desired).filter (Command.isRoute kind) =
      (desired.routes kind).map fun route => .setInput kind route.1 route.2 := by
  have power : (powerChanges desired).filter (Command.isRoute kind) = [] := by
    apply List.filter_eq_nil_iff.2
    intro command member
    rcases mem_powerChanges.1 member with ⟨on, rfl, -⟩
    simp [Command.isRoute]
  have others : (blankChanges desired ++ volumeChanges desired ++ muteChanges desired).filter
      (Command.isRoute kind) = [] := by
    apply List.filter_eq_nil_iff.2
    intro command member
    simp [isRoute_others member]
  have routings : (routings desired).flatten.filter (Command.isRoute kind) =
      (desired.routes kind).map fun route => .setInput kind route.1 route.2 := by
    cases kind <;>
      simp [routings, SignalKind.all, List.filter_map, Function.comp_def, Command.isRoute]
  rw [wanted, flatten_changes, List.filter_append, List.filter_append, power, others, routings,
    List.nil_append, List.append_nil]

end Plan

theorem filter_both (commands : List Command) (p : Command → Bool) :
    ((commands.flatMap Beat.both).filter fun beat => p beat.command) =
      (commands.filter p).flatMap Beat.both := by
  induction commands with
  | nil => rfl
  | cons command rest ih =>
      rw [List.flatMap_cons, List.filter_append, ih, List.filter_cons]
      cases isWanted : p command <;> simp [Beat.both, Beat.command, isWanted]

/-- Calls that are found in one row only are made in the order of that row. -/
theorem Plays.filter_eq {plan : Plan} {beats : List Beat}
    (plays : Plays [{ rest := plan.lead }] plan.lanes beats) (p : Command → Bool)
    (single : plan.lanes.Pairwise fun row other =>
      ∀ a ∈ row, ∀ b ∈ other, p a = true → p b = true → False) :
    (beats.filter fun beat => p beat.command) = (plan.commands.filter p).flatMap Beat.both := by
  rcases plays with ⟨first, second, rfl, now, others⟩
  have lead : first = plan.lead.flatMap Beat.both := now.singleton
  have rows : (second.filter fun beat => p beat.command) =
      (plan.lanes.flatten.filter p).flatMap Beat.both := by
    have single' : (plan.lanes.map fun row => row.flatMap Beat.both).Pairwise fun row other =>
        ∀ a ∈ row, ∀ b ∈ other, p a.command = true → p b.command = true → False := by
      refine List.pairwise_map.2 (single.imp fun {row other} apart a inRow b inOther => ?_)
      have command : ∀ {beat : Beat} {commands : List Command},
          beat ∈ commands.flatMap Beat.both → beat.command ∈ commands := by
        intro beat commands member
        rcases List.mem_flatMap.1 member with ⟨command, isCommand, isBeat⟩
        simp only [Beat.both, List.mem_cons, List.not_mem_nil, or_false] at isBeat
        rcases isBeat with rfl | rfl <;> exact isCommand
      exact apart a.command (command inRow) b.command (command inOther)
    rw [others.filter_eq _ single', ← filter_both]
    congr 1
    rw [← List.flatMap_def, List.flatten_eq_flatMap, List.flatMap_assoc]
    rfl
  rw [List.filter_append, rows, lead, filter_both, Plan.commands, List.filter_append,
    List.flatMap_append]

namespace Plays

variable {plan : Plan} {beats : List Beat}

/-- Only calls of the plan are made. -/
theorem mem_commands (plays : Plays [{ rest := plan.lead }] plan.lanes beats) {beat : Beat}
    (member : beat ∈ beats) : beat.command ∈ plan.commands := by
  by_contra foreign
  have none := plays.filter_eq (fun command => command ∉ plan.commands) (by
    apply List.pairwise_of_forall_mem_list
    intro row isRow other _ a inRow b _ isForeign _
    have inPlan : a ∈ plan.commands :=
      List.mem_append_right _ (List.mem_flatten.2 ⟨row, isRow, inRow⟩)
    simp [inPlan] at isForeign)
  have nothing : plan.commands.filter (fun command => command ∉ plan.commands) = [] :=
    List.filter_eq_nil_iff.2 (by simp)
  rw [nothing, List.flatMap_nil] at none
  exact List.filter_eq_nil_iff.1 none beat member (by simpa using foreign)

/-- Every call of the plan is made once. -/
theorem once (plays : Plays [{ rest := plan.lead }] plan.lanes beats)
    (nodup : plan.commands.Nodup) {command : Command} (member : command ∈ plan.commands) :
    (beats.filter fun beat => beat.command = command) = [.began command, .ended command] := by
  have lanes := (List.nodup_flatten.1 (List.nodup_append.1 nodup).2.1).2
  have single : plan.lanes.Pairwise fun row other => ∀ a ∈ row, ∀ b ∈ other,
      decide (a = command) = true → decide (b = command) = true → False := by
    refine lanes.imp fun apart a inRow b inOther isA isB => ?_
    obtain rfl := of_decide_eq_true isA
    obtain rfl := of_decide_eq_true isB
    exact apart inRow inOther
  rw [plays.filter_eq _ single, List.filter_eq, List.count_eq_one_of_mem nodup member]
  rfl

end Plays

/-- To play the plan for a state is to apply it. -/
theorem applied_of_plays {config : DeviceConfig} {handle : Handle} {desired : DeviceState}
    {device : DeviceId} {deeds : List Deed}
    (address : ∀ deed ∈ deeds, deed.beat? ≠ none → deed.address = config.address)
    (plays : Plays [{ rest := ((Work.apply desired).plan device config handle).lead }]
      ((Work.apply desired).plan device config handle).lanes (deeds.filterMap Deed.beat?)) :
    Applied config handle desired deeds := by
  have commands := Plan.commands_plan desired device config handle
  have nodup : ((Work.apply desired).plan device config handle).commands.Nodup :=
    Plan.nodup_commands desired device
  refine ⟨address, ?_, ?_, ?_, ?_⟩
  · intro command isDue
    refine plays.once nodup ?_
    rw [commands]
    exact Plan.mem_accepted.2 isDue
  · intro beat member
    have inPlan := plays.mem_commands member
    rw [commands] at inPlan
    exact Plan.mem_accepted.1 inPlan
  · intro on isDue
    have lead : ((Work.apply desired).plan device config handle).lead = [.setPower on] := by
      have isWanted := (List.mem_filter.1 (Plan.mem_accepted.2 isDue)).2
      simp only [Work.plan, Plan.powerChanges, isDue.1, Option.toList_some, List.map_singleton]
      exact List.filter_eq_self.2 (by simpa using isWanted)
    rcases plays with ⟨first, second, same, now, -⟩
    have isFirst := now.singleton
    rw [lead] at isFirst
    exact ⟨second, by rw [same, isFirst]; rfl⟩
  · intro kind
    -- All routes of one kind stand in one row, so their order survives whatever goes on beside.
    have single : ((Work.apply desired).plan device config handle).lanes.Pairwise
        fun row other => ∀ a ∈ row, ∀ b ∈ other, a.isRoute kind = true →
          b.isRoute kind = true → False := by
      refine List.pairwise_map.2 ((Plan.pairwise_isRoute desired kind).imp ?_)
      intro row other apart a inRow b inOther
      exact apart a (List.mem_of_mem_filter inRow) b (List.mem_of_mem_filter inOther)
    refine ⟨(desired.routes kind).filter fun route => (Plan.refusal? config handle
      (.setInput kind route.1 route.2)).isNone, (desired.pairwise_routes kind).filter _, ?_, ?_⟩
    · intro output input
      rw [← Plan.mem_accepted, Plan.accepted, List.mem_filter, List.mem_filter,
        Plan.mem_wanted_iff rfl, DeviceState.mem_routes]
      rfl
    · rw [plays.filter_eq _ single, commands, Plan.accepted, List.filter_comm,
        Plan.filter_isRoute, List.filter_map, List.flatMap_map]
      rfl

namespace Run

variable {δ : Type} [Driver δ]

/-- How often the task for a device in a session is looked after until all is over. -/
def looks (run : Run δ) (i : Nat) (device : DeviceId) : List (Look δ) :=
  run.attend.looksWithin i device run.bound

/-- The handle that the task for a device in a session works with. -/
def openedWith (run : Run δ) (i : Nat) (device : DeviceId) : Option Handle :=
  (run.looks i device).findSome? Look.handle?

/-- What the task for a device in a session asks of its driver, in order. -/
def deeds (run : Run (Recorded δ)) (i : Nat) (device : DeviceId) : List Deed :=
  (run.looks i device).flatMap Look.deeds

/-- A context is live for as long as the task for a device in a session has not reported. -/
def LiveThroughout (run : Run δ) (i : Nat) (device : DeviceId) (context : RequestContext) : Prop :=
  ∀ steps, (run.after steps).AtWork i device →
    (run.after (steps + 1)).world.interruption? context = none

/-- A context that is live in the end was so all the time. -/
theorem live_after_of_complete {run : Run δ} {context : RequestContext}
    (ends : (run.complete none).step none = none)
    (live : (run.complete none).world.interruption? context = none) (steps : Nat) :
    (run.after steps).world.interruption? context = none := by
  have same : Run.go none run.bound (run.after steps) = run.complete none := by
    rw [after, go_add, Nat.add_comm, ← go_add]
    exact go_ended ends _
  rw [← same] at live
  exact RequestContext.live_before (go_tokens none _ _) (clock_le_go _ _) live

theorem liveThroughout_of_complete {run : Run δ} {context : RequestContext}
    (ends : (run.complete none).step none = none)
    (live : (run.complete none).world.interruption? context = none) (i : Nat) (device : DeviceId) :
    run.LiveThroughout i device context :=
  fun steps _ => live_after_of_complete ends live (steps + 1)

end Run

namespace World

variable {δ : Type} [Driver δ]

/-- A task whose context is live while it is at work is looked after to the end of the run. -/
theorem Ready.followed {world : World δ} {requests : List RoomRequest} {request : RoomRequest}
    {session : Session} {i : Nat} {task : Task} (ready : world.Ready request session)
    (isSession : (world.engage requests).sessions[i]? = some session)
    (member : task ∈ session.tasks)
    (liveAtFirst : ((world.engage requests).after 0).AtWork i task.device →
      ((world.engage requests).after 0).world.interruption? request.context = none)
    (live : ∀ steps, ((world.engage requests).after steps).AtWork i task.device →
      ((world.engage requests).after steps).IsOpen i →
        ((world.engage requests).after (steps + 1)).world.interruption? request.context = none) :
    ∃ j session' last, ((world.engage requests).complete none).Follows i j session' last ∧
      session.Continues session' ∧
      Course δ task ((world.engage requests).looks i task.device) last ∧
      ∀ look ∈ (world.engage requests).looks i task.device, look.Fair := by
  rcases List.mem_iff_getElem?.1 member with ⟨j, isTask⟩
  have follows : (world.engage requests).Follows i j session task :=
    ⟨isSession, isTask, ready.kept ready.underWay, world.equipped_engage requests,
      fun _ => ready.unfinished⟩
  rw [← ready.context] at liveAtFirst live
  rcases follows.attend fun unreported => liveAtFirst (follows.atWork unreported).attend with
    ⟨session', follows', continues⟩
  rw [← continues.context] at live
  rcases follows'.go (world.engage requests).bound live with
    ⟨session'', last, follows'', continues', course, fair⟩
  exact ⟨j, session'', last, follows'', continues.trans continues', course, fair⟩

/-- A task whose device is opened makes all calls of its plan, unless its context ends before. -/
theorem Ready.plays {world : World (Recorded δ)} {requests : List RoomRequest}
    {request : RoomRequest} {session : Session} {i : Nat} {task : Task} {handle : Handle}
    (ready : world.Ready request session)
    (isSession : (world.engage requests).sessions[i]? = some session)
    (member : task ∈ session.tasks)
    (opens : (world.engage requests).openedWith i task.device = some handle)
    (live : (world.engage requests).LiveThroughout i task.device request.context)
    (well : ∀ deed ∈ (world.engage requests).deeds i task.device, deed.EndsWell) :
    (∀ deed ∈ (world.engage requests).deeds i task.device, deed.beat? ≠ none →
      deed.address = task.config.address) ∧
    Plays [{ rest := (task.work.plan task.device task.config handle).lead }]
      (task.work.plan task.device task.config handle).lanes
      (((world.engage requests).deeds i task.device).filterMap Deed.beat?) := by
  have liveAtFirst : ((world.engage requests).after 0).AtWork i task.device →
      ((world.engage requests).after 0).world.interruption? request.context = none := by
    intro atWork
    exact RequestContext.live_before (Run.go_tokens none 1 _) (Run.clock_le_go 1 _) (live 0 atWork)
  rcases ready.followed isSession member liveAtFirst fun steps atWork _ => live steps atWork with
    ⟨j, session', last, follows, -, course, fair⟩
  have wellLooks : ∀ look ∈ (world.engage requests).looks i task.device,
      ∀ deed ∈ look.deeds, deed.EndsWell := by
    intro look isLook deed isDeed
    exact well deed (List.mem_flatMap.2 ⟨look, isLook, isDeed⟩)
  have waits : task.Waits := by
    intro lanes later outcome working
    rw [ready.fresh member] at working
    cases working
  have isOver : last.phase = .reported :=
    follows.reported_of_ended (world.complete_ends requests none)
      (course.waits fair wellLooks waits) (course.begun_of_open fair opens)
  exact ⟨fun deed isDeed isCall => course.address fair isDeed isCall,
    course.plays fair wellLooks isOver opens⟩

/--
Whatever other requests and devices do, and whether calls succeed or fail: once a device is open, a
request to set states makes exactly the calls on it that apply what is wanted, as long as its
context is live and no call hangs or breaks down.
-/
theorem set_commands {world : World (Recorded δ)} {requests : List RoomRequest}
    {request : RoomRequest} {session : Session} {i : Nat} {states : StateRequest}
    {device : DeviceId} {desired : DeviceState} {config : DeviceConfig} {handle : Handle}
    (prepared : world.prepare request = .ok session)
    (isSession : (world.engage requests).sessions[i]? = some session)
    (isSet : request.operation = .set states)
    (targeted : states.devices.get? device = some desired) (notEmpty : desired.isEmpty = false)
    (isConfig : request.room.devices.get? device = some config)
    (opens : (world.engage requests).openedWith i device = some handle)
    (live : (world.engage requests).LiveThroughout i device request.context)
    (well : ∀ deed ∈ (world.engage requests).deeds i device, deed.EndsWell) :
    Applied config handle desired ((world.engage requests).deeds i device) := by
  have ready := ready_of_prepare prepared
  have isTarget : (device, Work.apply desired) ∈ request.operation.targets request.room := by
    rw [isSet]
    exact Operation.mem_targets_set targeted notEmpty
  rcases ready.task isTarget with ⟨task, member, assigned⟩
  obtain rfl : task.device = device := assigned.device
  obtain rfl : task.config = config := by
    have isConfig' := assigned.config
    rwa [isConfig, Option.some.injEq, eq_comm] at isConfig'
  rcases ready.plays isSession member opens live well with ⟨address, plays⟩
  rw [assigned.work] at plays
  exact applied_of_plays address plays

/-- Switch a display on, and feed it and set levels in ways that it offers only in part. -/
def labScene : StateRequest where
  devices := SortedMap.empty.insert ⟨"D1"⟩
    { poweredOn := some true
      inputs := some (SortedMap.empty.insert "" { audioVideo := some "hdmi2", audio := some "pc" })
      volumes := some ((SortedMap.empty.insert "" 40).insert "mic" 10) }

theorem set_commands_lab :
    let request : RoomRequest :=
      { operation := .set labScene, room := lab, context := { deadline := none, token := 0 } }
    let world := labWorld ({ driver := { model := .display } } : Recorded VirtualDriver)
    ∃ session desired config handle, world.prepare request = .ok session ∧
      (world.engage [request]).sessions[0]? = some session ∧
      labScene.devices.get? ⟨"D1"⟩ = some desired ∧ desired.isEmpty = false ∧
      lab.devices.get? ⟨"D1"⟩ = some config ∧
      (world.engage [request]).openedWith 0 ⟨"D1"⟩ = some handle ∧
      (world.engage [request]).LiveThroughout 0 ⟨"D1"⟩ request.context ∧
      (∀ deed ∈ (world.engage [request]).deeds 0 ⟨"D1"⟩, deed.EndsWell) ∧
      Applied config handle desired ((world.engage [request]).deeds 0 ⟨"D1"⟩) := by
  intro request world
  have isOk : (world.prepare request).toOption.isSome = true := by decide +kernel
  have isOpen : ((world.engage [request]).openedWith 0 ⟨"D1"⟩).isSome = true := by decide +kernel
  have liveAtEnd : ((world.engage [request]).complete none).world.interruption? request.context =
      none := by decide +kernel
  have well : ∀ deed ∈ (world.engage [request]).deeds 0 ⟨"D1"⟩, deed.EndsWell := by decide +kernel
  rcases exists_of_isSome isOk with ⟨session, prepared⟩
  rcases Option.isSome_iff_exists.1 isOpen with ⟨handle, opens⟩
  have isSession : (world.engage [request]).sessions[0]? = some session := by
    simp [engage, prepared, Except.toOption]
  have live := Run.liveThroughout_of_complete (world.complete_ends [request] none) liveAtEnd 0
    ⟨"D1"⟩
  exact ⟨session, _, _, handle, prepared, isSession, rfl, rfl, rfl, opens, live, well,
    set_commands prepared isSession rfl rfl rfl rfl opens live well⟩

end World

end AvControl

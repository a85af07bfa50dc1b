import AvControl.Proofs.Virtual.Readings

/-!
# Plans carried out on virtual devices

A device that is given commands one after another makes a deal of each. The deals of a plan are the
same in any order in which the plan can be carried out, because after the power was switched no
write has a say in what comes of another, and no reading has a say in anything. What the device is
set to afterwards are the settings that were achieved, laid over those that were there before.
-/

namespace AvControl.Virtual

theorem filterMap_cons_toList {α β : Type} (f : α → Option β) (head : α) (rest : List α) :
    (head :: rest).filterMap f = (f head).toList ++ rest.filterMap f := by
  cases isHead : f head <;> simp [isHead]

namespace Hardware

variable {hardware other : Hardware} {address : String} {commands : List Command}

/-- A device after some commands, one after another. -/
def afterAll (hardware : Hardware) (address : String) (commands : List Command) : Hardware :=
  commands.foldl (fun hardware command => hardware.after address command) hardware

/-- The deals that a device makes of some commands, one after another. -/
def deals (hardware : Hardware) (address : String) : List Command → List Deal
  | [] => []
  | command :: rest =>
    hardware.deal address command :: (hardware.after address command).deals address rest

theorem afterAll_append (hardware : Hardware) (address : String) (first second : List Command) :
    hardware.afterAll address (first ++ second) =
      (hardware.afterAll address first).afterAll address second := List.foldl_append

theorem deals_append (address : String) (first second : List Command) : ∀ hardware : Hardware,
    hardware.deals address (first ++ second) =
      hardware.deals address first ++ (hardware.afterAll address first).deals address second := by
  induction first with
  | nil => exact fun _ => rfl
  | cons command rest ih => exact fun hardware => congrArg _ (ih _)

@[simp]
theorem command_deals (address : String) (commands : List Command) : ∀ hardware : Hardware,
    (hardware.deals address commands).map Deal.command = commands := by
  induction commands with
  | nil => exact fun _ => rfl
  | cons command rest ih => exact fun hardware => congrArg _ (ih _)

@[simp]
theorem model_afterAll (address : String) (commands : List Command) : ∀ hardware : Hardware,
    (hardware.afterAll address commands).model = hardware.model := by
  induction commands with
  | nil => exact fun _ => rfl
  | cons command rest ih => exact fun hardware => (ih _).trans (model_after _ _ _)

/-- Commands make the same deals in any order when none of them has a say in another. -/
theorem deals_eq_map (like : Hardware → Prop) (start : like hardware)
    (kept : ∀ other, like other → ∀ command ∈ commands, like (other.after address command))
    (same : ∀ other, like other → ∀ command ∈ commands,
      other.deal address command = hardware.deal address command) :
    hardware.deals address commands = commands.map (hardware.deal address) := by
  have all : ∀ some : List Command, some ⊆ commands → ∀ other, like other →
      other.deals address some = some.map (hardware.deal address) := by
    intro some
    induction some with
    | nil => exact fun _ _ _ => rfl
    | cons command rest ih =>
        intro included other isLike
        rcases List.cons_subset.1 included with ⟨member, others⟩
        rw [deals, same other isLike command member, ih others _ (kept other isLike command member),
          List.map_cons]
  exact all commands (List.Subset.refl _) hardware start

theorem deal_congr {command : Command}
    (same : hardware.reply address command = other.reply address command) :
    hardware.deal address command = other.deal address command := by
  simp only [deal, same]

theorem deals_of_writes (writes : ∀ command ∈ commands,
      command.setting?.isSome = true ∧ command.field ≠ .poweredOn)
    (hardware : Hardware) (address : String) :
    hardware.deals address commands = commands.map (hardware.deal address) := by
  refine deals_eq_map (fun other => other.ObeysAs hardware) (.refl hardware) ?_ ?_
  · intro other obeys command member
    rcases writes command member with ⟨sets, notPower⟩
    exact (obeysAs_after sets notPower other address).trans obeys
  · intro other obeys command member
    exact deal_congr (obeys.reply (writes command member).1 address)

theorem deals_of_reads (reads : ∀ command ∈ commands,
      command.setting? = none ∧ command ≠ .info) (hardware : Hardware) (address : String) :
    hardware.deals address commands = commands.map (hardware.deal address) := by
  refine deals_eq_map (fun other => other.ReadsAs hardware) (.refl hardware) ?_ ?_
  · intro other isLike command member
    exact (readsAs_after (reads command member).1 other address).trans isLike
  · intro other isLike command member
    exact deal_congr (isLike.reply (reads command member).2 address)

theorem obeysAs_afterAll (address : String) : ∀ {commands : List Command},
    (∀ command ∈ commands, command.setting?.isSome = true ∧ command.field ≠ .poweredOn) →
    ∀ hardware : Hardware, (hardware.afterAll address commands).ObeysAs hardware := by
  intro commands
  induction commands with
  | nil => exact fun _ hardware => .refl hardware
  | cons command rest ih =>
      intro writes hardware
      rcases List.forall_mem_cons.1 writes with ⟨⟨sets, notPower⟩, others⟩
      exact (ih others _).trans (obeysAs_after sets notPower hardware address)

theorem readsAs_afterAll (address : String)
    (reads : ∀ command ∈ commands, command.setting? = none) : ∀ hardware : Hardware,
    (hardware.afterAll address commands).ReadsAs hardware := by
  induction commands with
  | nil => exact fun hardware => .refl hardware
  | cons command rest ih =>
      intro hardware
      exact (ih (fun other member => reads other (List.mem_cons_of_mem _ member)) _).trans
        (readsAs_after (reads command List.mem_cons_self) hardware address)

theorem setting?_learn_deal (address : String) {command : Command}
    (sets : command.setting?.isSome = true)
    {state : DeviceState} {before : Field → Option Setting}
    (overlaid : ∀ field, hardware.setting? field = (state.setting? field).or (before field))
    (field : Field) : (hardware.after address command).setting? field =
      (((hardware.deal address command).finding?.toList.foldl DeviceState.learn
        state).setting? field).or (before field) := by
  rcases Option.isSome_iff_exists.1 sets with ⟨setting, isSet⟩
  rw [setting?_after_write isSet]
  cases replied : hardware.reply address command with
  | error error => simp [deal, Deal.finding?, replied, overlaid, Except.toOption]
  | ok result =>
      rw [finding?_deal replied]
      simp only [Option.toList_some, List.foldl_cons, List.foldl_nil, Except.toOption,
        Option.isSome_some, and_true, DeviceState.setting?_learn state isSet]
      split
      · rfl
      · exact overlaid field

/-- What a device is set to after some writes: what they have achieved, laid over what there was. -/
theorem setting?_afterAll (address : String)
    (writes : ∀ command ∈ commands, command.setting?.isSome = true) (hardware : Hardware)
    (field : Field) : (hardware.afterAll address commands).setting? field =
      ((((hardware.deals address commands).filterMap Deal.finding?).foldl
        DeviceState.learn {}).setting? field).or (hardware.setting? field) := by
  have all : ∀ (some : List Command), some ⊆ commands →
      ∀ (other : Hardware) (state : DeviceState),
      (∀ field, other.setting? field = (state.setting? field).or (hardware.setting? field)) →
      (other.afterAll address some).setting? field =
        ((((other.deals address some).filterMap Deal.finding?).foldl
          DeviceState.learn state).setting? field).or (hardware.setting? field) := by
    intro some
    induction some with
    | nil => exact fun _ other state overlaid => overlaid field
    | cons command rest ih =>
        intro included other state overlaid
        rcases List.cons_subset.1 included with ⟨member, others⟩
        have next := ih others _ _ (setting?_learn_deal address (writes command member) overlaid)
        rwa [← List.foldl_append, ← filterMap_cons_toList] at next
  refine all commands (List.Subset.refl _) hardware {} fun field => ?_
  rw [DeviceState.setting?_empty]
  rfl

/-- A device has all fields that some writes have set. -/
theorem isSome_of_achieved (address : String)
    (writes : ∀ command ∈ commands, command.setting?.isSome = true) : ∀ {hardware : Hardware}
    {finding : Finding}, finding ∈ (hardware.deals address commands).filterMap Deal.finding? →
      (hardware.setting? finding.command.field).isSome = true := by
  induction commands with
  | nil => simp [deals]
  | cons command rest ih =>
      intro hardware finding member
      have sets := writes command List.mem_cons_self
      simp only [deals, List.mem_filterMap, List.mem_cons] at member
      rcases member with ⟨deal, rfl | inRest, found⟩
      · cases replied : hardware.reply address command with
        | error error => simp [deal, Deal.finding?, replied] at found
        | ok result =>
            rw [finding?_deal replied] at found
            rcases Option.isSome_iff_exists.1 sets with ⟨setting, isSet⟩
            rw [← Option.some.inj found]
            exact (setting?_write isSet replied).1
      · rw [← isSome_after_write sets hardware address]
        exact ih (fun other isOther => writes other (List.mem_cons_of_mem _ isOther))
          (List.mem_filterMap.2 ⟨deal, inRest, found⟩)

/-! ### Switching the power -/

/-- Devices that have the same fields obey the same writes after their power was switched. -/
theorem obeysAs_after_power (sameModel : hardware.model = other.model)
    (sameFields : ∀ field, (hardware.setting? field).isSome = (other.setting? field).isSome)
    (on : Bool) (address : String) :
    hardware.deal address (.setPower on) = other.deal address (.setPower on) ∧
      (hardware.after address (.setPower on)).ObeysAs (other.after address (.setPower on)) := by
  have sets : (Command.setPower on).setting?.isSome = true := rfl
  have fields : ∀ field, ((hardware.after address (.setPower on)).setting? field).isSome =
      ((other.after address (.setPower on)).setting? field).isSome := by
    intro field
    rw [isSome_after_write sets, isSome_after_write sets, sameFields]
  have model : (hardware.after address (.setPower on)).model =
      (other.after address (.setPower on)).model := by simp [sameModel]
  cases hardware with
  | display state =>
      cases other with
      | switcher | dsp => cases sameModel
      | display state' => exact ⟨rfl, model, fields, rfl⟩
  | switcher state =>
      cases other with
      | display | dsp => cases sameModel
      | switcher state' => exact ⟨rfl, model, fields, rfl⟩
  | dsp state =>
      cases other with
      | display | switcher => cases sameModel
      | dsp state' => exact ⟨rfl, model, fields, rfl⟩

end Hardware

/-! ### Plans -/

/-- Some commands are those of a plan, in an order in which they may be carried out. -/
def Orders (plan : Plan) (commands : List Command) : Prop :=
  ∃ first second, commands = first ++ second ∧ first.Perm plan.lead ∧
    second.Perm plan.lanes.flatten

theorem Orders.perm {plan : Plan} {commands : List Command} (orders : Orders plan commands) :
    commands.Perm plan.commands := by
  rcases orders with ⟨first, second, rfl, leads, follows⟩
  exact leads.append follows

theorem reads_of_mem_commands {device : DeviceId} {config : DeviceConfig} {handle : Handle}
    {command : Command} (member : command ∈ (Work.read.plan device config handle).commands) :
    command.setting? = none ∧ command ≠ .info := by
  simp only [Work.plan, Plan.commands_offered] at member
  rcases Plan.mem_readings_iff.1 (List.mem_of_mem_filter member) with
    rfl | ⟨kind, rfl⟩ | rfl | rfl | rfl
  all_goals exact ⟨rfl, by simp⟩

section Applying

variable {desired : DeviceState} {device : DeviceId} {config : DeviceConfig} {handle : Handle}
  {command : Command}

theorem sets_of_mem_commands
    (member : command ∈ ((Work.apply desired).plan device config handle).commands) :
    command.setting?.isSome = true := by
  rw [Plan.commands_plan] at member
  rcases Plan.mem_wanted.1 (List.mem_of_mem_filter member) with ⟨setting, isSet, -⟩
  simp [isSet]

theorem sets_of_mem_lanes
    (member : command ∈ ((Work.apply desired).plan device config handle).lanes.flatten) :
    command.setting?.isSome = true ∧ command.field ≠ .poweredOn := by
  have isChange : command ∈ (Plan.changes desired).flatten := by
    simp only [Work.plan, Plan.accepted, List.mem_flatten, List.mem_map] at member ⊢
    rcases member with ⟨_, ⟨row, isRow, rfl⟩, inRow⟩
    exact ⟨row, isRow, List.mem_of_mem_filter inRow⟩
  simp only [Plan.flatten_changes, List.mem_append, Plan.mem_routings, Plan.mem_blankChanges,
    Plan.mem_volumeChanges, Plan.mem_muteChanges] at isChange
  rcases isChange with ⟨kind, output, input, rfl, -⟩ |
    (⟨on, rfl, -⟩ | ⟨block, level, rfl, -⟩) | ⟨block, muted, rfl, -⟩
  all_goals exact ⟨rfl, by simp [Command.field]⟩

/-- Before everything else the power is switched, or nothing is done. -/
theorem lead_cases (desired : DeviceState) (device : DeviceId) (config : DeviceConfig)
    (handle : Handle) : ((Work.apply desired).plan device config handle).lead = [] ∨
      ∃ on, ((Work.apply desired).plan device config handle).lead = [.setPower on] := by
  simp only [Work.plan, Plan.accepted, Plan.powerChanges]
  cases desired.poweredOn with
  | none => exact Or.inl rfl
  | some on =>
      by_cases refused : (Plan.refusal? config handle (.setPower on)).isNone = true
      · exact Or.inr ⟨on, by simp [refused]⟩
      · exact Or.inl (by simp [refused])

end Applying

namespace Hardware

variable {hardware : Hardware} {address : String} {work : Work} {device : DeviceId}
  {config : DeviceConfig} {handle : Handle} {commands : List Command}

/-- The deals of a plan are the same in any order in which it may be carried out. -/
theorem perm_deals (hardware : Hardware) (address : String)
    (orders : Orders (work.plan device config handle) commands) :
    (hardware.deals address commands).Perm
      (hardware.deals address (work.plan device config handle).commands) := by
  cases work with
  | apply desired =>
      rcases orders with ⟨first, second, rfl, leads, follows⟩
      have short : first.length ≤ 1 := by
        rw [leads.length_eq]
        rcases lead_cases desired device config handle with isLead | ⟨on, isLead⟩ <;> simp [isLead]
      -- at most the power comes first, and no write after it decides whether others are obeyed
      obtain rfl := eq_of_perm_of_length leads short
      rw [Plan.commands, deals_append, deals_append,
        deals_of_writes fun command member => sets_of_mem_lanes (follows.subset member),
        deals_of_writes fun command member => sets_of_mem_lanes member]
      exact (follows.map _).append_left _
  | read =>
      have reads : ∀ command ∈ commands, command.setting? = none ∧ command ≠ .info :=
        fun command member => reads_of_mem_commands (orders.perm.subset member)
      rw [deals_of_reads reads, deals_of_reads fun command member => reads_of_mem_commands member]
      exact orders.perm.map _
  | probeHealth =>
      have short := Work.length_probe .probeHealth device config handle (Or.inl rfl)
      rw [eq_of_perm_of_length orders.perm (orders.perm.length_eq.trans_le short)]
  | probeInfo =>
      have short := Work.length_probe .probeInfo device config handle (Or.inr rfl)
      rw [eq_of_perm_of_length orders.perm (orders.perm.length_eq.trans_le short)]

/-- A plan that was carried out before makes the same deals when it is carried out again. -/
theorem deals_again {desired : DeviceState} (hardware : Hardware) (address : String)
    (orders : Orders ((Work.apply desired).plan device config handle) commands) :
    (hardware.afterAll address commands).deals address
        ((Work.apply desired).plan device config handle).commands =
      hardware.deals address ((Work.apply desired).plan device config handle).commands := by
  rcases orders with ⟨first, second, rfl, leads, follows⟩
  have writes : ∀ command ∈ second, command.setting?.isSome = true ∧ command.field ≠ .poweredOn :=
    fun command member => sets_of_mem_lanes (follows.subset member)
  have writes' : ∀ command ∈ ((Work.apply desired).plan device config handle).lanes.flatten,
      command.setting?.isSome = true ∧ command.field ≠ .poweredOn :=
    fun command member => sets_of_mem_lanes member
  rw [Plan.commands, afterAll_append]
  rcases lead_cases desired device config handle with isLead | ⟨on, isLead⟩
  · rw [isLead, List.perm_nil] at leads
    rw [isLead, leads, List.nil_append, deals_of_writes writes', deals_of_writes writes']
    refine List.map_congr_left fun command member => deal_congr ?_
    exact (obeysAs_afterAll address writes hardware).reply (writes' command member).1 address
  · -- the power is switched to the same again, whatever it was when the plan began
    rw [isLead, List.perm_singleton] at leads
    rw [isLead, leads, deals_append, deals_append, deals_of_writes writes',
      deals_of_writes writes']
    have obeys := obeysAs_afterAll address writes (hardware.afterAll address [.setPower on])
    have fields : ∀ field, ((hardware.after address (.setPower on)).setting? field).isSome =
        (hardware.setting? field).isSome := isSome_after_write rfl hardware address
    rcases obeysAs_after_power (by simp) (fun field => (obeys.fields field).trans (fields field))
      on address with ⟨samePower, obeys'⟩
    refine congrArg₂ _ (congrArg (fun deal => [deal]) samePower) ?_
    exact List.map_congr_left fun command member =>
      deal_congr (obeys'.reply (writes' command member).1 address)

end Hardware

end AvControl.Virtual

import AvControl.Proofs.Engine.Concealment
import AvControl.Proofs.Virtual.Visits

/-!
# Worlds that look the same

Two worlds look the same when the same is read of the devices at every address. Whoever asks for
the same in both is told the same, but for the blocks that sound processors list, and leaves them
looking the same. Reading changes nothing of how a world looks.
-/

namespace AvControl

open Virtual

namespace Virtual.Hardware

variable {hardware other : Hardware} {address : String} {work : Work} {device : DeviceId}
  {config : DeviceConfig} {handle : Handle} {commands others : List Command}

theorem ReadsAs.after (reads : hardware.ReadsAs other) (address : String) (command : Command) :
    (hardware.after address command).ReadsAs (other.after address command) := by
  cases sets : command.setting? with
  | none =>
      exact (readsAs_after sets hardware address).trans
        (reads.trans (readsAs_after sets other address).symm)
  | some setting =>
      have notInfo : command ≠ .info := by
        rintro rfl
        cases sets
      refine ⟨by simp [reads.model], fun field => ?_⟩
      rw [setting?_after_write sets, setting?_after_write sets, reads.reply notInfo,
        reads.settings]

/-- Devices of which the same is read make the same deals, but for the blocks that they list. -/
theorem ReadsAs.conceal_deal (reads : hardware.ReadsAs other) (address : String)
    (command : Command) :
    (hardware.deal address command).conceal = (other.deal address command).conceal := by
  by_cases isInfo : command = .info
  · subst isInfo
    rcases reads.cases with rfl | ⟨state, state', rfl, rfl, -⟩
    · rfl
    · have same := DeviceInfo.conceal_blocks address state.blocks.keys state'.blocks.keys
      exact congrArg (fun info => (⟨.info, .ok info⟩ : Deal)) same
  · rw [deal_congr (reads.reply isInfo address)]

theorem ReadsAs.conceal_deals (address : String) (commands : List Command) :
    ∀ {hardware other : Hardware}, hardware.ReadsAs other →
      (hardware.deals address commands).map Deal.conceal =
        (other.deals address commands).map Deal.conceal := by
  induction commands with
  | nil => exact fun _ => rfl
  | cons command rest ih =>
      intro hardware other reads
      simp only [deals, List.map_cons, reads.conceal_deal address command,
        ih (reads.after address command)]

theorem ReadsAs.afterAll (address : String) (commands : List Command) :
    ∀ {hardware other : Hardware}, hardware.ReadsAs other →
      (hardware.afterAll address commands).ReadsAs (other.afterAll address commands) := by
  induction commands with
  | nil => exact fun reads => reads
  | cons command rest ih => exact fun reads => ih (reads.after address command)

/-- The state that a device achieves when it carries out some commands. -/
def achieved (hardware : Hardware) (address : String) (commands : List Command) : DeviceState :=
  ((hardware.deals address commands).filterMap Deal.finding?).foldl DeviceState.learn {}

theorem achieved_of_orders (hardware : Hardware) (address : String)
    (orders : Orders (work.plan device config handle) commands) :
    hardware.achieved address commands =
      hardware.achieved address (work.plan device config handle).commands := by
  refine DeviceState.foldl_learn_perm ((hardware.perm_deals address orders).filterMap _) ?_ {}
  have all := (Deal.perm_commands (hardware.deals address commands)).trans
    ((command_deals address commands hardware) ▸ orders.perm)
  exact (List.pairwise_append.1
    (all.symm.pairwise (work.apart_commands device config handle) Command.Apart.symm)).2.1

theorem sets_of_orders {desired : DeviceState}
    (orders : Orders ((Work.apply desired).plan device config handle) commands) :
    ∀ command ∈ commands, command.setting?.isSome = true :=
  fun _ member => sets_of_mem_commands (orders.perm.subset member)

theorem setting?_of_orders {desired : DeviceState} (hardware : Hardware) (address : String)
    (orders : Orders ((Work.apply desired).plan device config handle) commands) (field : Field) :
    (hardware.afterAll address commands).setting? field =
      ((hardware.achieved address commands).setting? field).or (hardware.setting? field) :=
  setting?_afterAll address (sets_of_orders orders) hardware field

/-- A device looks the same after a plan in whatever order the plan was carried out. -/
theorem readsAs_of_orders (hardware : Hardware) (address : String)
    (orders : Orders (work.plan device config handle) commands)
    (orders' : Orders (work.plan device config handle) others) :
    (hardware.afterAll address commands).ReadsAs (hardware.afterAll address others) := by
  by_cases applies : ∃ desired, work = .apply desired
  · rcases applies with ⟨desired, rfl⟩
    refine ⟨by simp, fun field => ?_⟩
    rw [setting?_of_orders hardware address orders, setting?_of_orders hardware address orders',
      achieved_of_orders hardware address orders, achieved_of_orders hardware address orders']
  · have reads : ∀ {some : List Command}, Orders (work.plan device config handle) some →
        ∀ command ∈ some, command.setting? = none := fun isOrder command member =>
      Work.setting?_of_reads (fun desired same => applies ⟨desired, same⟩)
        (isOrder.perm.subset member)
    exact (readsAs_afterAll address (reads orders) hardware).trans
      (readsAs_afterAll address (reads orders') hardware).symm

end Virtual.Hardware

/-! ### Tasks that cannot tell devices apart -/

namespace Task

variable {δ : Type} [Driver δ] [Enacts δ] {task : Task} {hardware other : Hardware}
  {world world' : World δ} {outcome outcome' : Outcome}

/-- To a task two devices are the same, but for the blocks that they list. -/
structure Conflates (task : Task) (hardware other : Hardware) : Prop where
  model : hardware.model = other.model
  deals : (hardware.deals task.config.address (task.planFor hardware).commands).map Deal.conceal =
    (other.deals task.config.address (task.planFor hardware).commands).map Deal.conceal

theorem planFor_congr (task : Task) (model : hardware.model = other.model) :
    task.planFor hardware = task.planFor other := by rw [planFor, planFor, model]

theorem conflates_of_readsAs (task : Task) (reads : hardware.ReadsAs other) :
    task.Conflates hardware other := ⟨reads.model, reads.conceal_deals _ _⟩

/-- A task brings the same from devices that are the same to it. -/
theorem Achieves.accords {operation : Operation} {room : RoomConfig}
    (isTarget : (task.device, task.work) ∈ operation.targets room)
    (conflates : task.Conflates hardware other) (achieves : task.Achieves hardware world outcome)
    (achieves' : task.Achieves other world' outcome') :
    outcome.conceal.Accords operation outcome'.conceal := by
  cases achieves with
  | unreached unreachable =>
      cases achieves' with
      | unreached => exact ⟨rfl, .refl _, List.nodup_singleton _⟩
      | done reachable => exact absurd (reachable.symm.trans unreachable) (by simp)
  | @done _ performed reachable orders _ findings reports =>
      cases achieves' with
      | unreached unreachable => exact absurd (reachable.symm.trans unreachable) (by simp)
      | @done _ performed' _ orders' _ findings' reports' =>
          rw [← task.planFor_congr conflates.model] at orders' reports'
          have madeOf : task.MadeOf (task.planFor hardware)
              (hardware.deals task.config.address performed) outcome := ⟨findings, reports⟩
          have madeOf' : task.MadeOf (task.planFor hardware)
              (other.deals task.config.address performed') outcome' := ⟨findings', reports'⟩
          refine Task.MadeOf.accords isTarget madeOf.conceal madeOf'.conceal ?_ ?_
          · simpa [Function.comp_def, planFor] using orders.perm
          · refine ((hardware.perm_deals task.config.address orders).map _).trans ?_
            rw [show (task.work.plan task.device task.config hardware.model.handle).commands =
              (task.planFor hardware).commands from rfl, conflates.deals]
            exact ((other.perm_deals task.config.address orders').map _).symm

/-- A task that does not apply a state leaves its device as it looks. -/
theorem Achieves.readsAs (reads : ∀ desired, task.work ≠ .apply desired)
    (achieves : task.Achieves hardware world outcome) :
    ∃ hardware', world.hardwareAt task.config.driver task.config.address = some hardware' ∧
      hardware.ReadsAs hardware' := by
  cases achieves with
  | unreached _ rests => exact ⟨_, rests.hardwareAt, .refl _⟩
  | done _ orders rests =>
      refine ⟨_, rests.hardwareAt, (Hardware.readsAs_afterAll _ (fun command member => ?_) _).symm⟩
      exact Work.setting?_of_reads reads (orders.perm.subset member)

/-- Devices that look the same do so after the same task. -/
theorem Achieves.readsAs_of_readsAs (reads : hardware.ReadsAs other)
    (achieves : task.Achieves hardware world outcome)
    (achieves' : task.Achieves other world' outcome') :
    ∃ after after', world.hardwareAt task.config.driver task.config.address = some after ∧
      world'.hardwareAt task.config.driver task.config.address = some after' ∧
        after.ReadsAs after' := by
  cases achieves with
  | unreached unreachable rests =>
      cases achieves' with
      | unreached _ rests' => exact ⟨_, _, rests.hardwareAt, rests'.hardwareAt, reads⟩
      | done reachable => exact absurd (reachable.symm.trans unreachable) (by simp)
  | done reachable orders rests =>
      cases achieves' with
      | unreached unreachable => exact absurd (reachable.symm.trans unreachable) (by simp)
      | done _ orders' rests' =>
          rw [← task.planFor_congr reads.model] at orders'
          refine ⟨_, _, rests.hardwareAt, rests'.hardwareAt, ?_⟩
          exact (hardware.readsAs_of_orders _ orders orders').trans (reads.afterAll _ _)

end Task

/-! ### Worlds -/

namespace World

variable {δ : Type} [Driver δ] [Enacts δ] {world other before before' after after' : World δ}
  {session : Session} {answer answer' : Answer} {request : RoomRequest} {room : RoomConfig}

/-- The same is read of the devices at every address. -/
structure Resembles (world other : World δ) : Prop where
  tokens : other.tokens = world.tokens
  hardware : ∀ driver address, Option.Rel Hardware.ReadsAs (world.hardwareAt driver address)
    (other.hardwareAt driver address)

omit [Driver δ] [Enacts δ] in
theorem readsAs_refl : ∀ hardware : Option Hardware,
    Option.Rel Hardware.ReadsAs hardware hardware
  | none => .none
  | some hardware => .some (.refl hardware)

namespace Resembles

theorem refl (world : World δ) : world.Resembles world := ⟨rfl, fun _ _ => readsAs_refl _⟩

theorem cases (resembles : world.Resembles other) (driver address : String) :
    (world.hardwareAt driver address = none ∧ other.hardwareAt driver address = none) ∨
      ∃ hardware hardware', world.hardwareAt driver address = some hardware ∧
        other.hardwareAt driver address = some hardware' ∧ hardware.ReadsAs hardware' := by
  have reads := resembles.hardware driver address
  generalize world.hardwareAt driver address = hardware at reads ⊢
  generalize other.hardwareAt driver address = hardware' at reads ⊢
  cases reads with
  | none => exact Or.inl ⟨rfl, rfl⟩
  | some reads => exact Or.inr ⟨_, _, rfl, rfl, reads⟩

theorem readsAs (resembles : world.Resembles other) {driver address : String}
    {hardware hardware' : Hardware} (isHardware : world.hardwareAt driver address = some hardware)
    (isHardware' : other.hardwareAt driver address = some hardware') :
    hardware.ReadsAs hardware' := by
  rcases resembles.cases driver address with ⟨isNone, -⟩ | ⟨_, _, isThere, isThere', reads⟩
  · cases isHardware.symm.trans isNone
  · obtain rfl := Option.some.inj (isHardware.symm.trans isThere)
    obtain rfl := Option.some.inj (isHardware'.symm.trans isThere')
    exact reads

theorem symm (resembles : world.Resembles other) : other.Resembles world := by
  refine ⟨resembles.tokens.symm, fun driver address => ?_⟩
  rcases resembles.cases driver address with
    ⟨isNone, isNone'⟩ | ⟨_, _, isHardware, isHardware', reads⟩
  · rw [isNone, isNone']
    exact .none
  · rw [isHardware, isHardware']
    exact .some reads.symm

theorem trans {third : World δ} (first : world.Resembles other) (second : other.Resembles third) :
    world.Resembles third := by
  refine ⟨second.tokens.trans first.tokens, fun driver address => ?_⟩
  rcases first.cases driver address with
    ⟨isNone, isNone'⟩ | ⟨_, _, isFirst, isSecond, reads⟩
  · rw [isNone, ← isNone']
    exact second.hardware driver address
  · rcases second.cases driver address with ⟨isNone, -⟩ | ⟨_, _, isSecond', isThird, -⟩
    · cases isSecond.symm.trans isNone
    · rw [isFirst, isThird]
      exact .some (reads.trans (second.readsAs isSecond isThird))

theorem registered (resembles : world.Resembles other) (name : String) :
    (world.registry.get name).isSome = (other.registry.get name).isSome := by
  rw [← isSome_hardwareAt world name "", ← isSome_hardwareAt other name ""]
  rcases resembles.cases name "" with ⟨isNone, isNone'⟩ | ⟨_, _, isHardware, isHardware', -⟩
  · rw [isNone, isNone']
  · rw [isHardware, isHardware']
    rfl

theorem setting? (resembles : world.Resembles other) (driver address : String) (field : Field) :
    world.setting? driver address field = other.setting? driver address field := by
  rcases resembles.cases driver address with
    ⟨isNone, isNone'⟩ | ⟨_, _, isHardware, isHardware', reads⟩
  · simp [World.setting?, isNone, isNone']
  · simp [World.setting?, isHardware, isHardware', reads.settings]

end Resembles

theorem of_registry_resembles (registry : after.registry = before.registry)
    (tokens : after.tokens = before.tokens) : before.Resembles after := by
  refine ⟨tokens, fun driver address => ?_⟩
  rw [hardwareAt, hardwareAt, registry]
  exact readsAs_refl _

namespace Served

/-- Two requests are answered alike when their tasks cannot tell the devices of two worlds apart. -/
theorem conceal_eq (served : before.Served session answer after)
    (served' : before'.Served session answer' after')
    (targets : ∀ task ∈ session.tasks,
      (task.device, task.work) ∈ session.operation.targets room)
    (conflates : ∀ task ∈ session.tasks, ∀ hardware hardware',
      before.hardwareAt task.config.driver task.config.address = some hardware →
      before'.hardwareAt task.config.driver task.config.address = some hardware' →
        task.Conflates hardware hardware') : answer.conceal = answer'.conceal := by
  refine served.gathers.conceal.eq_of_accords served'.gathers.conceal ?_
  rintro task isTask _ _ ⟨outcome, ⟨hardware, isHardware, achieves⟩, rfl⟩
    ⟨outcome', ⟨hardware', isHardware', achieves'⟩, rfl⟩
  exact achieves.accords (targets task isTask)
    (conflates task isTask hardware hardware' isHardware isHardware') achieves'

/-- What holds of the devices that a request contacts and of all others holds of all devices. -/
theorem resembles_of (served : before.Served session answer after)
    (tokens : other.tokens = after.tokens)
    (contacted : ∀ task ∈ session.tasks, ∀ hardware outcome,
      before.hardwareAt task.config.driver task.config.address = some hardware →
      task.Achieves hardware after outcome →
        Option.Rel Hardware.ReadsAs (after.hardwareAt task.config.driver task.config.address)
          (other.hardwareAt task.config.driver task.config.address))
    (elsewhere : ∀ driver address,
      (∀ task ∈ session.tasks, (task.config.driver, task.config.address) ≠ (driver, address)) →
        Option.Rel Hardware.ReadsAs (before.hardwareAt driver address)
          (other.hardwareAt driver address)) : after.Resembles other := by
  refine ⟨tokens, fun driver address => ?_⟩
  by_cases isContacted : ∃ task ∈ session.tasks,
      (task.config.driver, task.config.address) = (driver, address)
  · rcases isContacted with ⟨task, isTask, here⟩
    obtain ⟨rfl, rfl⟩ := Prod.mk.inj here
    rcases served.gathers.tasks task isTask with ⟨outcome, ⟨hardware, isHardware, achieves⟩, -⟩
    exact contacted task isTask hardware outcome isHardware achieves
  · push Not at isContacted
    rw [served.elsewhere driver address isContacted]
    exact elsewhere driver address isContacted

theorem resembles_of_reads (served : before.Served session answer after)
    (reads : ∀ task ∈ session.tasks, ∀ desired, task.work ≠ .apply desired) :
    before.Resembles after := by
  refine (served.resembles_of served.tokens.symm ?_ fun _ _ _ => readsAs_refl _).symm
  intro task isTask hardware outcome isHardware achieves
  rcases achieves.readsAs (reads task isTask) with ⟨hardware', isHardware', looksAlike⟩
  rw [isHardware, isHardware']
  exact .some looksAlike.symm

/-- Worlds that look the same do so after the same was asked of them. -/
theorem resembles (served : before.Served session answer after)
    (served' : before'.Served session answer' after') (resembles : before.Resembles before') :
    after.Resembles after' := by
  have tokens : after'.tokens = after.tokens := by
    rw [served'.tokens, served.tokens, resembles.tokens]
  refine served.resembles_of tokens ?_ fun driver address isElsewhere => ?_
  · intro task isTask hardware outcome isHardware achieves
    rcases served'.gathers.tasks task isTask with
      ⟨outcome', ⟨hardware', isHardware', achieves'⟩, -⟩
    have reads := resembles.readsAs isHardware isHardware'
    rcases achieves.readsAs_of_readsAs reads achieves' with ⟨_, _, isAfter, isAfter', reads'⟩
    rw [isAfter, isAfter']
    exact .some reads'
  · rw [served'.elsewhere driver address isElsewhere]
    exact resembles.hardware driver address

end Served

/-- Two replies are there and say the same, but for the blocks that sound processors list. -/
def AnsweredAlike (reply reply' : Option (Except RequestError Answer)) : Prop :=
  ∃ told told', reply = some told ∧ reply' = some told' ∧
    told.map Answer.conceal = told'.map Answer.conceal

namespace Concludes

variable {reply reply' : Option (Except RequestError Answer)}

theorem conceal_reply (concludes : before.Concludes request (after, reply))
    (notInfo : request.operation ≠ .info) : reply.map (Except.map Answer.conceal) = reply := by
  cases concludes with
  | refused => rfl
  | served prepared served =>
      rw [← (ready_of_prepare prepared).operation, ← served.gathers.operation] at notInfo
      exact congrArg (some ∘ Except.ok) (Answer.conceal_of_operation notInfo)

/-- A visit that applies no state leaves a world as it looks. -/
theorem resembles_of_reads (concludes : before.Concludes request (after, reply))
    (reads : ∀ change, request.operation ≠ .set change) : before.Resembles after := by
  cases concludes with
  | refused _ registry tokens => exact of_registry_resembles registry tokens
  | served prepared served =>
      have ready := ready_of_prepare prepared
      rw [← ready.operation] at reads
      exact served.resembles_of_reads fun task isTask =>
        Operation.not_apply reads (ready.targets isTask)

/-- Who visits worlds that look the same is told the same, and they go on looking the same. -/
theorem resembles (concludes : before.Concludes request (after, reply))
    (concludes' : before'.Concludes request (after', reply'))
    (background : request.InBackground before.tokens) (resembles : before.Resembles before') :
    after.Resembles after' ∧ AnsweredAlike reply reply' := by
  have prepare : before.prepare request = before'.prepare request := by
    refine prepare_congr request ?_ resembles.registered
    rw [interruption?, interruption?, resembles.tokens]
    exact (background.live _).trans (background.live _).symm
  cases concludes with
  | refused refused registry tokens =>
      rw [prepare] at refused
      cases concludes' with
      | refused refused' registry' tokens' =>
          obtain rfl := Except.error.inj (refused.symm.trans refused')
          refine ⟨?_, _, _, rfl, rfl, rfl⟩
          exact (of_registry_resembles registry tokens).symm.trans
            (resembles.trans (of_registry_resembles registry' tokens'))
      | served prepared' => cases refused.symm.trans prepared'
  | @served _ session _ prepared served =>
      have targets : ∀ task ∈ session.tasks,
          (task.device, task.work) ∈ session.operation.targets request.room :=
        fun task isTask => (ready_of_prepare prepared).targets isTask
      rw [prepare] at prepared
      cases concludes' with
      | refused refused' => cases prepared.symm.trans refused'
      | served prepared' served' =>
          obtain rfl := Except.ok.inj (prepared.symm.trans prepared')
          refine ⟨served.resembles served' resembles, _, _, rfl, rfl, ?_⟩
          refine congrArg Except.ok (served.conceal_eq served' targets ?_)
          intro task _ hardware hardware' isHardware isHardware'
          exact task.conflates_of_readsAs (resembles.readsAs isHardware isHardware')

end Concludes

end World

end AvControl

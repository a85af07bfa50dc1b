import AvControl.Proofs.Virtual.Resemblance

/-!
# Doing the same again

When states are set that were set before, every device is wanted to do what it has done already. It
makes the same deals, since the power is switched first and what can be set after that does not hang
on what was set before; and it ends up looking as it did. So the answer is the same, and so is all
that is read afterwards.
-/

namespace AvControl

open Virtual

namespace Virtual.Hardware

variable {device : DeviceId} {config : DeviceConfig} {handle : Handle}
  {commands others : List Command}

/-- A plan that is carried out for a second time changes nothing that is read. -/
theorem readsAs_again {desired : DeviceState} (hardware : Hardware) (address : String)
    (orders : Orders ((Work.apply desired).plan device config handle) commands)
    (orders' : Orders ((Work.apply desired).plan device config handle) others) :
    (hardware.afterAll address commands).ReadsAs
      ((hardware.afterAll address commands).afterAll address others) := by
  refine ⟨by simp, fun field => ?_⟩
  have again : (hardware.afterAll address commands).achieved address others =
      hardware.achieved address commands := by
    rw [achieved_of_orders _ address orders', achieved_of_orders hardware address orders, achieved,
      deals_again hardware address orders]
    rfl
  rw [setting?_of_orders _ address orders', again, setting?_of_orders hardware address orders,
    ← Option.or_assoc, Option.or_self]

end Virtual.Hardware

/-- A task that is done again cannot tell its device from what it was, and leaves it as it looks. -/
theorem Task.Achieves.again {δ : Type} [Driver δ] [Enacts δ] {task : Task}
    {hardware hardware' : Hardware} {once twice : World δ} {outcome outcome' : Outcome}
    {desired : DeviceState} (applies : task.work = .apply desired)
    (achieves : task.Achieves hardware once outcome)
    (isHardware : once.hardwareAt task.config.driver task.config.address = some hardware')
    (achieves' : task.Achieves hardware' twice outcome') :
    task.Conflates hardware hardware' ∧ ∃ hardware'',
      twice.hardwareAt task.config.driver task.config.address = some hardware'' ∧
        hardware'.ReadsAs hardware'' := by
  cases achieves with
  | unreached unreachable rests =>
      obtain rfl := Option.some.inj (rests.hardwareAt.symm.trans isHardware)
      refine ⟨task.conflates_of_readsAs (.refl _), ?_⟩
      cases achieves' with
      | unreached _ rests' => exact ⟨_, rests'.hardwareAt, .refl _⟩
      | done reachable => exact absurd (reachable.symm.trans unreachable) (by simp)
  | @done _ performed reachable orders rests =>
      obtain rfl := Option.some.inj (rests.hardwareAt.symm.trans isHardware)
      have sameModel : hardware.model =
          (hardware.afterAll task.config.address performed).model := by simp
      have samePlan := task.planFor_congr sameModel
      rw [planFor, applies] at orders
      refine ⟨⟨sameModel, ?_⟩, ?_⟩
      · rw [planFor, applies, Hardware.deals_again hardware _ orders]
      · cases achieves' with
        | unreached unreachable => exact absurd (reachable.symm.trans unreachable) (by simp)
        | done _ orders' rests' =>
            rw [← samePlan, planFor, applies] at orders'
            exact ⟨_, rests'.hardwareAt, hardware.readsAs_again _ orders orders'⟩

namespace World

section Visits

variable {δ : Type} [Driver δ] [Enacts δ] {start once twice : World δ}
  {request repeated : RoomRequest} {change : StateRequest} {session : Session}
  {answer answer' : Answer} {reply reply' : Option (Except RequestError Answer)}

theorem Served.again (served : start.Served session answer once)
    (served' : once.Served session answer' twice) {room : RoomConfig}
    (isSet : session.operation = .set change)
    (targets : ∀ task ∈ session.tasks,
      (task.device, task.work) ∈ session.operation.targets room) :
    answer = answer' ∧ once.Resembles twice := by
  have again : ∀ task ∈ session.tasks, ∀ hardware hardware',
      start.hardwareAt task.config.driver task.config.address = some hardware →
      once.hardwareAt task.config.driver task.config.address = some hardware' →
        task.Conflates hardware hardware' ∧ ∃ hardware'',
          twice.hardwareAt task.config.driver task.config.address = some hardware'' ∧
            hardware'.ReadsAs hardware'' := by
    intro task isTask hardware hardware' isHardware isHardware'
    have isTarget := targets task isTask
    rw [isSet] at isTarget
    rcases Operation.exists_apply isTarget with ⟨desired, -, applies⟩
    rcases served.gathers.tasks task isTask with ⟨_, ⟨_, isFirst, achieves⟩, -⟩
    rcases served'.gathers.tasks task isTask with ⟨_, ⟨_, isSecond, achieves'⟩, -⟩
    obtain rfl := Option.some.inj (isHardware.symm.trans isFirst)
    obtain rfl := Option.some.inj (isHardware'.symm.trans isSecond)
    exact achieves.again applies isHardware' achieves'
  constructor
  · have notInfo : session.operation ≠ .info := by simp [isSet]
    have same : answer.conceal = answer'.conceal := by
      refine served.conceal_eq served' targets fun task isTask hardware hardware' => ?_
      exact fun isHardware isHardware' => (again task isTask _ _ isHardware isHardware').1
    rwa [Answer.conceal_of_operation (served.gathers.operation ▸ notInfo),
      Answer.conceal_of_operation (served'.gathers.operation ▸ notInfo)] at same
  · refine served.resembles_of served'.tokens ?_ fun driver address isElsewhere => ?_
    · intro task isTask hardware outcome isHardware achieves
      rcases served'.gathers.tasks task isTask with ⟨_, ⟨hardware', isHardware', -⟩, -⟩
      rcases (again task isTask hardware hardware' isHardware isHardware').2 with
        ⟨hardware'', isHardware'', reads⟩
      rw [isHardware', isHardware'']
      exact .some reads
    · rw [served'.elsewhere driver address isElsewhere,
        served.elsewhere driver address isElsewhere]
      exact readsAs_refl _

/-- Who sets the same states again is told the same again, and the world looks as it did. -/
theorem Concludes.again (concludes : start.Concludes request (once, reply))
    (concludes' : once.Concludes repeated (twice, reply'))
    (sets : request.operation = .set change) (sets' : repeated.operation = .set change)
    (sameRoom : repeated.room = request.room) (background : request.InBackground start.tokens)
    (background' : repeated.InBackground start.tokens) :
    ∃ told, reply = some told ∧ reply' = some told ∧ once.Resembles twice := by
  have prepare : once.prepare repeated = (start.prepare request).map fun session =>
      { session with context := repeated.context, cancelAt := repeated.cancelAt } :=
    prepare_again (sets'.trans sets.symm) sameRoom
      ((background.live _).trans (concludes.tokens ▸ background'.live _).symm)
      fun name => (concludes.registered name).symm
  cases concludes with
  | refused refused registry tokens =>
      rw [refused] at prepare
      cases concludes' with
      | refused refused' registry' tokens' =>
          obtain rfl := Except.error.inj (refused'.symm.trans prepare)
          exact ⟨_, rfl, rfl, of_registry_resembles registry' tokens'⟩
      | served prepared' => cases prepared'.symm.trans prepare
  | @served _ session _ prepared served =>
      rw [prepared] at prepare
      have ready := ready_of_prepare prepared
      cases concludes' with
      | refused refused' => cases refused'.symm.trans prepare
      | served prepared' served' =>
          obtain rfl := Except.ok.inj (prepared'.symm.trans prepare)
          rcases served.again served'.under (ready.operation.trans sets)
            (fun task isTask => ready.targets isTask) with ⟨rfl, resembles⟩
          exact ⟨_, rfl, rfl, resembles⟩

end Visits

/--
When the same states are set twice in the background, in a world of virtual devices in which nobody
is about to open one, the reply is the same both times. After the second time every field of every
device is set to what it was set to after the first, and whoever gets the states of a room is told
the same.
-/
theorem set_idempotent {world : World VirtualDriver} (reachable : world.Reachable)
    (calm : world.Calm) {first again : Visit} {change : StateRequest}
    (sets : first.request.operation = .set change)
    (setsAgain : again.request.operation = .set change)
    (sameRoom : again.request.room = first.request.room) (apart : first.request.room.Apart)
    (background : first.request.InBackground world.tokens)
    (backgroundAgain : again.request.InBackground world.tokens) :
    ∃ once twice reply, world.visit first = (once, some reply) ∧
      once.visit again = (twice, some reply) ∧
      (∀ driver address field,
        twice.setting? driver address field = once.setting? driver address field) ∧
      ∀ look : Visit, look.request.operation = .get → look.request.room.Apart →
        look.request.InBackground world.tokens → (twice.visit look).2 = (once.visit look).2 := by
  have rest : world.AtRest := ⟨reachable.wired, calm⟩
  have concludes := visit_concludes rest apart background
  generalize world.visit first = visited at concludes
  rcases visited with ⟨once, reply⟩
  have tokens := concludes.tokens
  have restOnce := concludes.rest rest
  have concludes' := visit_concludes restOnce (sameRoom ▸ apart) (tokens ▸ backgroundAgain)
  generalize isTwice : once.visit again = visited' at concludes'
  rcases visited' with ⟨twice, reply'⟩
  rcases concludes.again concludes' sets setsAgain sameRoom background backgroundAgain with
    ⟨told, rfl, rfl, resembles⟩
  refine ⟨once, twice, told, rfl, isTwice, fun driver address field => ?_, ?_⟩
  · exact (resembles.setting? driver address field).symm
  · intro look isGet apartLook inBackground
    have inBackground' := tokens.symm ▸ inBackground
    have looks := visit_concludes restOnce apartLook inBackground'
    have looks' := visit_concludes (concludes'.rest restOnce) apartLook
      (concludes'.tokens.symm ▸ inBackground')
    have answered : AnsweredAlike (once.visit look).2 (twice.visit look).2 :=
      (looks.resembles looks' inBackground' resembles).2
    rcases answered with ⟨told, told', isTold, isTold', same⟩
    have notInfo : look.request.operation ≠ .info := by simp [isGet]
    have concealed : (once.visit look).2.map (Except.map Answer.conceal) = (once.visit look).2 :=
      looks.conceal_reply notInfo
    have concealed' : (twice.visit look).2.map (Except.map Answer.conceal) =
        (twice.visit look).2 := looks'.conceal_reply notInfo
    rw [← concealed, ← concealed', isTold, isTold']
    exact congrArg some same.symm

theorem set_idempotent_lab :
    let world := labWorld ({ model := .display } : VirtualDriver)
    let visit := labVisit (.set (labLevel 40 true))
    world.Reachable ∧ world.Calm ∧ visit.request.room.Apart ∧
      visit.request.InBackground world.tokens ∧
      ∃ once twice reply, world.visit visit = (once, some reply) ∧
        once.visit visit = (twice, some reply) ∧
        (∀ driver address field,
          twice.setting? driver address field = once.setting? driver address field) ∧
        ∀ look : Visit, look.request.operation = .get → look.request.room.Apart →
          look.request.InBackground world.tokens →
            (twice.visit look).2 = (once.visit look).2 := by
  intro world visit
  have reachable : world.Reachable := (unused_labWorld .display).reachable
  have calm : world.Calm := calm_labWorld _
  have background : visit.request.InBackground world.tokens := inBackground_labVisit _ _
  exact ⟨reachable, calm, apart_lab, background,
    set_idempotent reachable calm rfl rfl rfl apart_lab background background⟩

end World

end AvControl

import AvControl.Proofs.Engine.Service
import AvControl.Proofs.Virtual.Duty

/-!
# One request after another

A world is at rest when nobody is about to open any of its devices. A request in the background
that finds it at rest is answered: it does not pass the checks, and nothing happens, or every device
that it contacts does what is asked of it. All other devices stay as they are, and in the end the
world is at rest again, so that the next request finds it so.
-/

namespace AvControl

open Relation Virtual

/-- A request that has no deadline and that nobody cancels. -/
structure RoomRequest.InBackground (request : RoomRequest) (tokens : Tokens) : Prop where
  unbounded : request.context.deadline = none
  patient : request.cancelAt = none
  uncancelled : tokens.isCancelled request.context.token = false

theorem RoomRequest.InBackground.live {request : RoomRequest} {tokens : Tokens}
    (background : request.InBackground tokens) (now : Nat) :
    request.context.interruption? tokens now = none := by
  simp [RequestContext.interruption?, background.uncancelled, background.unbounded]

/-! ### Devices that nobody has to do with -/

namespace CachedDriver

variable {δ : Type} [Driver δ] {cached : CachedDriver δ} {address other : String}

theorem grounded_advance (grounded : cached.inFlight.get? other = none) (tokens : Tokens)
    (now number : Nat) : (cached.advance tokens now number).inFlight.get? other = none := by
  simp only [advance]
  split
  · exact grounded
  · split
    · exact grounded
    · split
      · simp [finish, grounded]
      · split
        · split
          · simp [grounded]
          · exact grounded
        · exact grounded

/-- An attempt begins only at the address that somebody asks for. -/
theorem grounded_poll (away : other ≠ address) (grounded : cached.inFlight.get? other = none)
    (tokens : Tokens) (now ticket : Nat) (context : RequestContext) (caller : Caller) :
    (cached.poll tokens now ticket context address caller).cached.inFlight.get? other = none := by
  simp only [poll]
  split
  · exact grounded
  · exact grounded_advance grounded _ _ _
  · split
    · exact grounded
    · split
      · exact grounded_advance grounded _ _ _
      · unfold start
        dsimp only
        split
        · simp [away, grounded]
        · exact grounded_advance (by simp [away, grounded]) _ _ _

end CachedDriver

namespace World

variable {δ : Type} [Driver δ] [Enacts δ] {world before after : World δ} {driver address : String}
  {hardware : Option Hardware}

/-- A device is as it is, nobody is about to open it, and the wiring is in order. -/
structure StaysAt (world : World δ) (driver address : String) (hardware : Option Hardware) :
    Prop where
  wired : world.WiredAt driver address
  grounded : ∀ cached, world.registry.get driver = some cached →
    cached.inFlight.get? address = none
  hardware : world.hardwareAt driver address = hardware

namespace StaysAt

theorem of_registry (stays : before.StaysAt driver address hardware)
    (same : after.registry = before.registry) : after.StaysAt driver address hardware := by
  rcases stays with ⟨wired, grounded, isHardware⟩
  rw [WiredAt, ← same] at wired
  rw [← same] at grounded
  rw [World.hardwareAt, ← same] at isHardware
  exact ⟨wired, grounded, isHardware⟩

end StaysAt

omit [Driver δ] [Enacts δ] in
theorem grounded_of_set {name : String} {cached cached' : CachedDriver δ}
    (grounded : ∀ cached, before.registry.get driver = some cached →
      cached.inFlight.get? address = none)
    (found : before.registry.get name = some cached)
    (isSet : after.registry = before.registry.set name cached')
    (keeps : driver = name → cached.inFlight.get? address = none →
      cached'.inFlight.get? address = none) :
    ∀ cached, after.registry.get driver = some cached → cached.inFlight.get? address = none := by
  intro other isOther
  by_cases same : driver = name
  · subst same
    rw [isSet, get_set] at isOther
    obtain rfl := Option.some.inj isOther
    exact keeps rfl (grounded cached found)
  · rw [isSet, get_set_ne _ same] at isOther
    exact grounded other isOther

end World

namespace Task.Does

variable {δ : Type} [Driver δ] {task : Task} {context : RequestContext} {world world' : World δ}
  {deal : Option Deal} {driver address : String}

/-- A task has nobody open another device than its own. -/
theorem grounded (does : task.Does context world world' deal)
    (apart : (task.config.driver, task.config.address) ≠ (driver, address))
    (grounded : ∀ cached, world.registry.get driver = some cached →
      cached.inFlight.get? address = none) :
    ∀ cached, world'.registry.get driver = some cached →
      cached.inFlight.get? address = none := by
  cases found : world.registry.get task.config.driver with
  | none =>
      cases does with
      | rests => exact grounded
      | looks caller =>
          rw [opened, World.lookAfter_missing found]
          exact grounded
      | calls command =>
          simp only [World.beginCall, found]
          exact grounded
      | finishes done =>
          rw [World.finishCall_missing found] at done
          cases done
  | some cached =>
      cases does with
      | rests => exact grounded
      | looks caller =>
          rcases World.lookAfter_eq found task.config.address context caller with
            ⟨journal, tickets, same⟩
          rw [opened, same]
          refine World.grounded_of_set grounded found rfl fun sameDriver isGrounded => ?_
          have away : address ≠ task.config.address := fun here => apart (by rw [sameDriver, here])
          exact CachedDriver.grounded_poll away isGrounded _ _ _ _ _
      | calls command =>
          simp only [World.beginCall, found]
          exact World.grounded_of_set grounded found rfl fun _ isGrounded => isGrounded
      | finishes done =>
          rw [World.finishCall_eq found, Prod.mk.injEq] at done
          rcases done with ⟨rfl, -⟩
          exact World.grounded_of_set grounded found rfl fun _ isGrounded => isGrounded

theorem staysAt [Enacts δ] {hardware : Option Hardware} (does : task.Does context world world' deal)
    (apart : (task.config.driver, task.config.address) ≠ (driver, address))
    (stays : world.StaysAt driver address hardware) : world'.StaysAt driver address hardware := by
  rcases does.elsewhere apart stays.wired with ⟨wired, same⟩
  exact ⟨wired, does.grounded apart stays.grounded, same.trans stays.hardware⟩

end Task.Does

namespace Session

theorem attend_patient {δ : Type} {session : Session} (patient : session.cancelAt = none)
    (world : World δ) : (session.attend world).1 = world := by
  have attends := session.attend_attends world
  generalize session.attend world = attended at attends
  cases attends with
  | rests | givesUp | collects => rfl
  | cancels _ _ _ time => simp [isToBeCancelled, patient] at time

end Session

namespace Run

variable {δ : Type} [Driver δ] {run next : Run δ} {driver address : String}

/-- Nobody cancels a request. -/
def Patient (run : Run δ) : Prop := ∀ session ∈ run.sessions, session.cancelAt = none

theorem Advances.continues (advances : run.Advances next) {session' : Session}
    (member : session' ∈ next.sessions) :
    ∃ session ∈ run.sessions, session.Continues session' := by
  cases advances with
  | waits => exact ⟨session', member, .refl session'⟩
  | @attends i session isSession =>
      rcases List.mem_or_eq_of_mem_set member with isOld | rfl
      · exact ⟨session', isOld, .refl session'⟩
      · exact ⟨session, List.mem_of_getElem? isSession, session.continues_attend run.world⟩
  | @stirs i j session task result isSession unfinished isTask stirs =>
      rcases List.mem_or_eq_of_mem_set member with isOld | rfl
      · exact ⟨session', isOld, .refl session'⟩
      · rcases stirs.eq_enter with ⟨phase, same⟩
        have continues := Session.continues_enter phase result.2.2 isTask
        rw [← same] at continues
        exact ⟨session, List.mem_of_getElem? isSession, continues⟩

theorem Advances.patient (advances : run.Advances next) (patient : run.Patient) :
    next.Patient := by
  intro session' member
  rcases advances.continues member with ⟨session, isSession, continues⟩
  exact continues.cancelAt.trans (patient session isSession)

theorem Advances.spares (advances : run.Advances next) (spares : run.Spares driver address) :
    next.Spares driver address := by
  intro session' member task isTask
  rcases advances.continues member with ⟨session, isSession, continues⟩
  rcases continues.symm.mem isTask with ⟨phase, wasTask⟩
  exact spares session isSession (task.enter phase) wasTask

variable [Enacts δ]

/-- Nothing is cancelled unless somebody cancels a request. -/
theorem Advances.tokens (advances : run.Advances next) (patient : run.Patient) :
    next.world.tokens = run.world.tokens := by
  cases advances with
  | waits => rfl
  | @attends i session isSession =>
      rw [Session.attend_patient (patient session (List.mem_of_getElem? isSession))]
  | stirs _ _ _ stirs =>
      rcases stirs.exists_does with ⟨deal, does, -⟩
      exact does.tokens

/-- A device that no task is for stays as it is. -/
theorem Advances.staysAt {hardware : Option Hardware} (advances : run.Advances next)
    (spares : run.Spares driver address) (stays : run.world.StaysAt driver address hardware) :
    next.world.StaysAt driver address hardware := by
  cases advances with
  | waits => exact stays.of_registry rfl
  | @attends i session isSession =>
      rcases attend_world session run.world with ⟨tokens, -, same⟩
      exact stays.of_registry (by rw [same])
  | @stirs i j session task result isSession _ isTask stirs =>
      rcases stirs.exists_does with ⟨deal, does, -⟩
      exact does.staysAt (spares session (List.mem_of_getElem? isSession) task
        (List.mem_of_getElem? isTask)) stays

theorem tokens_of_advances (advances : ReflTransGen Advances run next) (patient : run.Patient) :
    next.world.tokens = run.world.tokens := by
  have both : next.Patient ∧ next.world.tokens = run.world.tokens := by
    induction advances with
    | refl => exact ⟨patient, rfl⟩
    | tail _ advances ih => exact ⟨advances.patient ih.1, (advances.tokens ih.1).trans ih.2⟩
  exact both.2

theorem staysAt_of_advances {hardware : Option Hardware} (advances : ReflTransGen Advances run next)
    (spares : run.Spares driver address) (stays : run.world.StaysAt driver address hardware) :
    next.world.StaysAt driver address hardware := by
  have both : next.Spares driver address ∧ next.world.StaysAt driver address hardware := by
    induction advances with
    | refl => exact ⟨spares, stays⟩
    | tail _ advances ih => exact ⟨advances.spares ih.1, advances.staysAt ih.1 ih.2⟩
  exact both.2

end Run

/-! ### Worlds at rest -/

namespace World

variable {δ : Type} [Driver δ] [Enacts δ] {world before after : World δ} {request : RoomRequest}
  {session : Session}

/-- The wiring is in order, and nobody is about to open a device. -/
structure AtRest (world : World δ) : Prop where
  wired : world.Wired
  calm : world.Calm

theorem AtRest.of_registry (rest : before.AtRest) (same : after.registry = before.registry) :
    after.AtRest := by
  refine ⟨Preserves.wired (.of_registry same) rest.wired, ?_⟩
  rw [Calm, same]
  exact rest.calm

theorem AtRest.staysAt (rest : world.AtRest) (driver address : String) :
    world.StaysAt driver address (world.hardwareAt driver address) :=
  ⟨rest.wired driver address, fun cached found => rest.calm driver cached found address, rfl⟩

theorem AtRest.restsAt (rest : world.AtRest) {driver : String}
    (registered : (world.registry.get driver).isSome = true) (address : String) :
    ∃ hardware, world.hardwareAt driver address = some hardware ∧
      world.RestsAt driver address hardware := by
  rcases Option.isSome_iff_exists.1 registered with ⟨cached, found⟩
  exact ⟨_, hardwareAt_eq found address, cached, found, rest.wired driver address cached found,
    rest.calm driver cached found address, rfl⟩

theorem RestsAt.hardwareAt {driver address : String} {hardware : Hardware}
    (rests : world.RestsAt driver address hardware) :
    world.hardwareAt driver address = some hardware := by
  rcases rests with ⟨cached, found, -, -, rfl⟩
  exact hardwareAt_eq found address

/-- What comes of a request in the background that has passed the checks. -/
structure Served (before : World δ) (session : Session) (answer : Answer) (after : World δ) :
    Prop where
  gathers : answer.Gathers session fun task outcome => ∃ hardware,
    before.hardwareAt task.config.driver task.config.address = some hardware ∧
      task.Achieves hardware after outcome
  elsewhere : ∀ driver address,
    (∀ task ∈ session.tasks, (task.config.driver, task.config.address) ≠ (driver, address)) →
      after.hardwareAt driver address = before.hardwareAt driver address
  tokens : after.tokens = before.tokens
  rest : after.AtRest

namespace Served

variable {answer : Answer}

theorem registered (served : before.Served session answer after) (driver : String) :
    (after.registry.get driver).isSome = (before.registry.get driver).isSome := by
  rw [← isSome_hardwareAt after driver "", ← isSome_hardwareAt before driver ""]
  by_cases contacted : ∃ task ∈ session.tasks,
      (task.config.driver, task.config.address) = (driver, "")
  · rcases contacted with ⟨task, isTask, here⟩
    rcases served.gathers.tasks task isTask with ⟨outcome, ⟨hardware, isHardware, achieves⟩, -⟩
    rcases achieves.exists_restsAt with ⟨hardware', rests⟩
    have isHardware' := rests.hardwareAt
    rw [(Prod.mk.inj here).1, (Prod.mk.inj here).2] at isHardware isHardware'
    rw [isHardware, isHardware']
    rfl
  · push Not at contacted
    rw [served.elsewhere driver "" contacted]

theorem under {context : RequestContext} {cancelAt : Option Nat}
    (served : before.Served { session with context, cancelAt } answer after) :
    before.Served session answer after :=
  ⟨⟨served.gathers.operation, served.gathers.sorted, served.gathers.tasks, served.gathers.others⟩,
    served.elsewhere, served.tokens, served.rest⟩

end Served

theorem tokens_serveOne (world : World δ) (patient : request.cancelAt = none)
    (patience : Option Nat) : (world.serveOne request patience).1.tokens = world.tokens := by
  rw [world_serveOne]
  have advances := (world.engage [request]).advances_complete patience
  refine Run.tokens_of_advances advances fun session member => ?_
  rcases mem_engage member with ⟨other, isOther, ready⟩
  obtain rfl := List.mem_singleton.1 isOther
  exact ready.cancelAt.trans patient

/-- A device that a request does not contact stays as it is. -/
theorem staysAt_serveOne (rest : world.AtRest) (prepared : world.prepare request = .ok session)
    {driver address : String} (spared : ∀ task ∈ session.tasks,
      (task.config.driver, task.config.address) ≠ (driver, address)) :
    (world.serveOne request none).1.StaysAt driver address (world.hardwareAt driver address) := by
  rw [world_serveOne]
  have advances := (world.engage [request]).advances_complete none
  refine Run.staysAt_of_advances advances ?_ (rest.staysAt driver address)
  intro other isOther
  simp only [engage, List.map_cons, List.map_nil, prepared, Except.toOption, List.filterMap_cons,
    List.filterMap_nil, List.mem_singleton] at isOther
  subst isOther
  exact spared

/-- A request in the background that passes the checks in a world at rest is answered. -/
theorem serveOne_served (rest : world.AtRest) (apart : request.room.Apart)
    (background : request.InBackground world.tokens)
    (prepared : world.prepare request = .ok session) :
    ∃ answer, (world.serveOne request none).2 = some (.ok answer) ∧
      world.Served session answer (world.serveOne request none).1 := by
  have tokens := world.tokens_serveOne background.patient none
  have inBackground : world.Background request := by
    refine ⟨background.unbounded, background.patient, ?_⟩
    rw [interruption?, tokens]
    exact background.live _
  have ready := ready_of_prepare prepared
  have resting : ∀ task ∈ session.tasks, ∃ hardware,
      world.hardwareAt task.config.driver task.config.address = some hardware ∧
        task.StaysOnDuty session.context hardware world task := by
    intro task isTask
    rcases ready.assigned isTask with ⟨target, -, assigned⟩
    rcases rest.restsAt assigned.registered task.config.address with ⟨hardware, isHardware, rests⟩
    exact ⟨hardware, isHardware, Task.onDuty_of_fresh rests assigned.fresh session.context⟩
  -- every task is watched with the device in mind that it finds
  have : Nonempty Hardware := ⟨Model.display.fresh⟩
  choose! hardwareOf isHardware fresh using resting
  rcases serveOne_gathers rest.calm apart inBackground prepared
    (fun task => task.StaysOnDuty session.context (hardwareOf task))
    (fun task => task.Achieves (hardwareOf task))
    (fun task _ => task.watch_onDuty session.context (hardwareOf task)) fresh
    (fun _ _ _ _ stays => stays.2.stirs) with ⟨answer, served, gathers⟩
  refine ⟨answer, served, ⟨gathers.operation, gathers.sorted, fun task isTask => ?_,
    gathers.others⟩, fun driver address spared => (staysAt_serveOne rest prepared spared).hardware,
    tokens, ?_, fun driver cached found address => ?_⟩
  · rcases gathers.tasks task isTask with ⟨outcome, achieves, tells⟩
    exact ⟨outcome, ⟨hardwareOf task, isHardware task isTask, achieves⟩, tells⟩
  · rw [world_serveOne]
    exact (Run.happenings_serve world [request] none).wired rest.wired
  · by_cases contacted : ∃ task ∈ session.tasks,
        (task.config.driver, task.config.address) = (driver, address)
    · rcases contacted with ⟨task, isTask, here⟩
      obtain ⟨rfl, rfl⟩ := Prod.mk.inj here
      rcases gathers.tasks task isTask with ⟨outcome, achieves, -⟩
      rcases achieves.exists_restsAt with ⟨hardware, cached', found', -, grounded, -⟩
      obtain rfl := Option.some.inj (found.symm.trans found')
      exact grounded
    · push Not at contacted
      exact (staysAt_serveOne rest prepared contacted).grounded cached found

end World

/-! ### Visits -/

/-- A request that is made some time after the last one was answered. -/
structure Visit where
  pause : Nat := 0
  request : RoomRequest

namespace World

/-- A visit of the lab. -/
def labVisit (operation : Operation) : Visit where
  request := { operation, room := lab, context := { deadline := none, token := 0 } }

theorem inBackground_labVisit {δ : Type} (driver : δ) (operation : Operation) :
    (labVisit operation).request.InBackground (labWorld driver).tokens := ⟨rfl, rfl, rfl⟩

variable {δ : Type} [Driver δ]

/-- Let the time pass until somebody visits, and serve the request. -/
def visit (world : World δ) (visit : Visit) : World δ × Option (Except RequestError Answer) :=
  World.serveOne { world with clock := world.clock + visit.pause } visit.request none

variable [Enacts δ]

/-- How a visit ends. -/
inductive Concludes (before : World δ) (request : RoomRequest) :
    World δ × Option (Except RequestError Answer) → Prop
  | refused {after : World δ} {error : RequestError}
      (refused : before.prepare request = .error error)
      (registry : after.registry = before.registry) (tokens : after.tokens = before.tokens) :
      Concludes before request (after, some (.error error))
  | served {after : World δ} {session : Session} {answer : Answer}
      (prepared : before.prepare request = .ok session)
      (served : before.Served session answer after) :
      Concludes before request (after, some (.ok answer))

/-- In a world at rest every visit in the background ends like this. -/
theorem visit_concludes {world : World δ} {visit : Visit} (rest : world.AtRest)
    (apart : visit.request.room.Apart) (background : visit.request.InBackground world.tokens) :
    world.Concludes visit.request (world.visit visit) := by
  have prepare : World.prepare { world with clock := world.clock + visit.pause } visit.request =
      world.prepare visit.request := by
    refine prepare_congr _ ?_ fun _ => rfl
    exact (background.live _).trans (background.live _).symm
  have rest' : AtRest { world with clock := world.clock + visit.pause } := rest.of_registry rfl
  cases prepared : world.prepare visit.request with
  | error error =>
      rw [World.visit, serveOne_refused (prepare.trans prepared)]
      exact .refused prepared rfl rfl
  | ok session =>
      rcases serveOne_served rest' apart background (prepare.trans prepared) with
        ⟨answer, answered, served⟩
      have whole : world.visit visit = ((world.visit visit).1, some (.ok answer)) :=
        Prod.ext rfl answered
      rw [whole]
      exact .served prepared ⟨served.gathers, served.elsewhere, served.tokens, served.rest⟩

namespace Concludes

variable {before after : World δ} {request : RoomRequest}
  {reply : Option (Except RequestError Answer)}

theorem tokens (concludes : before.Concludes request (after, reply)) :
    after.tokens = before.tokens := by
  cases concludes with
  | refused _ _ tokens => exact tokens
  | served _ served => exact served.tokens

theorem rest (concludes : before.Concludes request (after, reply)) (rest : before.AtRest) :
    after.AtRest := by
  cases concludes with
  | refused _ registry => exact rest.of_registry registry
  | served _ served => exact served.rest

theorem registered (concludes : before.Concludes request (after, reply)) (driver : String) :
    (after.registry.get driver).isSome = (before.registry.get driver).isSome := by
  cases concludes with
  | refused _ registry => rw [registry]
  | served _ served => exact served.registered driver

end Concludes

end World

end AvControl

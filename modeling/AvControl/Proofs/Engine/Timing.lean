import AvControl.Proofs.Engine.Service
import AvControl.Proofs.Engine.Testimony

/-!
# Time tells nothing

The answer to a request in the background depends on what its openings and calls come to, and on
nothing else. However long drivers keep them waiting, as long as it is not for ever, the request is
answered; and if every opening and every call comes to the same under two assignments of delays, the
two answers are the same.
-/

namespace AvControl

namespace World

variable {δ : Type} {world other : World (Delayed δ)} {config : DeviceConfig}
  {known : Option Handle}

/-- Every opening and every call that has come to an end in both worlds came to the same. -/
structure Agree (world other : World (Delayed δ)) : Prop where
  openings : ∀ {driver address : String} {reply reply' : Reply Handle},
    world.Said driver (.finishOpen address) reply →
      other.Said driver (.finishOpen address) reply' → reply = reply'
  calls : ∀ {driver address : String} {command : Command} {reply reply' : Reply command.Result},
    world.Said driver (.finishCall address command) reply →
      other.Said driver (.finishCall address command) reply' → reply = reply'

namespace Agree

theorem symm (agree : world.Agree other) : other.Agree world :=
  ⟨fun said said' => (agree.openings said' said).symm,
    fun said said' => (agree.calls said' said).symm⟩

theorem told {result result' : Except DriverError Handle} (agree : world.Agree other)
    (told : world.Told config known result) (told' : other.Told config known result') :
    result = result' := by
  rcases told with ⟨cached, found, told⟩
  rcases told' with ⟨cached', found', told'⟩
  cases known with
  | some handle => exact Eq.trans told (Eq.symm told')
  | none =>
      rcases told with ⟨reply, said, rfl⟩
      rcases told' with ⟨reply', said', rfl⟩
      exact congrArg Reply.opening (agree.openings ⟨cached, found, said⟩ ⟨cached', found', said'⟩)

theorem vouched {deal deal' : Deal} (agree : world.Agree other)
    (vouches : world.Vouches config deal) (vouches' : other.Vouches config deal')
    (same : deal.command = deal'.command) : deal = deal' := by
  rcases deal with ⟨command, result⟩
  rcases deal' with ⟨command', result'⟩
  obtain rfl : command = command' := same
  rcases vouches with ⟨reply, said, isResult⟩
  rcases vouches' with ⟨reply', said', isResult'⟩
  rw [agree.calls said said', isResult'] at isResult
  obtain rfl := Verdict.done.inj isResult
  rfl

end Agree

end World

namespace Task

variable {δ : Type} {task : Task} {world other : World (Delayed δ)} {known : Option Handle}
  {outcome outcome' : Outcome} {plan : Plan}

/-- A task is not done with its plan where a command of the plan has broken down. -/
theorem Witnessed.not_crashed (witnessed : task.Witnessed plan world [] outcome)
    (agree : world.Agree other) {command : Command} (wanted : command ∈ plan.commands)
    (said : other.Said task.config.driver (.finishCall task.config.address command) .crash) :
    False := by
  rcases witnessed with ⟨deals, -, -, all, vouched⟩
  rw [List.append_nil] at all
  rcases List.mem_map.1 (all.symm.subset wanted) with ⟨deal, member, rfl⟩
  rcases vouched deal member with ⟨reply, said', isResult⟩
  rw [agree.calls said' said] at isResult
  cases isResult

theorem Witnessed.accords {operation : Operation} {room : RoomConfig} {handle : Handle}
    (isTarget : (task.device, task.work) ∈ operation.targets room) (agree : world.Agree other)
    (witnessed : task.Witnessed (task.work.plan task.device task.config handle) world [] outcome)
    (witnessed' : task.Witnessed (task.work.plan task.device task.config handle) other []
      outcome') : outcome.Accords operation outcome' := by
  rcases witnessed with ⟨deals, findings, reports, all, vouched⟩
  rcases witnessed' with ⟨deals', findings', reports', all', vouched'⟩
  rw [List.append_nil] at all all'
  exact MadeOf.accords isTarget ⟨findings, reports⟩ ⟨findings', reports'⟩ all <|
    perm_of_map_perm (all.trans all'.symm) fun deal member deal' member' =>
      agree.vouched (vouched deal member) (vouched' deal' member')

/-- Where all comes to the same, a task brings the same, perhaps in another order. -/
theorem Brings.accords {operation : Operation} {room : RoomConfig}
    (isTarget : (task.device, task.work) ∈ operation.targets room) (agree : world.Agree other)
    (brings : task.Brings known world outcome) (brings' : task.Brings known other outcome') :
    outcome.Accords operation outcome' := by
  cases brings with
  | unopened told =>
      cases brings' with
      | unopened told' =>
          obtain rfl := Except.error.inj (agree.told told told')
          exact ⟨rfl, .refl _, List.nodup_singleton _⟩
      | crashed told' | done told' => cases agree.told told told'
  | crashed told wanted said =>
      cases brings' with
      | unopened told' => cases agree.told told told'
      | crashed => exact ⟨rfl, .refl _, List.nodup_singleton _⟩
      | done told' witnessed =>
          obtain rfl := Except.ok.inj (agree.told told told')
          exact (witnessed.not_crashed agree.symm wanted said).elim
  | done told witnessed =>
      cases brings' with
      | unopened told' => cases agree.told told told'
      | crashed told' wanted said =>
          obtain rfl := Except.ok.inj (agree.told told told')
          exact (witnessed.not_crashed agree wanted said).elim
      | done told' witnessed' =>
          obtain rfl := Except.ok.inj (agree.told told told')
          exact witnessed.accords isTarget agree witnessed'

end Task

namespace World

variable {δ : Type}

section Delayed

variable (delays : String → Delays) (world : World δ)

theorem get_delayed (name : String) : (world.delayed delays).registry.get name =
    (world.registry.get name).map fun cached =>
      { cached with driver := { driver := cached.driver, delays := delays name } } := by
  simp only [Registry.get, delayed, SortedMap.get?_mapValues]

theorem prepare_delayed (request : RoomRequest) :
    (world.delayed delays).prepare request = world.prepare request :=
  prepare_congr request rfl fun name => by rw [get_delayed, Option.isSome_map]

theorem calm_delayed {world : World δ} (calm : world.Calm) : (world.delayed delays).Calm := by
  intro name cached found address
  rw [get_delayed] at found
  rcases Option.map_eq_some_iff.1 found with ⟨cached', found', rfl⟩
  exact calm name cached' found' address

end Delayed

/-- The handle that is remembered for a device. -/
def known (world : World δ) (config : DeviceConfig) : Option Handle :=
  (world.registry.get config.driver).bind fun cached => cached.handles.get? config.address

theorem vouched_start {world : World δ} (delays : String → Delays) {task : Task}
    (calm : world.Calm) (fresh : task.phase = .opening .fresh)
    (registered : (world.registry.get task.config.driver).isSome = true)
    (context : RequestContext) :
    task.Vouched context (world.known task.config) (world.delayed delays) := by
  rcases Option.isSome_iff_exists.1 registered with ⟨cached, found⟩
  have found' := world.get_delayed delays task.config.driver
  rw [found] at found'
  refine .opens fresh rfl found' (.fresh ?_ (calm _ _ found _))
  simp [known, found]

end World

/-- An answer says of every device what its task has brought, and nothing of others. -/
structure Answer.Testifies {δ : Type} (answer : Answer) (session : Session)
    (known : DeviceConfig → Option Handle) (world : World (Delayed δ)) : Prop where
  operation : answer.operation = session.operation
  sorted : answer.response.errors.Pairwise fun a b => (a.compare b).isLE = true
  tasks : ∀ task ∈ session.tasks, ∃ outcome, task.Brings (known task.config) world outcome ∧
    answer.Tells task.device outcome
  others : ∀ device, device ∉ session.tasks.map Task.device → answer.Tells device {}

theorem Answer.Testifies.gathers {δ : Type} {answer : Answer} {session : Session}
    {known : DeviceConfig → Option Handle} {world : World (Delayed δ)}
    (testifies : answer.Testifies session known world) :
    answer.Gathers session fun task => task.Brings (known task.config) world :=
  ⟨testifies.operation, testifies.sorted, testifies.tasks, testifies.others⟩

/-- Where all comes to the same, answers say the same. -/
theorem Answer.Testifies.eq_of_agree {δ : Type} {answer other : Answer} {session : Session}
    {room : RoomConfig} {known : DeviceConfig → Option Handle} {world world' : World (Delayed δ)}
    (testifies : answer.Testifies session known world)
    (testifies' : other.Testifies session known world')
    (targets : ∀ task ∈ session.tasks,
      (task.device, task.work) ∈ session.operation.targets room)
    (agree : world.Agree world') : answer = other := by
  exact Answer.Gathers.eq_of_accords testifies.gathers testifies'.gathers
    fun task isTask _ _ brings brings' => brings.accords (targets task isTask) agree brings'

namespace World

variable {δ : Type} [Driver δ]

/-- A request in the background is answered, whatever the delays are, as its drivers say. -/
theorem serveOne_testifies {world : World δ} {request : RoomRequest} {session : Session}
    (delays : String → Delays) (calm : world.Calm)
    (apart : ∀ device config other config', request.room.devices.get? device = some config →
      request.room.devices.get? other = some config' → device ≠ other →
        (config.driver, config.address) ≠ (config'.driver, config'.address))
    (background : (world.delayed delays).Background request)
    (prepared : world.prepare request = .ok session) :
    ∃ answer, ((world.delayed delays).serveOne request none).2 = some (.ok answer) ∧
      answer.Testifies session world.known ((world.delayed delays).serveOne request none).1 := by
  have prepared' := (world.prepare_delayed delays request).trans prepared
  have gathered := serveOne_gathers (world.calm_delayed delays calm) apart background prepared'
    (fun task => task.Follows session.context (world.known task.config))
    (fun task => task.Brings (world.known task.config))
    (fun task _ => task.watch_vouched session.context (world.known task.config))
    (fun task isTask => ?_) (fun _ _ _ _ follows => follows.2.stirs)
  · rcases gathered with ⟨answer, served, gathers⟩
    exact ⟨answer, served, gathers.operation, gathers.sorted, gathers.tasks, gathers.others⟩
  · rcases (ready_of_prepare prepared).assigned isTask with ⟨target, -, assigned⟩
    exact ⟨⟨task.phase, rfl⟩, vouched_start delays calm assigned.fresh assigned.registered _⟩

/--
The response to a request in the background does not depend on how long its openings and calls are
kept waiting: where each of them comes to the same, there is one and the same response.
-/
theorem timing_independent {world : World δ} {request : RoomRequest}
    {delays delays' : String → Delays} (calm : world.Calm)
    (apart : ∀ device config other config', request.room.devices.get? device = some config →
      request.room.devices.get? other = some config' → device ≠ other →
        (config.driver, config.address) ≠ (config'.driver, config'.address))
    (background : (world.delayed delays).Background request)
    (background' : (world.delayed delays').Background request)
    (agree : ((world.delayed delays).serveOne request none).1.Agree
      ((world.delayed delays').serveOne request none).1) :
    ∃ response, ((world.delayed delays).serveOne request none).2 = some response ∧
      ((world.delayed delays').serveOne request none).2 = some response := by
  cases prepared : world.prepare request with
  | error error =>
      have refused := fun delays => (world.prepare_delayed delays request).trans prepared
      exact ⟨.error error, by rw [serveOne_refused (refused delays)],
        by rw [serveOne_refused (refused delays')]⟩
  | ok session =>
      rcases serveOne_testifies delays calm apart background prepared with
        ⟨answer, served, testifies⟩
      rcases serveOne_testifies delays' calm apart background' prepared with
        ⟨answer', served', testifies'⟩
      have ready := ready_of_prepare prepared
      obtain rfl := testifies.eq_of_agree testifies' (fun _ isTask => ready.targets isTask) agree
      exact ⟨.ok answer, served, served'⟩

/-- A script by which neither device of the lab can say how it is. -/
def deafLab : Script where
  devices :=
    let deaf : Script.Device :=
      { rules := SortedMap.empty.insert "healthy" { fails := some "offline" } }
    (SortedMap.empty.insert "lab" deaf).insert "annex" deaf

/-- Whether this is what a driver says by that script. -/
def isDeaf : Exchange → Bool
  | ⟨.beginOpen _, _⟩ | ⟨.beginCall _ _, _⟩ => true
  | ⟨.finishOpen _, .ok handle⟩ => handle = Handle.full
  | ⟨.finishCall _ _, .error error⟩ => error = { message := "offline" }
  | _ => false

/-- Whether the drivers of a world have said nothing but that. -/
def isDeafWorld (world : World (Delayed ScriptedDriver)) : Bool :=
  world.registry.drivers.entries.all fun entry => entry.2.driver.exchanges.all isDeaf

theorem Said.isDeaf {world : World (Delayed ScriptedDriver)} (all : isDeafWorld world = true)
    {driver : String} {ask : Ask} {response : ask.Response}
    (said : world.Said driver ask response) : isDeaf ⟨ask, response⟩ = true := by
  rcases said with ⟨cached, found, member⟩
  exact List.all_eq_true.1 (List.all_eq_true.1 all _ (SortedMap.mem_entries_iff.2 found)) _ member

theorem agree_of_isDeaf {world other : World (Delayed ScriptedDriver)}
    (all : isDeafWorld world = true) (all' : isDeafWorld other = true) : world.Agree other := by
  constructor
  case openings =>
    intro driver address reply reply' said said'
    have deaf := said.isDeaf all
    have deaf' := said'.isDeaf all'
    cases reply <;> cases reply' <;> simp_all [isDeaf]
  case calls =>
    intro driver address command reply reply' said said'
    have deaf := said.isDeaf all
    have deaf' := said'.isDeaf all'
    cases reply <;> cases reply' <;> simp_all [isDeaf]

/-- Delays under which the second device is the first to report. -/
def annexFirst : Delays := fun _ ask => if ask.address = "lab" then 7 else 3

/-- Delays under which it is the last one. -/
def annexLast : Delays := fun _ ask => if ask.address = "lab" then 0 else 2

theorem timing_independent_annexedLab :
    let request : RoomRequest :=
      { operation := .health, room := annexedLab, context := { deadline := none, token := 0 } }
    let world := labWorld ({ script := deafLab } : ScriptedDriver)
    ∃ response,
      ((world.delayed fun _ => annexFirst).serveOne request none).2 = some response ∧
      ((world.delayed fun _ => annexLast).serveOne request none).2 = some response := by
  intro request world
  have apart : ∀ device config other config', request.room.devices.get? device = some config →
      request.room.devices.get? other = some config' → device ≠ other →
        (config.driver, config.address) ≠ (config'.driver, config'.address) := by
    intro device config other config' isDevice isOther differ
    simp only [request, annexedLab, lab, SortedMap.get?_insert, SortedMap.get?_empty] at *
    split at isDevice <;> split at isOther <;> grind
  have live : ∀ delays ∈ [annexFirst, annexLast],
      ((world.delayed fun _ => delays).serveOne request none).1.interruption? request.context =
        none := by decide +kernel
  have deaf : ∀ delays ∈ [annexFirst, annexLast],
      isDeafWorld ((world.delayed fun _ => delays).serveOne request none).1 = true := by
    decide +kernel
  exact timing_independent (calm_labWorld _) apart
    ⟨rfl, rfl, live annexFirst (by simp)⟩ ⟨rfl, rfl, live annexLast (by simp)⟩
    (agree_of_isDeaf (deaf annexFirst (by simp)) (deaf annexLast (by simp)))

end World

end AvControl

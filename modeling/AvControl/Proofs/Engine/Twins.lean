import AvControl.Proofs.Engine.Locality

/-!
# Twins

A task may have a twin in another world: the same work on the same device, come as far. When the
drivers of both worlds say the same about this device, looking after both at the same time brings
both as far again. They are told apart by the numbers of attempts and by the places of waits only,
which depend on what else goes on in their worlds.
-/

namespace AvControl

/-- Two attempts at an address under a context that have come as far. -/
structure Attempt.Twins (context : RequestContext) (address : String) (a b : Attempt) : Prop where
  here : a.address = address
  here' : b.address = address
  own : a.context = context
  own' : b.context = context
  stage : a.stage = b.stage

namespace CachedDriver

variable {δ : Type} [Driver δ]

/-- Two drivers with a memory that say the same about an address. -/
structure Twins (origin : δ) (address : String) (a b : CachedDriver δ) : Prop where
  driver : Driver.AlikeAt origin address a.driver b.driver
  handles : a.handles.get? address = b.handles.get? address

/-- Two callers that want the device at an address opened and have come as far. -/
inductive Callers (context : RequestContext) (address : String) (a b : CachedDriver δ) :
    Caller → Caller → Prop
  | fresh (grounded : a.inFlight.get? address = none) (grounded' : b.inFlight.get? address = none) :
      Callers context address a b .fresh .fresh
  | joined {number number' : Nat} {attempt attempt' : Attempt}
      (found : a.attempts[number]? = some attempt) (found' : b.attempts[number']? = some attempt')
      (twins : attempt.Twins context address attempt') (waiting : attempt.result? = none) :
      Callers context address a b (.joined number) (.joined number')
  | answered (result : Except DriverError Handle) :
      Callers context address a b (.answered result) (.answered result)

variable {origin : δ} {context : RequestContext} {address : String} {a b : CachedDriver δ}

omit [Driver δ] in
theorem callers_follow {number number' : Nat} {attempt attempt' : Attempt}
    (found : a.attempts[number]? = some attempt) (found' : b.attempts[number']? = some attempt')
    (twins : attempt.Twins context address attempt') :
    Callers context address a b (.follow a number) (.follow b number') := by
  have sameResult : attempt'.result? = attempt.result? := by
    simp only [Attempt.result?, twins.stage]
  simp only [Caller.follow, found, found', Option.bind_some, sameResult]
  cases ended : attempt.result? with
  | none => exact .joined found found' twins ended
  | some result => exact .answered result

/-- The end of twin attempts, with the same result, is answered alike. -/
theorem Twins.conclude (twins : Twins origin address a b) (context : RequestContext)
    {number number' : Nat} {attempt attempt' : Attempt} (found : a.attempts[number]? = some attempt)
    (found' : b.attempts[number']? = some attempt') (result : Except DriverError Handle) :
    Twins origin address (a.conclude number address result) (b.conclude number' address result) ∧
      Callers context address (a.conclude number address result)
        (b.conclude number' address result)
        (.follow (a.conclude number address result) number)
        (.follow (b.conclude number' address result) number') := by
  rw [follow_conclude found, follow_conclude found']
  refine ⟨⟨twins.driver, ?_⟩, .answered result⟩
  simp only [get?_handles_conclude, if_true, twins.handles]

/-- Looking after twin attempts brings both as far. -/
theorem Twins.advance (twins : Twins origin address a b)
    (apart : Driver.KeepsApart origin address) {number number' : Nat} {attempt attempt' : Attempt}
    (found : a.attempts[number]? = some attempt) (found' : b.attempts[number']? = some attempt')
    (same : attempt.Twins context address attempt') (tokens : Tokens) (now : Nat) :
    Twins origin address (a.advance tokens now number) (b.advance tokens now number') ∧
      Callers context address (a.advance tokens now number) (b.advance tokens now number')
        (.follow (a.advance tokens now number) number)
        (.follow (b.advance tokens now number') number') := by
  simp only [CachedDriver.advance, found, found', same.here, same.here', same.own, same.own',
    ← same.stage]
  cases attempt.stage with
  | ended => exact ⟨twins, callers_follow found found' same⟩
  | waiting due heedsContext =>
      dsimp only
      split
      · have here : (Ask.finishOpen address).address = address := rfl
        rcases twins.driver.ask apart here with ⟨sameReply, alike⟩
        have asked : Twins origin address
            { a with driver := (Driver.finishOpen a.driver address).1 }
            { b with driver := (Driver.finishOpen b.driver address).1 } := ⟨alike, twins.handles⟩
        simp only [finish, show (Driver.finishOpen a.driver address).2 =
          (Driver.finishOpen b.driver address).2 from sameReply]
        exact asked.conclude context found found' _
      · split
        · split
          · exact twins.conclude context found found' _
          · exact ⟨twins, callers_follow found found' same⟩
        · exact ⟨twins, callers_follow found found' same⟩

/-- Twin attempts that begin at the same time come as far. -/
theorem Twins.start (twins : Twins origin address a b) (apart : Driver.KeepsApart origin address)
    (tokens : Tokens) (now ticket ticket' : Nat) :
    Twins origin address (a.start tokens now ticket context address).1
        (b.start tokens now ticket' context address).1 ∧
      Callers context address (a.start tokens now ticket context address).1
        (b.start tokens now ticket' context address).1
        (.follow (a.start tokens now ticket context address).1 a.attempts.length)
        (.follow (b.start tokens now ticket' context address).1 b.attempts.length) ∧
      (a.start tokens now ticket context address).2 =
        (b.start tokens now ticket' context address).2 := by
  have here : (Ask.beginOpen address).address = address := rfl
  rcases twins.driver.ask apart here with ⟨sameReaction, alike⟩
  let begun (c : CachedDriver δ) (ticket : Nat) : Attempt := {
    address, context, ticket
    stage := .waiting ((Driver.beginOpen b.driver address).2.wait.due now)
      (Driver.beginOpen b.driver address).2.heedsContext }
  have begins : Twins origin address
      { a with
        driver := (Driver.beginOpen a.driver address).1
        attempts := a.attempts ++ [begun a ticket]
        inFlight := a.inFlight.insert address a.attempts.length }
      { b with
        driver := (Driver.beginOpen b.driver address).1
        attempts := b.attempts ++ [begun b ticket']
        inFlight := b.inFlight.insert address b.attempts.length } := ⟨alike, twins.handles⟩
  have same : (begun a ticket).Twins context address (begun b ticket') := ⟨rfl, rfl, rfl, rfl, rfl⟩
  simp only [CachedDriver.start, show (Driver.beginOpen a.driver address).2 =
    (Driver.beginOpen b.driver address).2 from sameReaction]
  split
  · rename_i interruption _ _
    have ends := begins.conclude context List.getElem?_concat_length
      List.getElem?_concat_length (.error (.ofInterruption interruption))
    exact ⟨ends.1, ends.2, rfl⟩
  · have goesOn := fun tokens => begins.advance apart List.getElem?_concat_length
      List.getElem?_concat_length same tokens now
    exact ⟨(goesOn _).1, (goesOn _).2, rfl⟩

/-- Looking after twin callers brings both as far. -/
theorem Twins.poll (twins : Twins origin address a b) (apart : Driver.KeepsApart origin address)
    {caller caller' : Caller} (callers : Callers context address a b caller caller')
    (tokens : Tokens) (now ticket ticket' : Nat) :
    Twins origin address (a.poll tokens now ticket context address caller).cached
        (b.poll tokens now ticket' context address caller').cached ∧
      Callers context address (a.poll tokens now ticket context address caller).cached
        (b.poll tokens now ticket' context address caller').cached
        (a.poll tokens now ticket context address caller).caller
        (b.poll tokens now ticket' context address caller').caller ∧
      (a.poll tokens now ticket context address caller).tokens =
        (b.poll tokens now ticket' context address caller').tokens := by
  cases callers with
  | answered result => exact ⟨twins, .answered result, rfl⟩
  | joined found found' same waiting =>
      have advanced := twins.advance apart found found' same tokens now
      exact ⟨advanced.1, advanced.2, rfl⟩
  | fresh grounded grounded' =>
      simp only [CachedDriver.poll, grounded, grounded', ← twins.handles]
      cases a.handles.get? address with
      | some handle => exact ⟨twins, .answered (.ok handle), rfl⟩
      | none => exact twins.start apart tokens now ticket ticket'

end CachedDriver

namespace World

variable {δ : Type} [Driver δ]

/-- Two worlds of the same moment whose drivers say the same about a device. -/
structure Twins (origin : δ) (config : DeviceConfig) (v w : World δ) : Prop where
  clock : v.clock = w.clock
  tokens : v.tokens = w.tokens
  cached : ∃ a b, v.registry.get config.driver = some a ∧ w.registry.get config.driver = some b ∧
    CachedDriver.Twins origin config.address a b

/-- Two callers in two worlds that want a device opened and have come as far. -/
def Callers (context : RequestContext) (config : DeviceConfig) (v w : World δ)
    (caller caller' : Caller) : Prop :=
  ∃ a b, v.registry.get config.driver = some a ∧ w.registry.get config.driver = some b ∧
    CachedDriver.Callers context config.address a b caller caller'

/-- Callers are not brought further by what is done to other devices. -/
theorem Callers.spared {context : RequestContext} {config : DeviceConfig} {v v' w : World δ}
    {caller caller' : Caller} (callers : Callers context config v w caller caller')
    (spares : v.Spares config v') : Callers context config v' w caller caller' := by
  rcases callers with ⟨a, b, isA, isB, callers⟩
  rcases spares.cached a isA with ⟨a', isA', same, -⟩
  refine ⟨a', b, isA', isB, ?_⟩
  cases callers with
  | fresh grounded grounded' => exact .fresh (same.inFlight.trans grounded) grounded'
  | joined found found' twins waiting =>
      exact .joined ((same.attempts _ _ twins.here).2 found) found' twins waiting
  | answered result => exact .answered result

namespace Twins

variable {origin : δ} {context : RequestContext} {config : DeviceConfig} {v w : World δ}

theorem interruption (twins : Twins origin config v w) (context : RequestContext) :
    v.interruption? context = w.interruption? context := by
  simp only [World.interruption?, twins.clock, twins.tokens]

theorem wind (twins : Twins origin config v w) (time : Nat) :
    Twins origin config { v with clock := time } { w with clock := time } :=
  ⟨rfl, twins.tokens, twins.cached⟩

/-- A world is its own twin. -/
theorem start {world : World δ} {cached : CachedDriver δ}
    (found : world.registry.get config.driver = some cached) :
    Twins cached.driver config world world :=
  ⟨rfl, rfl, cached, cached, found, found, .start cached.driver config.address, rfl⟩

/-- What is done to other devices in one of the worlds does not matter. -/
theorem spared {v' : World δ} (twins : Twins origin config v w) (spares : v.Spares config v') :
    Twins origin config v' w := by
  rcases twins.cached with ⟨a, b, isA, isB, cached⟩
  rcases spares.cached a isA with ⟨a', isA', same, asks, away, asked⟩
  refine ⟨spares.clock.trans twins.clock, spares.tokens.trans twins.tokens, a', b, isA', isB, ?_,
    same.handles.trans cached.handles⟩
  rw [asked]
  exact cached.driver.elsewhere away

theorem lookAfter (twins : Twins origin config v w)
    (apart : Driver.KeepsApart origin config.address)
    {caller caller' : Caller} (callers : Callers context config v w caller caller') :
    Twins origin config (v.lookAfter config.driver config.address context caller).1
        (w.lookAfter config.driver config.address context caller').1 ∧
      Callers context config (v.lookAfter config.driver config.address context caller).1
        (w.lookAfter config.driver config.address context caller').1
        (v.lookAfter config.driver config.address context caller).2
        (w.lookAfter config.driver config.address context caller').2 := by
  rcases twins.cached with ⟨a, b, isA, isB, cached⟩
  rcases callers with ⟨a', b', isA', isB', callers⟩
  obtain rfl := Option.some.inj (isA.symm.trans isA')
  obtain rfl := Option.some.inj (isB.symm.trans isB')
  rcases lookAfter_eq isA config.address context caller with ⟨journal, tickets, same⟩
  rcases lookAfter_eq isB config.address context caller' with ⟨journal', tickets', same'⟩
  have polled := cached.poll apart callers v.tokens v.clock v.tickets w.tickets
  rw [same, same', ← twins.tokens]
  simp only [← twins.clock]
  exact ⟨⟨rfl, polled.2.2, _, _, get_set _ _ _, get_set _ _ _, polled.1⟩,
    _, _, get_set _ _ _, get_set _ _ _, polled.2.1⟩

/-- Calls that begin at the same time are told apart by their places only. -/
theorem beginCall (twins : Twins origin config v w) (context : RequestContext)
    (apart : Driver.KeepsApart origin config.address) (command : Command) :
    Twins origin config (v.beginCall config context command).1
        (w.beginCall config context command).1 ∧
      ∃ ticket, (w.beginCall config context command).2 =
        { (v.beginCall config context command).2 with ticket } := by
  rcases twins.cached with ⟨a, b, isA, isB, cached⟩
  have here : (Ask.beginCall config.address command).address = config.address := rfl
  rcases cached.driver.ask apart here with ⟨sameReaction, alike⟩
  simp only [World.beginCall, isA, isB, show (Driver.beginCall a.driver config.address command).2 =
    (Driver.beginCall b.driver config.address command).2 from sameReaction, twins.clock,
    twins.tokens]
  exact ⟨⟨rfl, rfl, _, _, get_set _ _ _, get_set _ _ _, alike, cached.handles⟩, w.tickets, rfl⟩

theorem finishCall (twins : Twins origin config v w)
    (apart : Driver.KeepsApart origin config.address) (command : Command) :
    Twins origin config (v.finishCall config command).1 (w.finishCall config command).1 ∧
      (v.finishCall config command).2 = (w.finishCall config command).2 := by
  rcases twins.cached with ⟨a, b, isA, isB, cached⟩
  have here : (Ask.finishCall config.address command).address = config.address := rfl
  rcases cached.driver.ask apart here with ⟨sameReply, alike⟩
  rw [finishCall_eq isA, finishCall_eq isB]
  exact ⟨⟨twins.clock, twins.tokens, _, _, get_set _ _ _, get_set _ _ _, alike, cached.handles⟩,
    congrArg verdict sameReply⟩

theorem settle (twins : Twins origin config v w) (context : RequestContext)
    (apart : Driver.KeepsApart origin config.address) (call : Call) (ticket : Nat) :
    Twins origin config (v.settle config context call).1
        (w.settle config context { call with ticket }).1 ∧
      (v.settle config context call).2 = (w.settle config context { call with ticket }).2 := by
  simp only [World.settle, twins.clock, twins.interruption]
  split
  · exact twins.finishCall apart call.command
  · split <;> exact ⟨twins, rfl⟩

end Twins

end World

/-- Two rows of commands that are told apart by the place of the call under way only. -/
def Lane.Twins (lane lane' : Lane) : Prop :=
  ∃ ticket, lane' = { lane with call := lane.call.map fun call => { call with ticket } }

/-- Two ends of a row of commands that has come as far. -/
inductive LaneEnd.Twins : LaneEnd → LaneEnd → Prop
  | waiting {lane lane' : Lane} (twins : lane.Twins lane') : Twins (.waiting lane) (.waiting lane')
  | finished : Twins .finished .finished
  | crashed : Twins .crashed .crashed

/-- Two phases of twin tasks. -/
inductive Phase.Twins {δ : Type} [Driver δ] (context : RequestContext) (config : DeviceConfig)
    (v w : World δ) : Phase → Phase → Prop
  | opening {caller caller' : Caller} (callers : World.Callers context config v w caller caller') :
      Twins context config v w (.opening caller) (.opening caller')
  | working {lanes lanes' : List Lane} (twins : List.Forall₂ Lane.Twins lanes lanes')
      (later : List (List Command)) (outcome : Outcome) :
      Twins context config v w (.working lanes later outcome) (.working lanes' later outcome)
  | reported : Twins context config v w .reported .reported

namespace Phase.Twins

variable {δ : Type} [Driver δ] {context : RequestContext} {config : DeviceConfig} {v w : World δ}
  {phase phase' : Phase}

theorem spared {v' : World δ} (phases : phase.Twins context config v w phase')
    (spares : v.Spares config v') : phase.Twins context config v' w phase' := by
  cases phases with
  | opening callers => exact .opening (callers.spared spares)
  | working rows later outcome => exact .working rows later outcome
  | reported => exact .reported

theorem wind (phases : phase.Twins context config v w phase') (time time' : Nat) :
    phase.Twins context config { v with clock := time } { w with clock := time' } phase' := by
  cases phases with
  | opening callers => exact .opening callers
  | working rows later outcome => exact .working rows later outcome
  | reported => exact .reported

theorem reported_iff (phases : phase.Twins context config v w phase') :
    phase' = .reported ↔ phase = .reported := by
  cases phases <;> simp

theorem fresh_iff (phases : phase.Twins context config v w phase') :
    phase' = .opening .fresh ↔ phase = .opening .fresh := by
  cases phases with
  | reported | working => simp
  | opening callers =>
      rcases callers with ⟨a, b, -, -, callers⟩
      cases callers <;> simp

end Phase.Twins

namespace Task

variable {δ : Type} [Driver δ] {origin : δ} {v w : World δ}

/-! ### What a task does apart from its phase -/

section Enter

variable (task : Task) (phase : Phase) (context : RequestContext)

theorem note_enter (outcome : Outcome) (command : Command)
    (result : Except FieldError command.Result) :
    (task.enter phase).note outcome command result = task.note outcome command result := by
  cases result <;> rfl

theorem send_enter (commands : List Command) : ∀ (world : World δ) (outcome : Outcome),
    (task.enter phase).send context world outcome commands =
      task.send context world outcome commands := by
  induction commands with
  | nil => exact fun _ _ => rfl
  | cons command rest ih =>
      intro world outcome
      simp only [send, config_enter, note_enter, ih]

theorem pollLane_enter (world : World δ) (outcome : Outcome) (lane : Lane) :
    (task.enter phase).pollLane context world outcome lane =
      task.pollLane context world outcome lane := by
  simp only [pollLane, config_enter, note_enter, send_enter]

theorem pollLanes_enter (lanes : List Lane) : ∀ (world : World δ) (outcome : Outcome),
    (task.enter phase).pollLanes context world outcome lanes =
      task.pollLanes context world outcome lanes := by
  induction lanes with
  | nil => exact fun _ _ => rfl
  | cons lane rest ih =>
      intro world outcome
      simp only [pollLanes, pollLane_enter, ih]

theorem pollWork_enter (world : World δ) (outcome : Outcome) (lanes : List Lane)
    (later : List (List Command)) :
    (task.enter phase).pollWork context world outcome lanes later =
      task.pollWork context world outcome lanes later := by
  simp only [pollWork, pollLanes_enter]
  rfl

theorem pollOpening_enter (world : World δ) (caller : Caller) :
    (task.enter phase).pollOpening context world caller =
      task.pollOpening context world caller := by
  simp only [pollOpening, beginWork, pollWork_enter]
  rfl

end Enter

/-! ### Tasks and their twins -/

variable (context : RequestContext)

/-- What has come of looking after rows of commands in two worlds. -/
structure LanesTwins {α : Type} (origin : δ) (task : Task) (ends : α → α → Prop)
    (p q : World δ × Outcome × α) : Prop where
  worlds : World.Twins origin task.config p.1 q.1
  outcome : p.2.1 = q.2.1
  ends : ends p.2.2 q.2.2

/-- What has come of looking after a task and its twin. -/
structure PolledTwins (origin : δ) (context : RequestContext) (task : Task)
    (p q : World δ × Task × Option Outcome) : Prop where
  worlds : World.Twins origin task.config p.1 q.1
  phases : ∃ phase phase', p.2.1 = task.enter phase ∧ q.2.1 = task.enter phase' ∧
    Phase.Twins context task.config p.1 q.1 phase phase'
  outcome : p.2.2 = q.2.2

theorem send_twins (task : Task) (apart : Driver.KeepsApart origin task.config.address)
    (commands : List Command) : ∀ {v w : World δ} (outcome : Outcome),
      World.Twins origin task.config v w → LanesTwins origin task LaneEnd.Twins
        (task.send context v outcome commands) (task.send context w outcome commands) := by
  induction commands with
  | nil => exact fun outcome twins => ⟨twins, rfl, .finished⟩
  | cons command rest ih =>
      intro v w outcome twins
      unfold send
      rw [twins.interruption]
      split
      · exact ih _ twins
      · rcases twins.beginCall context apart command with ⟨begun, ticket, sameCall⟩
        dsimp only
        rw [sameCall, begun.interruption]
        dsimp only
        split
        · exact ih _ begun
        · -- the two calls differ in their tickets, so both outcomes are named before comparing
          have settled := begun.settle context apart
            (v.beginCall task.config context command).2 ticket
          generalize (v.beginCall task.config context command).2 = call at settled ⊢
          generalize (v.beginCall task.config context command).1.settle task.config context call =
            settledV at settled ⊢
          generalize (w.beginCall task.config context command).1.settle task.config context _ =
            settledW at settled ⊢
          rcases settledV with ⟨v', verdict⟩
          rcases settledW with ⟨w', verdict'⟩
          rcases settled with ⟨worlds, rfl⟩
          cases verdict with
          | waiting => exact ⟨worlds, rfl, .waiting ⟨ticket, rfl⟩⟩
          | done result => exact ih _ worlds
          | crashed => exact ⟨worlds, rfl, .crashed⟩

theorem pollLane_twins (task : Task) (apart : Driver.KeepsApart origin task.config.address)
    {lane lane' : Lane} (lanes : lane.Twins lane') (outcome : Outcome)
    (twins : World.Twins origin task.config v w) : LanesTwins origin task LaneEnd.Twins
      (task.pollLane context v outcome lane) (task.pollLane context w outcome lane') := by
  rcases lane with ⟨_ | call, rest⟩
  all_goals rcases lanes with ⟨ticket, rfl⟩
  · exact send_twins context task apart rest outcome twins
  · have settled := twins.settle context apart call ticket
    simp only [pollLane, Option.map_some]
    generalize v.settle task.config context call = settledV at settled ⊢
    generalize w.settle task.config context _ = settledW at settled ⊢
    rcases settledV with ⟨v', verdict⟩
    rcases settledW with ⟨w', verdict'⟩
    rcases settled with ⟨worlds, rfl⟩
    cases verdict with
    | waiting => exact ⟨worlds, rfl, .waiting ⟨ticket, rfl⟩⟩
    | done result => exact send_twins context task apart rest _ worlds
    | crashed => exact ⟨worlds, rfl, .crashed⟩

theorem pollLanes_twins (task : Task) (apart : Driver.KeepsApart origin task.config.address)
    {lanes lanes' : List Lane} (rows : List.Forall₂ Lane.Twins lanes lanes') :
    ∀ {v w : World δ} (outcome : Outcome), World.Twins origin task.config v w →
      LanesTwins origin task (Option.Rel (List.Forall₂ Lane.Twins))
        (task.pollLanes context v outcome lanes) (task.pollLanes context w outcome lanes') := by
  induction rows with
  | nil => exact fun outcome twins => ⟨twins, rfl, .some .nil⟩
  | @cons lane lane' rest rest' row rows ih =>
      intro v w outcome twins
      have first := pollLane_twins context task apart row outcome twins
      simp only [pollLanes]
      generalize task.pollLane context v outcome lane = firstV at first ⊢
      generalize task.pollLane context w outcome lane' = firstW at first ⊢
      rcases firstV with ⟨v', outcome', ended⟩
      rcases firstW with ⟨w', _, ended'⟩
      rcases first with ⟨worlds, rfl, ends⟩
      cases ends with
      | crashed => exact ⟨worlds, rfl, .none⟩
      | finished => exact ih outcome' worlds
      | waiting row =>
          have others := ih outcome' worlds
          dsimp only at others ⊢
          generalize task.pollLanes context v' outcome' rest = othersV at others ⊢
          generalize task.pollLanes context w' outcome' rest' = othersW at others ⊢
          rcases othersV with ⟨v'', outcome'', left⟩
          rcases othersW with ⟨w'', _, left'⟩
          rcases others with ⟨worlds', rfl, ends⟩
          cases ends with
          | none => exact ⟨worlds', rfl, .none⟩
          | some rows => exact ⟨worlds', rfl, .some (.cons row rows)⟩

/-- Rows of commands that are about to begin are their own twins. -/
theorem lanes_twins (rows : List (List Command)) :
    List.Forall₂ Lane.Twins (rows.map fun commands => { rest := commands })
      (rows.map fun commands => { rest := commands }) :=
  List.forall₂_same.2 fun lane isLane => by
    rcases List.mem_map.1 isLane with ⟨commands, -, rfl⟩
    exact ⟨0, rfl⟩

theorem pollWork_twins (task : Task) (apart : Driver.KeepsApart origin task.config.address)
    {lanes lanes' : List Lane} (rows : List.Forall₂ Lane.Twins lanes lanes') (outcome : Outcome)
    (later : List (List Command)) (twins : World.Twins origin task.config v w) :
    PolledTwins origin context task (task.pollWork context v outcome lanes later)
      (task.pollWork context w outcome lanes' later) := by
  have first := pollLanes_twins context task apart rows outcome twins
  simp only [pollWork]
  generalize task.pollLanes context v outcome lanes = firstV at first ⊢
  generalize task.pollLanes context w outcome lanes' = firstW at first ⊢
  rcases firstV with ⟨v', outcome', left⟩
  rcases firstW with ⟨w', _, left'⟩
  rcases first with ⟨worlds, rfl, ends⟩
  cases ends with
  | none => exact ⟨worlds, ⟨_, _, rfl, rfl, .reported⟩, rfl⟩
  | some rows =>
      cases rows with
      | cons row rows => exact ⟨worlds, ⟨_, _, rfl, rfl, .working (.cons row rows) _ _⟩, rfl⟩
      | nil =>
          have others := pollLanes_twins context task apart (lanes_twins later)
            outcome' worlds
          dsimp only at others ⊢
          generalize task.pollLanes context v' outcome' _ = othersV at others ⊢
          generalize task.pollLanes context w' outcome' _ = othersW at others ⊢
          rcases othersV with ⟨v'', outcome'', left⟩
          rcases othersW with ⟨w'', _, left'⟩
          rcases others with ⟨worlds', rfl, ends⟩
          cases ends with
          | none => exact ⟨worlds', ⟨_, _, rfl, rfl, .reported⟩, rfl⟩
          | some rows =>
              cases rows with
              | nil => exact ⟨worlds', ⟨_, _, rfl, rfl, .reported⟩, rfl⟩
              | cons row rows =>
                  exact ⟨worlds', ⟨_, _, rfl, rfl, .working (.cons row rows) _ _⟩, rfl⟩

theorem pollOpening_twins (task : Task) (apart : Driver.KeepsApart origin task.config.address)
    {caller caller' : Caller} (callers : World.Callers context task.config v w caller caller')
    (twins : World.Twins origin task.config v w) :
    PolledTwins origin context task (task.pollOpening context v caller)
      (task.pollOpening context w caller') := by
  have opened := twins.lookAfter apart callers
  simp only [pollOpening]
  generalize v.lookAfter task.config.driver task.config.address context caller = openedV
    at opened ⊢
  generalize w.lookAfter task.config.driver task.config.address context caller' = openedW
    at opened ⊢
  rcases openedV with ⟨v', caller⟩
  rcases openedW with ⟨w', caller'⟩
  rcases opened with ⟨worlds, callers⟩
  have same := worlds.interruption context
  have stops : ∀ interruption, PolledTwins origin context task
      (v', task.fail (.context interruption)) (w', task.fail (.context interruption)) :=
    fun _ => ⟨worlds, ⟨_, _, rfl, rfl, .reported⟩, rfl⟩
  have waits : ∀ {caller caller' : Caller}, World.Callers context task.config v' w' caller caller' →
      PolledTwins origin context task (v', task.enter (.opening caller), none)
        (w', task.enter (.opening caller'), none) :=
    fun callers => ⟨worlds, ⟨_, _, rfl, rfl, .opening callers⟩, rfl⟩
  rcases callers with ⟨a, b, isA, isB, callers⟩
  cases callers with
  | fresh grounded grounded' =>
      dsimp only
      rw [same]
      cases w'.interruption? context with
      | some interruption => exact stops interruption
      | none => exact waits ⟨a, b, isA, isB, .fresh grounded grounded'⟩
  | joined found found' attempts waiting =>
      dsimp only
      rw [same]
      cases w'.interruption? context with
      | some interruption => exact stops interruption
      | none => exact waits ⟨a, b, isA, isB, .joined found found' attempts waiting⟩
  | answered result =>
      cases result with
      | error error => exact ⟨worlds, ⟨_, _, rfl, rfl, .reported⟩, rfl⟩
      | ok handle =>
          exact pollWork_twins context task apart (.cons ⟨0, rfl⟩ .nil) _ _ worlds

/-- Looking after a task and its twin brings both as far. -/
theorem poll_twins (task : Task) (apart : Driver.KeepsApart origin task.config.address)
    {phase phase' : Phase} (phases : phase.Twins context task.config v w phase')
    (twins : World.Twins origin task.config v w) :
    PolledTwins origin context task ((task.enter phase).poll context v)
      ((task.enter phase').poll context w) := by
  cases phases with
  | reported => exact ⟨twins, ⟨_, _, rfl, rfl, .reported⟩, rfl⟩
  | working rows later outcome =>
      simp only [poll, phase_enter, pollWork_enter]
      exact pollWork_twins context task apart rows outcome later twins
  | opening callers =>
      have opened := pollOpening_twins context task apart callers twins
      rcases callers with ⟨a, b, isA, isB, callers⟩
      cases callers with
      | fresh =>
          simp only [poll, phase_enter, pollOpening_enter]
          rw [twins.interruption context]
          cases w.interruption? context with
          | some interruption => exact ⟨twins, ⟨_, _, rfl, rfl, .reported⟩, rfl⟩
          | none => exact opened
      | joined =>
          simp only [poll, phase_enter, pollOpening_enter]
          exact opened
      | answered =>
          simp only [poll, phase_enter, pollOpening_enter]
          exact opened

/-! ### When twins can go on -/

variable {context} {task : Task} {phase phase' : Phase}

/-- A task whose attempt, if it waits for one, is still under way and under its own context. -/
def OnItsOwn (task : Task) (context : RequestContext) (world : World δ) : Prop :=
  ∀ attempt, task.attempt? world = some attempt →
    attempt.context = context ∧ attempt.result? = none

theorem onItsOwn_twins (phases : phase.Twins context task.config v w phase') :
    (task.enter phase).OnItsOwn context v ∧ (task.enter phase').OnItsOwn context w := by
  cases phases with
  | reported | working => exact ⟨by simp [OnItsOwn, attempt?], by simp [OnItsOwn, attempt?]⟩
  | opening callers =>
      rcases callers with ⟨a, b, isA, isB, callers⟩
      cases callers with
      | fresh | answered => exact ⟨by simp [OnItsOwn, attempt?], by simp [OnItsOwn, attempt?]⟩
      | @joined _ _ attempt attempt' found found' same waiting =>
          have waiting' : attempt'.result? = none := by
            rw [← waiting]
            simp only [Attempt.result?, same.stage]
          exact ⟨by simp [OnItsOwn, attempt?, isA, found, same.own, waiting],
            by simp [OnItsOwn, attempt?, isB, found', same.own', waiting']⟩

/-- Twins have to be looked after again at the same times. -/
theorem wakes_twins (phases : phase.Twins context task.config v w phase') :
    (task.enter phase').wakes w = (task.enter phase).wakes v := by
  cases phases with
  | reported => rfl
  | @working lanes lanes' rows =>
      simp only [wakes, attempt?, calls, phase_enter, Option.bind_none, Option.toList_none,
        List.nil_append]
      induction rows with
      | nil => rfl
      | @cons lane _ _ _ row rows ih =>
          rcases row with ⟨ticket, rfl⟩
          rcases lane with ⟨_ | call, rest⟩
          · exact ih
          · simp only [List.filterMap_cons, Option.map_some, ih]
  | opening callers =>
      rcases callers with ⟨a, b, isA, isB, callers⟩
      cases callers with
      | fresh | answered => rfl
      | joined found found' same =>
          simp [wakes, attempt?, calls, isA, isB, found, found', Attempt.wake?, same.own,
            same.own', same.stage]

omit [Driver δ] in
/-- A task that goes on without having just begun does so because a wait of its own is over. -/
theorem OnItsOwn.wake_of_turn {world : World δ} (own : task.OnItsOwn context world)
    (begun : task.phase ≠ .opening .fresh) (live : world.interruption? context = none)
    (isTurn : (task.turn? context world).isSome = true) :
    ∃ wake ∈ task.wakes world, wake ≤ world.clock := by
  rcases Option.isSome_iff_exists.1 isTurn with ⟨turn, isTurn⟩
  have overdue : ∀ attempt, task.attempt? world = some attempt →
      attempt.isOver world.clock = true →
        ∃ wake, attempt.wake? = some wake ∧ wake ≤ world.clock := by
    intro attempt isAttempt isOver
    have waiting := (own attempt isAttempt).2
    cases stage : attempt.stage with
    | ended => simp [Attempt.result?, stage] at waiting
    | waiting =>
        simp only [Attempt.isOver, stage, Option.any_eq_true, decide_eq_true_eq] at isOver
        exact isOver
  rcases ready_of_turn begun isTurn with isDue | broken
  · rcases List.exists_mem_of_ne_nil _ isDue with ⟨ticket, member⟩
    rcases List.mem_append.1 member with ofCall | ofAttempt
    · rcases List.mem_map.1 ofCall with ⟨call, isCall, -⟩
      rcases List.mem_filter.1 isCall with ⟨isCall, isOver⟩
      rcases (Option.any_eq_true _ _).1 isOver with ⟨wake, isWake, past⟩
      refine ⟨wake, List.mem_append_right _ (List.mem_filterMap.2 ⟨call, isCall, isWake⟩), ?_⟩
      exact of_decide_eq_true past
    · simp only [List.mem_map, Option.mem_toList, Option.filter_eq_some_iff] at ofAttempt
      rcases ofAttempt with ⟨attempt, ⟨isAttempt, isOver⟩, -⟩
      rcases overdue attempt isAttempt isOver with ⟨wake, isWake, past⟩
      exact ⟨wake, List.mem_append_left _ (by simp [isAttempt, isWake]), past⟩
  · exfalso
    simp only [isBrokenOff, live, Option.isSome_none, Bool.false_or, Option.any_eq_true] at broken
    rcases broken with ⟨attempt, isAttempt, cancelled⟩
    have notCancelled := RequestContext.isCancelled_of_live live
    cases stage : attempt.stage with
    | ended => simp [Attempt.isCancelled, stage] at cancelled
    | waiting =>
        simp [Attempt.isCancelled, stage, (own attempt isAttempt).1, notCancelled] at cancelled

end Task

end AvControl

import AvControl.Proofs.Engine.Asking
import AvControl.Proofs.Engine.Deadline
import AvControl.Proofs.Engine.Follow

/-!
# One report for each device

What an answer says of a device is what its task has reported, or that the context has ended before
that was collected. Devices that are not contacted are not spoken of, and a driver that breaks down
costs its own device everything but one error. No task ever ends in silence.
-/

namespace AvControl

theorem Command.path_ne_empty (command : Command) : command.field.path ≠ "" := by
  cases command <;> simp [Command.field, Field.path]

/-- Only an excuse is about the device as a whole. -/
theorem Task.Settled.excuse {task : Task} {outcome : Outcome} (settled : task.Settled outcome)
    {report : FieldReport} (member : report ∈ outcome.reports) (whole : report.field = "") :
    ∃ excuse : Excuse, report.error = excuse.text := by
  cases settled.mayReport member with
  | excuse excuse => exact ⟨excuse, rfl⟩
  | @failure command => exact absurd whole command.path_ne_empty

namespace Session

/-- The outcomes for a device that have arrived. -/
def told (session : Session) (device : DeviceId) : List Outcome :=
  (session.arrived.filter fun entry => entry.1 = device).map Prod.snd

theorem told_eq {session : Session} (once : (session.arrived.map Prod.fst).Nodup)
    {device : DeviceId} {outcome : Outcome} (member : (device, outcome) ∈ session.arrived) :
    session.told device = [outcome] := by
  rw [told, filter_eq_singleton Prod.fst once member]
  rfl

theorem told_length {session : Session} (once : (session.arrived.map Prod.fst).Nodup)
    (device : DeviceId) : (session.told device).length ≤ 1 := by
  cases told : session.told device with
  | nil => simp
  | cons outcome rest =>
      have member : outcome ∈ session.told device := by simp [told]
      rcases List.mem_map.1 member with ⟨entry, isEntry, rfl⟩
      rcases List.mem_filter.1 isEntry with ⟨arrived, here⟩
      obtain rfl := of_decide_eq_true here
      rw [← told, told_eq once arrived]
      simp

variable {δ : Type}

/-- What has arrived for a device agrees with what its task has reported so far. -/
structure Accounts (session : Session) (world : World δ) (device : DeviceId)
    (reported : List Outcome) : Prop where
  kept : session.Kept Task.UnderWay Task.Settled
  contacted : reported ≠ [] → device ∈ session.tasks.map Task.device
  atMostOnce : reported.length ≤ 1
  before : session.finished = false → session.told device = reported
  after : session.finished = true → ∀ outcome, (device, outcome) ∈ session.collected →
    reported = [outcome] ∨
      (∃ interruption : Interruption, outcome = .ofDevice device interruption.message) ∧
        world.interruption? session.context ≠ none

namespace Accounts

variable {session : Session} {world : World δ} {device : DeviceId} {reported : List Outcome}

/-- A context that has ended stays ended. -/
theorem later (accounts : session.Accounts world device reported) {world' : World δ}
    (below : world.tokens.Below world'.tokens) (passes : world.clock ≤ world'.clock) :
    session.Accounts world' device reported where
  kept := accounts.kept
  contacted := accounts.contacted
  atMostOnce := accounts.atMostOnce
  before := accounts.before
  after := by
    intro finished outcome collected
    apply (accounts.after finished outcome collected).imp_right
    rintro ⟨excused, ended⟩
    exact ⟨excused, fun live => ended (RequestContext.live_before below passes live)⟩

variable [Driver δ]

/-- What a task reports arrives, and nothing else does. -/
theorem receive (accounts : session.Accounts world device reported)
    (unfinished : session.finished = false) {j : Nat} {task : Task}
    (isTask : session.tasks[j]? = some task) :
    (session.receive j (task.poll session.context world).2).Accounts
      (task.poll session.context world).1 device
      (reported ++ if task.device = device then (task.poll session.context world).2.2.toList
        else []) := by
  have kept := accounts.kept.receive Task.settling unfinished world isTask
  have sameDevice : (task.poll session.context world).2.1.device = task.device := by
    rcases (task.poll_polls session.context world).eq_enter with ⟨phase, same⟩
    rw [same]
    rfl
  have told : (session.receive j (task.poll session.context world).2).told device =
      reported ++ if task.device = device then (task.poll session.context world).2.2.toList
        else [] := by
    rw [← accounts.before unfinished]
    simp only [Session.told, arrived, Session.receive, sameDevice]
    cases (task.poll session.context world).2.2 with
    | none => simp
    | some outcome =>
        by_cases here : task.device = device <;> simp [here]
  refine ⟨kept, fun some => ?_, ?_, fun _ => told, fun finished => ?_⟩
  · rw [(continues_receive world isTask).devices]
    by_cases here : task.device = device
    · exact List.mem_map.2 ⟨task, List.mem_of_getElem? isTask, here⟩
    · rw [if_neg here, List.append_nil] at some
      exact accounts.contacted some
  · rw [← told]
    exact told_length kept.once device
  · rw [show (session.receive j _).finished = session.finished from rfl, unfinished] at finished
    cases finished

omit [Driver δ] in
/-- What has been collected in the end has been reported, unless it was made up. -/
theorem collected (accounts : session.Accounts world device reported)
    (unfinished : session.finished = false) {outcome : Outcome}
    (member : (device, outcome) ∈ session.arrived) : reported = [outcome] := by
  rw [← accounts.before unfinished]
  exact told_eq accounts.kept.once member

theorem coordinate_live (accounts : session.Accounts world device reported)
    (unfinished : session.finished = false) :
    (session.coordinate none).Accounts world device reported := by
  have arrived := accounts.kept.arrived_live unfinished
  refine ⟨accounts.kept.coordinate (δ := δ) Task.settling unfinished none, fun some => ?_,
    accounts.atMostOnce, fun _ => ?_, fun _ outcome member => Or.inl ?_⟩
  · rw [tasks_coordinate]
    exact accounts.contacted some
  · rw [told, arrived]
    exact accounts.before unfinished
  · refine accounts.collected unfinished ?_
    rw [← arrived]
    exact List.mem_append_left _ member

theorem coordinate_ended (accounts : session.Accounts world device reported)
    (unfinished : session.finished = false) {interruption : Interruption}
    (ended : world.interruption? session.context = some interruption) :
    (session.coordinate (some interruption)).Accounts world device reported := by
  refine ⟨accounts.kept.coordinate (δ := δ) Task.settling unfinished _, accounts.contacted,
    accounts.atMostOnce, fun notFinished => ?_, fun _ outcome member => ?_⟩
  · cases notFinished
  · simp only [coordinate, giveUp, collect, List.mem_append, List.mem_map] at member
    rcases member with (inOld | inMailbox) | ⟨missing, -, same⟩
    · exact Or.inl (accounts.collected unfinished (List.mem_append_left _ inOld))
    · have arrived := List.mem_append_right session.collected (List.mem_of_mem_take inMailbox)
      exact Or.inl (accounts.collected unfinished arrived)
    · obtain ⟨rfl, rfl⟩ := Prod.mk.inj same
      refine Or.inr ⟨⟨interruption, rfl⟩, ?_⟩
      change world.interruption? session.context ≠ none
      simp [ended]

theorem attend (accounts : session.Accounts world device reported) :
    (session.attend world).2.Accounts (session.attend world).1 device reported := by
  have attends := session.attend_attends world
  generalize session.attend world = attended at attends
  cases attends with
  | rests => exact accounts
  | givesUp unfinished ended => exact accounts.coordinate_ended unfinished ended
  | collects unfinished => exact accounts.coordinate_live unfinished
  | cancels unfinished _ unreported =>
      have collects := accounts.coordinate_live unfinished
      have later : (session.coordinate none).Accounts (world.cancel session.context) device
          reported :=
        collects.later (world.tokens.below_cancel session.context.token) (Nat.le_refl _)
      have sameContext := (session.continues_coordinate none).context
      cases ended : (world.cancel session.context).interruption? session.context with
      | none => exact later.coordinate_live unreported
      | some interruption =>
          refine later.coordinate_ended unreported ?_
          rwa [sameContext]

end Accounts

end Session

namespace Look

variable {δ : Type} [Driver δ]

/-- What somebody who wants the device opened is told, while it is being opened. -/
def opening? (look : Look δ) : Option (Except DriverError Handle) :=
  match look.task.phase with
  | .opening caller =>
    match caller, look.world.interruption? look.context with
    | .fresh, some _ => none
    | _, _ => (look.task.opened look.context look.world caller).2.answer?
  | _ => none

/-- The driver breaks down while it opens or calls the device, or the joined opening has. -/
def BreaksDown (look : Look (Recorded δ)) : Prop :=
  (∃ deed ∈ look.deeds, deed.IsCrash) ∨ look.opening? = some (.error CachedDriver.crashed)

/-- A device that cannot be opened is excused. -/
theorem excused_of_opening {look : Look δ} {error : DriverError}
    (fails : look.opening? = some (.error error)) :
    look.result.2.2 = some (.ofDevice look.task.device (Excuse.unopened error).text) := by
  simp only [opening?] at fails
  split at fails
  · rename_i caller opening
    have sameCaller : ∀ other, look.task.phase = .opening other → other = caller := by
      intro other opening'
      rw [opening] at opening'
      cases opening'
      rfl
    split at fails
    · cases fails
    · rename_i notEnded
      have polls := look.polls
      generalize look.result = result at polls
      cases polls with
      | silent isOver | goesOn isOver =>
          rw [opening] at isOver
          cases isOver
      | leavesOut fresh ended => exact absurd ended (notEnded _ (sameCaller _ fresh).symm)
      | fails opening' _ answer =>
          rw [sameCaller _ opening'] at answer
          rw [answer] at fails
          cases fails
          rfl
      | givesUp opening' _ unanswered | waits opening' _ unanswered =>
          rw [sameCaller _ opening', fails] at unanswered
          cases unanswered
      | begins opening' _ answer =>
          rw [sameCaller _ opening'] at answer
          rw [answer] at fails
          cases fails
  · cases fails

/-- A device whose driver breaks down is excused. -/
theorem BreaksDown.excused {look : Look (Recorded δ)} (breaksDown : look.BreaksDown)
    (registered : (look.world.registry.get look.task.config.driver).isSome = true) :
    ∃ excuse : Excuse, look.result.2.2 = some (.ofDevice look.task.device excuse.text) := by
  rcases breaksDown with ⟨deed, member, isCrash⟩ | fails
  · exact (look.asked_deeds registered).crash deed member isCrash
  · exact ⟨_, excused_of_opening fails⟩

end Look

namespace Run

variable {δ : Type}

/-- The answer of a session that is over after so many steps. -/
def answer? [Driver δ] (run : Run δ) (i steps : Nat) : Option Answer :=
  ((run.after steps).sessions[i]?.filter Session.finished).map Session.answer

/-- The outcomes that the task for a device in a session has reported within so many steps. -/
def deliveries [Driver δ] (run : Run δ) (i : Nat) (device : DeviceId) (steps : Nat) :
    List Outcome :=
  (run.attend.looksWithin i device steps).flatMap fun look => look.result.2.2.toList

/-- A session in which what has arrived for a device agrees with what its task has reported. -/
structure Accounts (run : Run δ) (i : Nat) (session : Session) (device : DeviceId)
    (reported : List Outcome) : Prop where
  isSession : run.sessions[i]? = some session
  accounts : session.Accounts run.world device reported

variable {run next : Run δ} {i : Nat} {session : Session} {device : DeviceId}
  {reported : List Outcome}

variable [Driver δ]

theorem Accounts.attend (accounts : run.Accounts i session device reported) :
    ∃ session', run.attend.Accounts i session' device reported ∧ session.Continues session' := by
  rcases attendAll_at run.sessions run.world accounts.isSession with
    ⟨tokens, before, isNext, after⟩
  have moved : session.Accounts { run.world with tokens } device reported :=
    accounts.accounts.later before (Nat.le_refl _)
  refine ⟨_, ⟨isNext, moved.attend.later after (Nat.le_of_eq ?_)⟩, session.continues_attend _⟩
  rcases attend_world session { run.world with tokens } with ⟨_, -, same⟩
  rw [same]
  exact (attend_clock run).symm

/-- In every step what a task reports arrives. -/
theorem Accounts.step (accounts : run.Accounts i session device reported)
    (isNext : run.step none = some next) :
    ∃ session', next.Accounts i session' device (reported ++
      (run.look? i device).toList.flatMap fun look => look.result.2.2.toList) ∧
      session.Continues session' := by
  have noLook : run.turns = [] → run.look? i device = none := by
    intro idle
    simp [look?, idle, leastKeyed]
  cases (step_steps isNext).2 with
  | collect idle =>
      rw [noLook idle, Option.toList_none, List.flatMap_nil, List.append_nil]
      exact accounts.attend
  | @wait time idle noMail isTime =>
      have passes : run.world.clock ≤ time := by
        rcases nextTime_cases isTime with never | ⟨later, -⟩
        · cases never
        · exact Nat.le_of_lt later
      have wound : (run.wind time).Accounts i session device reported :=
        ⟨accounts.isSession, accounts.accounts.later (.refl _) passes⟩
      rw [noLook idle, Option.toList_none, List.flatMap_nil, List.append_nil]
      exact wound.attend
  | @poll turn i' j other polled first isOther unfinished isPolled isTurn =>
      by_cases here : i' = i
      · subst here
        rw [accounts.isSession, Option.some.injEq] at isOther
        subst isOther
        rcases List.getElem?_eq_some_iff.1 accounts.isSession with ⟨inside, -⟩
        refine ⟨_, ⟨by simp [inside], ?_⟩, Session.continues_receive run.world isPolled⟩
        have received := accounts.accounts.receive unfinished isPolled
        by_cases same : polled.device = device
        · have isLook : run.look? i' device =
              some { task := polled, context := session.context, world := run.world } := by
            simp [look?, first, accounts.isSession, isPolled, same]
          rw [if_pos same] at received
          rw [isLook, Option.toList_some, List.flatMap_singleton]
          exact received
        · have isLook : run.look? i' device = none := by
            simp [look?, first, accounts.isSession, isPolled, same]
          rw [isLook]
          simpa [same] using received
      · have isLook : run.look? i device = none := by simp [look?, first, here]
        have later := (polled.poll_polls other.context run.world).later
        rw [isLook, Option.toList_none, List.flatMap_nil, List.append_nil]
        refine ⟨session, ⟨?_, accounts.accounts.later later.tokens (Nat.le_of_eq later.clock.symm)⟩,
          .refl session⟩
        rw [List.getElem?_set_ne here]
        exact accounts.isSession

/-- Throughout a run what a task reports arrives. -/
theorem Accounts.go (steps : Nat) : ∀ {run : Run δ} {session : Session} {reported : List Outcome},
    run.Accounts i session device reported →
    ∃ session', (Run.go none steps run).Accounts i session' device (reported ++
      (run.looksWithin i device steps).flatMap fun look => look.result.2.2.toList) ∧
      session.Continues session' := by
  induction steps with
  | zero =>
      intro run session reported accounts
      refine ⟨session, ?_, .refl session⟩
      simpa [looksWithin, Run.go] using accounts
  | succ steps ih =>
      intro run session reported accounts
      cases isNext : run.step none with
      | none =>
          rw [go_ended isNext]
          refine ⟨session, ?_, .refl session⟩
          simpa [looksWithin, isNext] using accounts
      | some next =>
          rcases accounts.step isNext with ⟨middle, accounts', continues⟩
          rcases ih accounts' with ⟨session', accounts'', continues'⟩
          rw [go_step isNext]
          refine ⟨session', ?_, continues.trans continues'⟩
          simpa only [looksWithin, isNext, List.flatMap_append, List.append_assoc] using accounts''

omit [Driver δ] in
theorem look?_eq_some {look : Look δ} (isLook : run.look? i device = some look) :
    ∃ session ∈ run.sessions[i]?, look.task ∈ session.tasks ∧ look.task.device = device ∧
      look.context = session.context ∧ look.world = run.world := by
  simp only [look?] at isLook
  split at isLook
  · cases isLook
  · split at isLook
    · rcases Option.bind_eq_some_iff.1 isLook with ⟨session, isSession, isLook⟩
      rcases Option.bind_eq_some_iff.1 isLook with ⟨task, isTask, isLook⟩
      split at isLook
      · obtain rfl := Option.some.inj isLook
        exact ⟨session, isSession, List.mem_of_getElem? isTask, ‹_›, rfl, rfl⟩
      · cases isLook
    · cases isLook

/-- The task for a device is looked after while its driver is at hand. -/
theorem look_of_mem {look : Look δ} (steps : Nat) : ∀ {run : Run δ}, run.Equipped →
    look ∈ run.looksWithin i device steps → look.task.device = device ∧
      (look.world.registry.get look.task.config.driver).isSome = true := by
  induction steps with
  | zero =>
      intro run _ member
      cases member
  | succ steps ih =>
      intro run equipped member
      simp only [looksWithin] at member
      split at member
      · cases member
      · rename_i next isNext
        rcases List.mem_append.1 member with here | later
        · rcases look?_eq_some (Option.mem_toList.1 here) with
            ⟨session, isSession, isTask, isDevice, -, sameWorld⟩
          rw [sameWorld]
          exact ⟨isDevice, equipped session (List.mem_of_getElem? isSession) look.task isTask⟩
        · exact ih (equipped.step (step_steps isNext).2) later

/--
A device is accounted for once: the answer says what its task has reported, or else that the context
has ended, and nothing more.
-/
structure Reported (run : Run δ) (i steps : Nat) (context : RequestContext) (answer : Answer)
    (device : DeviceId) : Prop where
  atMostOnce : (run.deliveries i device steps).length ≤ 1
  account : (∃ outcome, run.deliveries i device steps = [outcome] ∧ answer.Tells device outcome) ∨
    (run.after steps).world.interruption? context ≠ none ∧ ∃ interruption : Interruption,
      answer.response.about device =
        (none, [{ device, field := "", error := interruption.message }])

/-- An answer accounts for the devices that were to be contacted, each once, and for no others. -/
structure ReportsOnce (run : Run (Recorded δ)) (i steps : Nat) (request : RoomRequest)
    (answer : Answer) : Prop where
  operation : answer.operation = request.operation
  targets : ∀ device ∈ (request.operation.targets request.room).map Prod.fst,
    run.Reported i steps request.context answer device
  others : ∀ device, device ∉ (request.operation.targets request.room).map Prod.fst →
    answer.response.about device = (none, [])
  breakdowns : ∀ device, ∀ look ∈ run.attend.looksWithin i device steps, look.BreaksDown →
    ∃ error, answer.response.about device = (none, [error]) ∧ error.field = ""
  noSilence : ∀ error ∈ answer.response.errors, error.field = "" →
    error.error ≠ "device task failed to report"

end Run

namespace Session

variable {session : Session}

/-- The answer says of a device that it is excused, if its outcome does. -/
theorem about_of_excused {answer : Answer} {device : DeviceId} {text : String}
    (tells : answer.Tells device (.ofDevice device text)) :
    answer.response.about device = (none, [{ device, field := "", error := text }]) :=
  tells.trans (Prod.ext (World.summarize_nil _) (List.mergeSort_singleton _))

/-- The answer does not speak of devices that have no task. -/
theorem Kept.about_others (kept : session.Kept Task.UnderWay Task.Settled) {device : DeviceId}
    (foreign : device ∉ session.tasks.map Task.device) :
    session.answer.response.about device = (none, []) := by
  have notCollected : ∀ entry ∈ session.collected, entry.1 ≠ device := by
    rintro entry member rfl
    rcases kept.brought entry (List.mem_append_left _ member) with ⟨task, inTasks, same, -⟩
    exact foreign (List.mem_map.2 ⟨task, inTasks, same⟩)
  refine Prod.ext ?_ ?_
  · apply Option.eq_none_iff_forall_ne_some.2
    intro data isData
    have once : (session.collected.map Prod.fst).Nodup :=
      kept.once.sublist ((List.sublist_append_left session.collected session.mailbox).map _)
    rcases (SortedMap.get?_ofList_filterMap_eq_some once
      fun outcome => session.operation.summarize outcome.findings).1 isData with
      ⟨outcome, member, -⟩
    exact notCollected _ member rfl
  · refine (RoomResponse.filter_errors_sortErrors _ _).trans ?_
    have silent : (session.collected.flatMap fun outcome => outcome.2.reports).filter
        (fun report => report.device = device) = [] := by
      refine List.filter_eq_nil_iff.2 fun report member here => ?_
      rcases List.mem_flatMap.1 member with ⟨entry, isEntry, isReport⟩
      rcases kept.brought entry (List.mem_append_left _ isEntry) with ⟨task, -, same, settled⟩
      refine notCollected entry isEntry ?_
      rw [← same, ← settled.own isReport]
      exact of_decide_eq_true here
    rw [silent]
    exact List.mergeSort_nil

/-- Every report of an answer is one that a task has brought. -/
theorem Kept.exists_brought (kept : session.Kept Task.UnderWay Task.Settled) {report : FieldReport}
    (member : report ∈ session.answer.response.errors) :
    ∃ task ∈ session.tasks, ∃ outcome, task.Settled outcome ∧ report ∈ outcome.reports := by
  have isReport := (List.mergeSort_perm _ _).mem_iff.1 member
  rcases List.mem_flatMap.1 isReport with ⟨entry, isEntry, isReport⟩
  rcases kept.brought entry (List.mem_append_left _ isEntry) with ⟨task, isTask, -, settled⟩
  exact ⟨task, isTask, entry.2, settled, isReport⟩

/-- No answer says that a task has ended in silence. -/
theorem Kept.not_silent (kept : session.Kept Task.UnderWay Task.Settled) {report : FieldReport}
    (member : report ∈ session.answer.response.errors) (whole : report.field = "") :
    report.error ≠ silenceText := by
  rcases kept.exists_brought member with ⟨task, -, outcome, settled, isReport⟩
  rcases settled.excuse isReport whole with ⟨excuse, same⟩
  rw [same]
  exact excuse.text_ne_silence

end Session

namespace World

theorem distribute_ok {answer : Answer} (prepared : List (Except RequestError Session)) :
    ∀ (sessions : List Session) (k : Nat),
      (prepared.filterMap fun session => session.toOption).length = sessions.length →
      (distribute prepared sessions)[k]? = some (.ok answer) → ∃ (i : Nat) (session last : Session),
        prepared[k]? = some (.ok session) ∧
        (prepared.filterMap fun session => session.toOption)[i]? = some session ∧
        sessions[i]? = some last ∧ last.answer = answer := by
  induction prepared with
  | nil =>
      intro sessions k _ isAnswer
      cases isAnswer
  | cons head rest ih =>
      intro sessions k same isAnswer
      cases head with
      | error error =>
          cases k with
          | zero => cases isAnswer
          | succ k => exact ih sessions k same isAnswer
      | ok session =>
          cases sessions with
          | nil => cases same
          | cons last sessions =>
              cases k with
              | zero =>
                  have isOwn := Except.ok.inj (Option.some.inj isAnswer)
                  exact ⟨0, session, last, rfl, rfl, rfl, isOwn⟩
              | succ k =>
                  rcases ih sessions k (Nat.succ.inj same) isAnswer with
                    ⟨i, session', last', isPrepared, isSession, isLast, isOwn⟩
                  exact ⟨i + 1, session', last', isPrepared, isSession, isLast, isOwn⟩

variable {δ : Type} [Driver δ]

/-- An answer that is handed out to a request is that of its session when all is over. -/
theorem answer?_of_serve {world world' : World δ} {requests : List RoomRequest}
    {answers : List (Except RequestError Answer)} {k : Nat} {request : RoomRequest}
    {answer : Answer} (served : world.serve requests none = (world', some answers))
    (isRequest : requests[k]? = some request) (isAnswer : answers[k]? = some (.ok answer)) :
    ∃ i session, world.prepare request = .ok session ∧
      (world.engage requests).sessions[i]? = some session ∧
      (world.engage requests).answer? i (world.engage requests).bound = some answer := by
  rw [serve_eq] at served
  split at served
  · rename_i finished
    obtain rfl := Option.some.inj (Prod.mk.inj served).2
    have sameLength := ((world.engage requests).complete_reaches none).length_eq
    rcases distribute_ok _ _ k sameLength isAnswer with
      ⟨i, session, last, isPrepared, isSession, isLast, rfl⟩
    rw [List.getElem?_map, isRequest] at isPrepared
    have isOver := List.all_eq_true.1 finished last (List.mem_of_getElem? isLast)
    refine ⟨i, session, Option.some.inj isPrepared, isSession, ?_⟩
    have isLast' : ((world.engage requests).after (world.engage requests).bound).sessions[i]? =
        some last := isLast
    simp [Run.answer?, isLast', Option.filter, isOver]
  · simp at served

/-- The books of a request are kept for every device on its own. -/
theorem Ready.accounts {world : World δ} {requests : List RoomRequest} {request : RoomRequest}
    {session : Session} {i : Nat} (ready : world.Ready request session)
    (isSession : (world.engage requests).sessions[i]? = some session) (steps : Nat)
    (device : DeviceId) : ∃ last,
      ((world.engage requests).after steps).Accounts i last device
        ((world.engage requests).deliveries i device steps) ∧ session.Continues last := by
  have start : (world.engage requests).Accounts i session device [] := by
    refine ⟨isSession, ready.kept ready.underWay, by simp, by simp, fun _ => ?_, fun isOver => ?_⟩
    · simp [Session.told, ready.empty]
    · rw [ready.unfinished] at isOver
      cases isOver
  rcases start.attend with ⟨middle, accounts, continues⟩
  rcases accounts.go steps with ⟨last, accounts', continues'⟩
  rw [List.nil_append] at accounts'
  exact ⟨last, accounts', continues.trans continues'⟩

/--
Whatever drivers do and whenever contexts end: when a request is answered, the answer holds for
every device that was to be contacted what its task has reported, or else one error that says why it
was given up, and nothing about other devices. A driver that breaks down leaves its device with one
error.
-/
theorem reports_once {world : World (Recorded δ)} {requests : List RoomRequest}
    {request : RoomRequest} {session : Session} {i steps : Nat} {answer : Answer}
    (prepared : world.prepare request = .ok session)
    (isSession : (world.engage requests).sessions[i]? = some session)
    (isAnswer : (world.engage requests).answer? i steps = some answer) :
    (world.engage requests).ReportsOnce i steps request answer := by
  have ready := ready_of_prepare prepared
  rcases Option.map_eq_some_iff.1 isAnswer with ⟨last, isLast, rfl⟩
  rcases Option.filter_eq_some_iff.1 isLast with ⟨isLast, finished⟩
  -- The books are kept for each device on its own, but it is one session that they are about.
  have accounts : ∀ device, session.Continues last ∧ last.Accounts
      ((world.engage requests).after steps).world device
      ((world.engage requests).deliveries i device steps) := by
    intro device
    rcases ready.accounts isSession steps device with ⟨last', accounts, continues⟩
    obtain rfl := Option.some.inj (accounts.isSession.symm.trans isLast)
    exact ⟨continues, accounts.accounts⟩
  have kept := fun device => (accounts device).2.kept
  have continues := (accounts ⟨""⟩).1
  have devices := continues.devices.trans ready.devices
  have reported : ∀ device ∈ (request.operation.targets request.room).map Prod.fst,
      (world.engage requests).Reported i steps request.context last.answer device := by
    intro device isTarget
    rw [← devices] at isTarget
    rcases List.mem_map.1 isTarget with ⟨task, member, rfl⟩
    rcases (kept task.device).outcome finished member with ⟨outcome, collected, -⟩
    have tells := (kept task.device).tells (fun settled _ => settled.own) collected
    refine ⟨(accounts task.device).2.atMostOnce, ?_⟩
    rcases (accounts task.device).2.after finished outcome collected with
      delivered | ⟨⟨interruption, rfl⟩, ended⟩
    · exact Or.inl ⟨outcome, delivered, tells⟩
    · rw [continues.context, ready.context] at ended
      exact Or.inr ⟨ended, interruption, Session.about_of_excused tells⟩
  refine ⟨continues.operation.trans ready.operation, reported, fun device foreign => ?_,
    fun device look isLook breaksDown => ?_, fun report member whole => ?_⟩
  · rw [← devices] at foreign
    exact (kept device).about_others foreign
  · rcases Run.look_of_mem steps (world.equipped_engage requests).attend isLook with
      ⟨isDevice, registered⟩
    rcases breaksDown.excused registered with ⟨excuse, isOutcome⟩
    have delivered : Outcome.ofDevice device excuse.text ∈
        (world.engage requests).deliveries i device steps := by
      refine List.mem_flatMap.2 ⟨look, isLook, ?_⟩
      rw [isOutcome, isDevice]
      exact Option.mem_toList.2 rfl
    have isTarget := (accounts device).2.contacted (List.ne_nil_of_mem delivered)
    rw [devices] at isTarget
    rcases (reported device isTarget).account with
      ⟨outcome, only, tells⟩ | ⟨-, interruption, about⟩
    · rw [only] at delivered
      obtain rfl := List.mem_singleton.1 delivered
      exact ⟨_, Session.about_of_excused tells, rfl⟩
    · exact ⟨_, about, rfl⟩
  · exact (kept report.device).not_silent member whole

/-- A script by which the device in the lab breaks down when it is asked how it is. -/
def labBreakdown : Script where
  devices := SortedMap.empty.insert "lab"
    { rules := SortedMap.empty.insert "healthy" { crashes := true } }

theorem reports_once_lab :
    let request : RoomRequest :=
      { operation := .health, room := lab, context := { deadline := none, token := 0 } }
    let world := labWorld ({ driver := { script := labBreakdown } } : Recorded ScriptedDriver)
    ∃ session answer, world.prepare request = .ok session ∧
      (world.engage [request]).sessions[0]? = some session ∧
      (world.engage [request]).answer? 0 4 = some answer ∧
      (∃ look ∈ (world.engage [request]).attend.looksWithin 0 ⟨"D1"⟩ 4, look.BreaksDown) ∧
      (world.engage [request]).ReportsOnce 0 4 request answer := by
  intro request world
  have isOk : (world.prepare request).toOption.isSome = true := by decide +kernel
  have isOver : ((world.engage [request]).answer? 0 4).isSome = true := by decide +kernel
  have breaks : ((world.engage [request]).attend.looksWithin 0 ⟨"D1"⟩ 4).any (fun look =>
      look.deeds.any fun deed => deed = .finishCall "lab" .healthy .crash) = true := by
    decide +kernel
  rcases exists_of_isSome isOk with ⟨session, prepared⟩
  rcases Option.isSome_iff_exists.1 isOver with ⟨answer, isAnswer⟩
  rcases List.any_eq_true.1 breaks with ⟨look, isLook, breaks⟩
  rcases List.any_eq_true.1 breaks with ⟨deed, isDeed, isCrash⟩
  obtain rfl := of_decide_eq_true isCrash
  have isSession : (world.engage [request]).sessions[0]? = some session := by
    simp [engage, prepared, Except.toOption]
  exact ⟨session, answer, prepared, isSession, isAnswer,
    ⟨look, isLook, Or.inl ⟨_, isDeed, rfl⟩⟩, reports_once prepared isSession isAnswer⟩

end World

end AvControl

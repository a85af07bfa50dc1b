import AvControl.Proofs.Engine.Accord
import AvControl.Proofs.Engine.Follow
import AvControl.Proofs.Engine.Happenings

/-!
# What requests gather

Whatever happens, what the task of a request has found stays with the request, first with the task
and then with the coordinator. A request whose context is live when all is over has lost nothing of
it, and if it was to set states, its answer echoes every field that one of its commands has set, and
no other field.
-/

namespace AvControl

/-- What a finding sets a field to, if it sets the field. -/
def Finding.write? (finding : Finding) (field : Field) : Option Setting :=
  if finding.command.field = field then finding.command.setting? else none

theorem Finding.write?_eq_some {finding : Finding} {field : Field} {setting : Setting} :
    finding.write? field = some setting ↔
      finding.command.field = field ∧ finding.command.setting? = some setting := by
  simp [write?]

namespace Task

variable {task : Task} {outcome : Outcome}

theorem Settled.write?_of_reads (settled : task.Settled outcome)
    (reads : ∀ desired, task.work ≠ .apply desired) {finding : Finding}
    (member : finding ∈ outcome.findings) (field : Field) : finding.write? field = none := by
  rcases settled with ⟨excuse, rfl⟩ | ⟨handle, settles⟩
  · cases member
  · rcases settles.perm_commands with ⟨failures, -, all⟩
    have isCommand := all.subset
      (List.mem_append_right _ (List.mem_map.2 ⟨finding, member, rfl⟩))
    have sets := Work.setting?_of_reads reads isCommand
    simp [Finding.write?, sets]

/-- What a task that applies a state has set is the state that its findings make up. -/
theorem Settled.exists_write? (settled : task.Settled outcome) {desired : DeviceState}
    (applies : task.work = .apply desired) {field : Field} {setting : Setting} :
    (∃ finding ∈ outcome.findings, finding.write? field = some setting) ↔
      ∃ state, DeviceState.ofFindings? outcome.findings = some state ∧
        state.setting? field = some setting := by
  have makeUp : (∃ state, DeviceState.ofFindings? outcome.findings = some state ∧
      state.setting? field = some setting) ↔
        ((DeviceState.ofFindings? outcome.findings).getD {}).setting? field = some setting := by
    cases DeviceState.ofFindings? outcome.findings with
    | none => simp [show ({} : DeviceState).setting? field = none by cases field <;> rfl]
    | some state => simp
  rw [makeUp]
  simp only [Finding.write?_eq_some]
  rcases settled.split applies with ⟨text, rfl⟩ | ⟨failures, -, all⟩
  · rw [setting?_ofFindings]
    cases field <;> simp [Outcome.ofDevice, DeviceState.setting?]
  · exact (Dealt.of_perm all).achieved.symm

end Task

/-- What the answer to a request to set states echoes of a device. -/
def Answer.echo? (answer : Answer) (device : DeviceId) : Option DeviceState :=
  match answer with
  | ⟨.set _, response⟩ => response.devices.get? device
  | _ => none

namespace Session

/-- What a task has found, be it still with the task or with the coordinator. -/
def found (session : Session) (task : Task) : List Finding :=
  task.findings ++ (session.arrived.filter fun entry => entry.1 = task.device).flatMap
    fun entry => entry.2.findings

/-- A task of the session has set a field of the device at an address to something. -/
def Sets (session : Session) (driver address : String) (field : Field) (setting : Setting) :
    Prop :=
  ∃ task ∈ session.tasks, (task.config.driver, task.config.address) = (driver, address) ∧
    ∃ finding ∈ session.found task, finding.write? field = some setting

/-- The answer echoes a setting of a field of the device at an address. -/
def Echoes (session : Session) (driver address : String) (field : Field) (setting : Setting) :
    Prop :=
  ∃ task ∈ session.tasks, (task.config.driver, task.config.address) = (driver, address) ∧
    ∃ state, session.answer.echo? task.device = some state ∧ state.setting? field = some setting

/-- A session is not over before its tasks are, and these are for the targets of a room. -/
structure InOrder (session : Session) : Prop where
  kept : session.Kept Task.UnderWay Task.Settled
  complete : session.finished = true → ∀ task ∈ session.tasks, task.phase = .reported
  targeted : ∃ room, ∀ task ∈ session.tasks,
    (task.device, task.work) ∈ session.operation.targets room

variable {session : Session} {driver address : String} {field : Field} {setting : Setting}

/-- What a task finds is added to what its session has set. -/
theorem sets_receive (driver address : String) (field : Field) (setting : Setting)
    (kept : session.Kept Task.UnderWay Task.Settled) {j : Nat} {task : Task}
    (isTask : session.tasks[j]? = some task) {phase : Phase} {outcome : Option Outcome}
    {new : List Finding}
    (gains : (task.enter phase).findings ++ outcome.toList.flatMap Outcome.findings =
      task.findings ++ new) :
    (session.receive j (task.enter phase, outcome)).Sets driver address field setting ↔
      session.Sets driver address field setting ∨
        (task.config.driver, task.config.address) = (driver, address) ∧
          ∃ finding ∈ new, finding.write? field = some setting := by
  have arrived : (session.receive j (task.enter phase, outcome)).arrived =
      session.arrived ++ (outcome.map fun outcome => (task.device, outcome)).toList := by
    simp [Session.arrived, receive]
  refine exists_mem_set isTask (fun k other differs isOther => ?_) ?_
  · -- the devices of two tasks differ, so what has arrived of the one is not of the other
    have apart : task.device ≠ other.device := by
      intro same
      rcases List.getElem?_eq_some_iff.1 isOther with ⟨inside, -⟩
      apply differs
      apply (List.getElem?_inj (by simpa using inside) kept.distinct).1
      simp [isOther, isTask, same]
    have same : (session.receive j (task.enter phase, outcome)).found other =
        session.found other := by
      simp only [found, arrived, List.filter_append]
      cases outcome <;> simp [apart]
    rw [same]
  · have sameDevice : (task.enter phase).device = task.device := rfl
    have more : ∀ finding,
        finding ∈ (session.receive j (task.enter phase, outcome)).found (task.enter phase) ↔
          finding ∈ session.found task ∨ finding ∈ new := by
      intro finding
      have gained : finding ∈ (task.enter phase).findings ∨
          finding ∈ outcome.toList.flatMap Outcome.findings ↔
            finding ∈ task.findings ∨ finding ∈ new := by
        rw [← List.mem_append, gains, List.mem_append]
      have isOwn : (((outcome.map fun outcome => (task.device, outcome)).toList.filter
          fun entry => entry.1 = task.device).flatMap fun entry => entry.2.findings) =
            outcome.toList.flatMap Outcome.findings := by
        cases outcome <;> simp
      rw [found, found, arrived, sameDevice, List.filter_append, List.flatMap_append, isOwn,
        List.mem_append, List.mem_append, List.mem_append, ← or_assoc, or_right_comm, gained,
        or_right_comm]
    simp only [more, or_and_right, exists_or, and_or_left]
    rfl

/-- What has been set stays so when the coordinator looks around, as long as the context is live. -/
theorem sets_attend {δ : Type} {world : World δ}
    (arrived : (session.attend world).2.arrived = session.arrived) :
    (session.attend world).2.Sets driver address field setting ↔
      session.Sets driver address field setting := by
  simp only [Sets, found, tasks_attend, arrived]

theorem not_sets_of_fresh (fresh : ∀ task ∈ session.tasks, task.phase = .opening .fresh)
    (empty : session.arrived = []) : ¬session.Sets driver address field setting := by
  rintro ⟨task, member, -, finding, isFound, -⟩
  simp [found, Task.findings, fresh task member, empty] at isFound

theorem echo?_answer_of_reads (reads : ∀ request, session.operation ≠ .set request)
    (device : DeviceId) : session.answer.echo? device = none := by
  rcases session with ⟨operation⟩
  cases operation with
  | set request => exact absurd rfl (reads request)
  | get | health | info => rfl

theorem echo?_answer_of_set {request : StateRequest} (isSet : session.operation = .set request)
    (once : (session.collected.map Prod.fst).Nodup) {device : DeviceId} {outcome : Outcome}
    (collected : (device, outcome) ∈ session.collected) :
    session.answer.echo? device = DeviceState.ofFindings? outcome.findings := by
  rcases session with ⟨operation⟩
  obtain rfl : operation = .set request := isSet
  exact data_answer once collected

/-- The answer echoes what has been set. -/
theorem InOrder.sets_iff_echoes (inOrder : session.InOrder) (finished : session.finished = true) :
    session.Sets driver address field setting ↔
      session.Echoes driver address field setting := by
  rcases inOrder with ⟨kept, complete, room, targeted⟩
  refine exists_congr fun task => and_congr_right fun member => and_congr_right fun _ => ?_
  rcases kept.outcome finished member with ⟨outcome, collected, settled⟩
  have isFound : session.found task = outcome.findings := by
    have own := filter_eq_singleton Prod.fst kept.once (List.mem_append_left _ collected)
    simp only [found, Task.findings, complete finished task member, List.nil_append, arrived]
    exact (congrArg _ own).trans (by simp)
  have isTarget := targeted task member
  rw [isFound]
  by_cases sets : ∃ request, session.operation = .set request
  · rcases sets with ⟨request, isSet⟩
    have once : (session.collected.map Prod.fst).Nodup :=
      kept.once.sublist ((List.sublist_append_left session.collected session.mailbox).map _)
    rw [isSet] at isTarget
    rcases Operation.exists_apply isTarget with ⟨desired, -, applies⟩
    rw [echo?_answer_of_set isSet once collected]
    exact settled.exists_write? applies
  · have reads : ∀ request, session.operation ≠ .set request :=
      fun request isSet => sets ⟨request, isSet⟩
    refine iff_of_false ?_ ?_
    · rintro ⟨finding, isFinding, writes⟩
      rw [settled.write?_of_reads (Operation.not_apply reads isTarget) isFinding field] at writes
      cases writes
    · rintro ⟨state, echoed, -⟩
      rw [echo?_answer_of_reads reads] at echoed
      cases echoed

end Session

namespace Run

variable {δ : Type} {run next : Run δ}

/-- No request has been cancelled or has run out of time. -/
def Live (run : Run δ) : Prop :=
  ∀ session ∈ run.sessions, run.world.interruption? session.context = none

/-- All requests are in order. -/
def InOrder (run : Run δ) : Prop := ∀ session ∈ run.sessions, session.InOrder

/-- A request has set a field of the device at an address to something. -/
def Sets (run : Run δ) (driver address : String) (field : Field) (setting : Setting) : Prop :=
  ∃ session ∈ run.sessions, session.Sets driver address field setting

variable [Driver δ]

theorem Happens.live_before (happens : Happens run next) (live : next.Live) : run.Live := by
  intro session member
  rcases List.mem_iff_getElem?.1 member with ⟨i, isSession⟩
  rcases happens.continues isSession with ⟨session', isNext, continues⟩
  have liveNext := live session' (List.mem_of_getElem? isNext)
  rw [continues.context] at liveNext
  exact happens.live liveNext

omit [Driver δ] in
theorem live_attend {i : Nat} {session : Session} (isSession : run.sessions[i]? = some session)
    (live : Live { world := (session.attend run.world).1
                   sessions := run.sessions.set i (session.attend run.world).2 }) :
    (session.attend run.world).1.interruption? session.context = none := by
  rcases List.getElem?_eq_some_iff.1 isSession with ⟨inside, -⟩
  have isLive := live (session.attend run.world).2
    (List.mem_iff_getElem?.2 ⟨i, by simp [inside]⟩)
  rwa [(session.continues_attend run.world).context] at isLive

/-- As long as requests are live none of them is over before all its tasks are. -/
theorem Happens.complete (happens : Happens run next) (live : next.Live) (inOrder : run.InOrder)
    {session : Session} (member : session ∈ next.sessions) (finished : session.finished = true) :
    ∀ task ∈ session.tasks, task.phase = .reported := by
  cases happens with
  | creates | cancels | configures | visits => exact (inOrder session member).complete finished
  | arrives prepared =>
      rcases List.mem_append.1 member with isOld | isNew
      · exact (inOrder session isOld).complete finished
      · obtain rfl := List.mem_singleton.1 isNew
        rw [(World.ready_of_prepare prepared).unfinished] at finished
        cases finished
  | advances advances =>
      cases advances with
      | waits => exact (inOrder session member).complete finished
      | @stirs i j other task result isOther unfinished =>
          rcases List.mem_or_eq_of_mem_set member with isOld | rfl
          · exact (inOrder session isOld).complete finished
          · exact absurd (unfinished.symm.trans finished) (by simp)
      | @attends i other isOther =>
          rcases List.mem_or_eq_of_mem_set member with isOld | rfl
          · exact (inOrder session isOld).complete finished
          · have before := inOrder other (List.mem_of_getElem? isOther)
            intro task isTask
            rw [Session.tasks_attend] at isTask
            -- a live session that was not over before has collected the outcomes of all its tasks
            by_contra atWork
            cases unfinished : other.finished with
            | true => exact atWork (before.complete unfinished task isTask)
            | false =>
                rw [Session.open_attend (δ := δ) before.kept unfinished
                  (live_attend isOther live) isTask atWork] at finished
                cases finished

/-- Whatever happens, every task is for a target of its request. -/
theorem Happens.targeted (happens : Happens run next) (inOrder : run.InOrder) {session : Session}
    (member : session ∈ next.sessions) : ∃ room, ∀ task ∈ session.tasks,
      (task.device, task.work) ∈ session.operation.targets room := by
  have onward : ∀ {before : Session}, before.InOrder → before.Continues session →
      ∃ room, ∀ task ∈ session.tasks,
        (task.device, task.work) ∈ session.operation.targets room := by
    intro before inOrder continues
    rcases inOrder.targeted with ⟨room, targeted⟩
    refine ⟨room, fun task isTask => ?_⟩
    rcases continues.symm.mem isTask with ⟨phase, isOld⟩
    rw [continues.operation]
    have isTarget := targeted (task.enter phase) isOld
    exact isTarget
  cases happens with
  | creates | cancels | configures | visits => exact (inOrder session member).targeted
  | @arrives request _ prepared =>
      rcases List.mem_append.1 member with isOld | isNew
      · exact (inOrder session isOld).targeted
      · obtain rfl := List.mem_singleton.1 isNew
        exact ⟨request.room, fun _ isTask => (World.ready_of_prepare prepared).targets isTask⟩
  | advances advances =>
      cases advances with
      | waits => exact (inOrder session member).targeted
      | attends isOther =>
          rcases List.mem_or_eq_of_mem_set member with isOld | rfl
          · exact (inOrder session isOld).targeted
          · exact onward (inOrder _ (List.mem_of_getElem? isOther))
              (Session.continues_attend _ run.world)
      | @stirs i j other task result isOther unfinished isTask stirs =>
          rcases List.mem_or_eq_of_mem_set member with isOld | rfl
          · exact (inOrder session isOld).targeted
          · rcases stirs.eq_enter with ⟨phase, same⟩
            have continues := Session.continues_enter phase result.2.2 isTask
            rw [← same] at continues
            exact onward (inOrder _ (List.mem_of_getElem? isOther)) continues

theorem Happens.inOrder (happens : Happens run next) (live : next.Live)
    (inOrder : run.InOrder) : next.InOrder := by
  have orderly := happens.orderly fun session member => (inOrder session member).kept
  exact fun session member => ⟨orderly session member,
    happens.complete live inOrder member, happens.targeted inOrder member⟩

end Run

end AvControl

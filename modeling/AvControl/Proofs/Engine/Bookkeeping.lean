import AvControl.Proofs.Engine.Sessions
import AvControl.Proofs.Response
import AvControl.Proofs.SortedMap
import Mathlib.Data.List.Nodup

/-!
# One outcome for each device

Every device of a session has one task, which reports once. Its outcome goes through the mailbox to
the coordinator, who makes one up for every device that it gives up on. In the end there is exactly
one outcome for each device, and the answer says of the device what its outcome says.
-/

namespace AvControl

namespace Task

variable {δ : Type} [Driver δ]

/--
What tasks of some kind do: being of the kind is kept while they are looked after, and whatever
they report is something that they bring. Giving up on them brings such a thing, too.
-/
structure Conduct (δ : Type) [Driver δ] (busy : Task → Prop) (brings : Task → Outcome → Prop) :
    Prop where
  polled : ∀ {task : Task} (context : RequestContext) (world : World δ), busy task →
    busy (task.poll context world).2.1
  reports : ∀ {task : Task} {outcome : Outcome} (context : RequestContext) (world : World δ),
    busy task → (task.poll context world).2.2 = some outcome → brings task outcome
  givesUp : ∀ (task : Task) (interruption : Interruption),
    brings task (.ofDevice task.device interruption.message)
  enter : ∀ {task : Task} {outcome : Outcome} (phase : Phase), brings task outcome →
    brings (task.enter phase) outcome

theorem isOver_iff {task : Task} : task.isOver = true ↔ task.phase = .reported := by
  simp only [isOver]
  cases task.phase <;> simp

theorem poll_reported {task : Task} (isOver : task.phase = .reported) (context : RequestContext)
    (world : World δ) : task.poll context world = (world, task, none) := by
  simp only [poll]
  simp [isOver]

end Task

/-- What a response says about a device: its data, and what is reported about it. -/
def RoomResponse.about {α : Type} (response : RoomResponse α) (device : DeviceId) :
    Option α × List FieldReport :=
  (response.devices.get? device, response.errors.filter fun report => report.device = device)

/-- An answer says of a device what an outcome says: its findings, and its reports in order. -/
def Answer.Tells (answer : Answer) (device : DeviceId) (outcome : Outcome) : Prop :=
  answer.response.about device = (answer.operation.summarize outcome.findings,
    outcome.reports.mergeSort fun a b => (a.compare b).isLE)

namespace Session

/-- The outcomes that have arrived, collected or not. -/
def arrived (session : Session) : List (DeviceId × Outcome) := session.collected ++ session.mailbox

@[simp]
theorem arrived_collect (session : Session) (count : Nat) :
    (session.collect count).arrived = session.arrived := by
  simp [arrived, collect, List.append_assoc]

theorem hasCollected_iff {session : Session} {device : DeviceId} :
    session.hasCollected device = true ↔ device ∈ session.collected.map Prod.fst := by
  simp [hasCollected]

theorem mem_unreported {session : Session} {device : DeviceId} :
    device ∈ session.unreported ↔
      device ∈ session.tasks.map Task.device ∧ device ∉ session.collected.map Prod.fst := by
  rw [unreported, List.mem_filter, ← hasCollected_iff]
  simp

/-- The books of a session are in order. -/
structure Kept (busy : Task → Prop) (brings : Task → Outcome → Prop) (session : Session) :
    Prop where
  distinct : (session.tasks.map Task.device).Nodup
  busy : ∀ task ∈ session.tasks, busy task
  once : (session.arrived.map Prod.fst).Nodup
  reported : session.finished = false → ∀ task ∈ session.tasks,
    task.phase = .reported ↔ task.device ∈ session.arrived.map Prod.fst
  brought : ∀ entry ∈ session.arrived, ∃ task ∈ session.tasks,
    task.device = entry.1 ∧ brings task entry.2
  complete : session.finished = true → session.mailbox = [] ∧ session.unreported = []

variable {δ : Type} [Driver δ] {busy : Task → Prop} {brings : Task → Outcome → Prop}
  {session : Session}

omit [Driver δ] in
theorem Kept.eq_or_other (kept : session.Kept busy brings) {j : Nat} {task polled other : Task}
    (isTask : session.tasks[j]? = some task) (member : other ∈ session.tasks.set j polled) :
    other = polled ∨ other ∈ session.tasks ∧ other.device ≠ task.device := by
  rcases List.mem_iff_getElem?.1 member with ⟨k, here⟩
  rw [List.getElem?_set] at here
  by_cases same : j = k
  · rw [if_pos same] at here
    split at here
    · exact Or.inl (Option.some.inj here).symm
    · simp at here
  · rw [if_neg same] at here
    refine Or.inr ⟨List.mem_of_getElem? here, fun sameDevice => same ?_⟩
    rcases List.getElem?_eq_some_iff.1 isTask with ⟨inside, -⟩
    apply (List.getElem?_inj (by simpa using inside) kept.distinct).1
    simp [isTask, here, sameDevice]

omit [Driver δ] in
theorem still_there {j : Nat} {task other : Task} (phase : Phase)
    (isTask : session.tasks[j]? = some task) (member : other ∈ session.tasks) :
    ∃ phase', other.enter phase' ∈ session.tasks.set j (task.enter phase) := by
  rcases List.mem_iff_getElem?.1 member with ⟨k, here⟩
  rcases List.getElem?_eq_some_iff.1 here with ⟨inside, -⟩
  by_cases same : j = k
  · subst same
    rw [isTask] at here
    refine ⟨phase, List.mem_iff_getElem?.2 ⟨j, ?_⟩⟩
    simp [inside, Option.some.inj here]
  · refine ⟨other.phase, List.mem_iff_getElem?.2 ⟨k, ?_⟩⟩
    rw [List.getElem?_set_ne same]
    exact here

/-- What comes out of looking after one task is entered into the books. -/
theorem Kept.enter (kept : session.Kept busy brings) (conduct : Task.Conduct δ busy brings)
    (unfinished : session.finished = false) {j : Nat} {task : Task} {phase : Phase}
    {outcome : Option Outcome} (isTask : session.tasks[j]? = some task)
    (stillBusy : busy (task.enter phase))
    (reports : outcome.isSome = true ↔ task.phase ≠ .reported ∧ phase = .reported)
    (stays : task.phase = .reported → phase = .reported)
    (brought : ∀ report, outcome = some report → brings task report) :
    (session.receive j (task.enter phase, outcome)).Kept busy brings := by
  have inTasks : task ∈ session.tasks := List.mem_of_getElem? isTask
  have known := kept.reported unfinished task inTasks
  have arrived : (session.receive j (task.enter phase, outcome)).arrived =
      session.arrived ++ (outcome.map fun outcome => (task.device, outcome)).toList := by
    simp [Session.arrived, receive]
  have devices : (session.receive j (task.enter phase, outcome)).tasks.map Task.device =
      session.tasks.map Task.device := (continues_enter phase outcome isTask).devices
  refine ⟨devices ▸ kept.distinct, fun other member => ?_, ?_, fun _ other member => ?_,
    fun entry member => ?_, fun finished => ?_⟩
  · rcases kept.eq_or_other isTask member with rfl | ⟨inOld, -⟩
    · exact stillBusy
    · exact kept.busy other inOld
  · rw [arrived]
    cases outcome with
    | none => simpa using kept.once
    | some report =>
        have absent := mt known.2 (reports.1 rfl).1
        rw [List.map_append, List.nodup_append]
        refine ⟨kept.once, by simp, fun device inOld device' isNew same => absent ?_⟩
        simp only [Option.map_some, Option.toList_some, List.map_cons, List.map_nil,
          List.mem_singleton] at isNew
        rwa [← isNew, ← same]
  · rw [arrived]
    rcases kept.eq_or_other isTask member with rfl | ⟨inOld, differs⟩
    · cases outcome with
      | none =>
          have stillReports : phase = .reported ↔ task.phase = .reported :=
            ⟨fun isOver => by_contra fun before => by simpa using reports.2 ⟨before, isOver⟩, stays⟩
          simpa using stillReports.trans known
      | some report => simpa using (reports.1 rfl).2
    · have old := kept.reported unfinished other inOld
      cases outcome <;> simpa [differs] using old
  · rw [arrived] at member
    rcases List.mem_append.1 member with inOld | isNew
    · rcases kept.brought entry inOld with ⟨other, inOld, sameDevice, brings⟩
      rcases still_there phase isTask inOld with ⟨phase', there⟩
      exact ⟨_, there, sameDevice, conduct.enter phase' brings⟩
    · rcases still_there phase isTask inTasks with ⟨phase', there⟩
      cases outcome with
      | none => simp at isNew
      | some report =>
          simp only [Option.map_some, Option.toList_some, List.mem_singleton] at isNew
          subst isNew
          exact ⟨_, there, rfl, conduct.enter phase' (brought report rfl)⟩
  · exact absurd (show session.finished = true from finished) (by simp [unfinished])

theorem Kept.receive (kept : session.Kept busy brings) (conduct : Task.Conduct δ busy brings)
    (unfinished : session.finished = false) {j : Nat} {task : Task} (world : World δ)
    (isTask : session.tasks[j]? = some task) :
    (session.receive j (task.poll session.context world).2).Kept busy brings := by
  have polls := task.poll_polls session.context world
  have isBusy := kept.busy task (List.mem_of_getElem? isTask)
  have stillBusy := conduct.polled session.context world isBusy
  rcases polls.eq_enter with ⟨phase, same⟩
  have reports := polls.reports_iff
  have entered : (task.poll session.context world).2 =
      (task.enter phase, (task.poll session.context world).2.2) := Prod.ext same rfl
  rw [same] at stillBusy reports
  rw [entered]
  refine kept.enter conduct unfinished isTask stillBusy reports (fun isOver => ?_)
    fun report => conduct.reports session.context world isBusy
  rw [Task.poll_reported isOver] at same
  have samePhase := congrArg Task.phase same
  exact samePhase.symm.trans isOver

omit [Driver δ] in
/--
While the books are in order no task comes to its end without an outcome: a coordinator under a live
context collects what has arrived, and is done as soon as no device is missing.
-/
theorem Kept.coordinate_live (kept : session.Kept busy brings)
    (unfinished : session.finished = false) :
    session.coordinate none = { session.collect session.mailbox.length with
      finished := (session.collect session.mailbox.length).unreported.isEmpty } := by
  have collected : (session.collect session.mailbox.length).collected = session.arrived := by
    simp [collect, Session.arrived]
  have noMail : (session.collect session.mailbox.length).mailbox = [] := List.drop_length
  have allOver : (session.collect session.mailbox.length).tasks.all Task.isOver = true ↔
      (session.collect session.mailbox.length).unreported = [] := by
    rw [List.all_eq_true, List.eq_nil_iff_forall_not_mem]
    constructor
    · intro ended device missing
      rcases mem_unreported.1 missing with ⟨isDevice, notCollected⟩
      rcases List.mem_map.1 isDevice with ⟨task, member, rfl⟩
      rw [collected] at notCollected
      exact notCollected ((kept.reported unfinished task member).1
        (Task.isOver_iff.1 (ended task member)))
    · intro noneMissing task member
      rw [Task.isOver_iff, kept.reported unfinished task member, ← collected]
      by_contra notCollected
      exact noneMissing _ (mem_unreported.2 ⟨List.mem_map.2 ⟨task, member, rfl⟩, notCollected⟩)
  simp only [coordinate]
  by_cases ended : (session.collect session.mailbox.length).tasks.all Task.isOver = true
  · have noneMissing := allOver.1 ended
    rw [if_pos ended, giveUp, noneMissing, List.map_nil, List.append_nil, ← noMail]
    rfl
  · have someMissing := mt allOver.2 ended
    rw [if_neg ended, List.isEmpty_eq_false_iff.2 someMissing, ← unfinished]
    rfl

omit [Driver δ] in
theorem Kept.arrived_live (kept : session.Kept busy brings)
    (unfinished : session.finished = false) :
    (session.coordinate none).arrived = session.arrived := by
  rw [kept.coordinate_live unfinished]
  exact session.arrived_collect session.mailbox.length

/-- A coordinator that looks around keeps the books in order. -/
theorem Kept.coordinate (kept : session.Kept busy brings) (conduct : Task.Conduct δ busy brings)
    (unfinished : session.finished = false) (ended : Option Interruption) :
    (session.coordinate ended).Kept busy brings := by
  cases ended with
  | none =>
      have arrived := kept.arrived_live unfinished
      rw [kept.coordinate_live unfinished] at arrived ⊢
      refine ⟨kept.distinct, kept.busy, arrived ▸ kept.once, fun _ => ?_, ?_, fun finished => ?_⟩
      · rw [arrived]
        exact kept.reported unfinished
      · rw [arrived]
        exact kept.brought
      · refine ⟨List.drop_length, ?_⟩
        exact List.isEmpty_iff.1 finished
  | some interruption =>
      have arrived : (session.coordinate (some interruption)).arrived =
          session.collected ++ session.mailbox.take 1 ++
            (session.collect 1).unreported.map fun device =>
              (device, .ofDevice device interruption.message) := by
        simp [Session.arrived, Session.coordinate, giveUp, collect]
      have old : ∀ entry ∈ session.collected ++ session.mailbox.take 1,
          entry ∈ session.arrived := by
        intro entry member
        rcases List.mem_append.1 member with inOld | inMailbox
        · exact List.mem_append_left _ inOld
        · exact List.mem_append_right _ (List.mem_of_mem_take inMailbox)
      refine ⟨kept.distinct, kept.busy, ?_, ?_, ?_, fun _ => ⟨rfl, ?_⟩⟩
      · have sublist : (session.collected ++ session.mailbox.take 1).Sublist session.arrived :=
          (List.take_sublist 1 session.mailbox).append_left session.collected
        rw [arrived, List.map_append, List.map_map, List.nodup_append]
        refine ⟨kept.once.sublist (sublist.map _), ?_, ?_⟩
        · simp only [Function.comp_def, List.map_id']
          exact kept.distinct.filter _
        · intro device collected other missing same
          subst same
          simp only [Function.comp_def, List.map_id'] at missing
          exact (mem_unreported.1 missing).2 collected
      · intro unfinished
        simp [Session.coordinate, giveUp] at unfinished
      · rw [arrived]
        intro entry member
        rcases List.mem_append.1 member with inOld | isNew
        · exact kept.brought entry (old entry inOld)
        · rcases List.mem_map.1 isNew with ⟨device, missing, rfl⟩
          rcases List.mem_map.1 (mem_unreported.1 missing).1 with ⟨task, inTasks, rfl⟩
          exact ⟨task, inTasks, rfl, conduct.givesUp task interruption⟩
      · apply List.eq_nil_iff_forall_not_mem.2
        intro device missing
        rcases mem_unreported.1 missing with ⟨isDevice, notCollected⟩
        simp only [Session.coordinate, giveUp, List.map_append, List.mem_append, not_or,
          List.map_map, Function.comp_def, List.map_id'] at notCollected
        exact notCollected.2 (mem_unreported.2 ⟨isDevice, notCollected.1⟩)

theorem Kept.attend (kept : session.Kept busy brings) (conduct : Task.Conduct δ busy brings)
    (world : World δ) : (session.attend world).2.Kept busy brings := by
  have attends := session.attend_attends world
  generalize session.attend world = attended at attends
  cases attends with
  | rests => exact kept
  | givesUp unfinished ended => exact kept.coordinate conduct unfinished (some _)
  | collects unfinished => exact kept.coordinate conduct unfinished none
  | cancels unfinished _ unreported =>
      exact (kept.coordinate conduct unfinished none).coordinate conduct unreported _

theorem Kept.goes {session' : Session} (kept : session.Kept busy brings)
    (conduct : Task.Conduct δ busy brings) (goes : session.Goes δ session') :
    session'.Kept busy brings := by
  cases goes with
  | stays => exact kept
  | polls world unfinished isTask => exact kept.receive conduct unfinished world isTask
  | attends world => exact kept.attend conduct world

/-- However a session goes on, its books stay in order. -/
theorem Kept.reaches {session' : Session} (kept : session.Kept busy brings)
    (conduct : Task.Conduct δ busy brings) (reaches : session.Reaches δ session') :
    session'.Kept busy brings := by
  induction reaches with
  | refl => exact kept
  | tail _ goes ih => exact ih.goes conduct goes

/-- The books of a session that has not begun are in order. -/
theorem kept_start (distinct : (session.tasks.map Task.device).Nodup)
    (isBusy : ∀ task ∈ session.tasks, busy task)
    (fresh : ∀ task ∈ session.tasks, task.phase = .opening .fresh)
    (empty : session.arrived = []) (unfinished : session.finished = false) :
    session.Kept busy brings where
  distinct := distinct
  busy := isBusy
  once := by simp [empty]
  reported := by
    intro _ task member
    simp [empty, fresh task member]
  brought := by simp [empty]
  complete finished := by simp [unfinished] at finished

omit [Driver δ] in
/-- When a session is over there is one outcome for every device. -/
theorem Kept.outcome (kept : session.Kept busy brings) (finished : session.finished = true)
    {task : Task} (member : task ∈ session.tasks) :
    ∃ outcome, (task.device, outcome) ∈ session.collected ∧ brings task outcome := by
  rcases kept.complete finished with ⟨noMail, noneMissing⟩
  have isCollected : task.device ∈ session.collected.map Prod.fst := by
    by_contra missing
    have unreported := mem_unreported.2 ⟨List.mem_map.2 ⟨task, member, rfl⟩, missing⟩
    simp [noneMissing] at unreported
  rcases List.mem_map.1 isCollected with ⟨⟨device, outcome⟩, collected, sameDevice⟩
  rcases kept.brought _ (List.mem_append_left _ collected) with ⟨other, inTasks, same, brings⟩
  have isOther : other = task :=
    List.inj_on_of_nodup_map kept.distinct inTasks member (same.trans sameDevice)
  subst isOther
  exact ⟨outcome, same ▸ collected, brings⟩

/-! ### Answers -/

omit [Driver δ] in
/-- The answer holds the data that the outcome of a device makes up. -/
theorem data_answer (once : (session.collected.map Prod.fst).Nodup) {device : DeviceId}
    {outcome : Outcome} (collected : (device, outcome) ∈ session.collected) :
    session.answer.response.devices.get? device =
      session.operation.summarize outcome.findings :=
  SortedMap.get?_ofList_filterMap once
    (fun outcome => session.operation.summarize outcome.findings) collected

omit [Driver δ] in
/-- The answer holds the reports about a device as its outcome has them, in canonical order. -/
theorem errors_answer (once : (session.collected.map Prod.fst).Nodup)
    (own : ∀ entry ∈ session.collected, ∀ report ∈ entry.2.reports, report.device = entry.1)
    {device : DeviceId} {outcome : Outcome} (collected : (device, outcome) ∈ session.collected) :
    (session.answer.response.errors.filter fun report => report.device = device) =
      outcome.reports.mergeSort fun a b => (a.compare b).isLE := by
  refine (RoomResponse.filter_errors_sortErrors _ _).trans ?_
  congr 1
  rw [List.filter_flatMap, flatMap_of_mem once collected]
  · apply List.filter_eq_self.2
    intro report member
    simpa using own _ collected report member
  · intro other isOther differs
    apply List.filter_eq_nil_iff.2
    intro report member
    simpa [own other isOther report member] using differs

omit [Driver δ] in
/-- The answer says of a device what its outcome says. -/
theorem Kept.tells (kept : session.Kept busy brings)
    (own : ∀ {task outcome}, brings task outcome → ∀ report ∈ outcome.reports,
      report.device = task.device)
    {device : DeviceId} {outcome : Outcome} (collected : (device, outcome) ∈ session.collected) :
    session.answer.Tells device outcome := by
  have once : (session.collected.map Prod.fst).Nodup :=
    kept.once.sublist ((List.sublist_append_left session.collected session.mailbox).map _)
  refine Prod.ext (data_answer once collected) (errors_answer once ?_ collected)
  intro entry isEntry report isReport
  rcases kept.brought entry (List.mem_append_left _ isEntry) with ⟨task, -, same, brought⟩
  exact (own brought report isReport).trans same

end Session

end AvControl

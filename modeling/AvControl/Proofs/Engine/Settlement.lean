import AvControl.Proofs.Engine.Preparation
import AvControl.Proofs.Setting

/-!
# Every command is settled once

A task at work has made a deal of every command of its plan that it is done with, and the others are
still pending. When it reports, its outcome adds up from what the plan refused beforehand and one
deal for each command of the plan. The only other outcome says one thing about the whole device.
-/

namespace AvControl

/-- A command and what came of it. -/
structure Deal where
  command : Command
  result : Except FieldError command.Result

namespace Deal

/-- What a command has brought. -/
def finding? (deal : Deal) : Option Finding :=
  match deal.result with
  | .ok result => some ⟨deal.command, result⟩
  | .error _ => none

/-- The report of a command that failed. -/
def report? (deal : Deal) (device : DeviceId) : Option FieldReport :=
  match deal.result with
  | .ok _ => none
  | .error error => some (deal.command.report device error)

end Deal

/-- Why there is nothing to say about a device but one thing about the whole. -/
inductive Excuse
  | interrupted (interruption : Interruption)
  | unopened (error : DriverError)
  | crashed

namespace Excuse

def text : Excuse → String
  | interrupted interruption => interruption.message
  | unopened error => (FieldError.create error).message
  | crashed => Task.crashText

/-- Nobody is ever excused by silence. -/
theorem text_ne_silence (excuse : Excuse) : excuse.text ≠ Session.silenceText := by
  cases excuse with
  | interrupted interruption =>
      cases interruption <;> simp [text, Interruption.message, Session.silenceText]
  | crashed => simp [text, Task.crashText, Session.silenceText]
  | unopened error =>
      have differs : ∀ message : String,
          "unable to create device: " ++ message ≠ "device task failed to report" := by
        intro message same
        have first := congrArg (fun text => text.toList.head?) same
        rw [String.toList_append] at first
        simp at first
      exact differs error.message

end Excuse

/-- The commands of a row that are not settled. -/
def Lane.commands (lane : Lane) : List Command := (lane.call.map Call.command).toList ++ lane.rest

namespace Work

/-- The fields that work on a device reads or writes. -/
inductive Involves : Work → Field → Prop
  | readsPower : Involves read .poweredOn
  | readsRoutes (kind : SignalKind) : Involves read (.inputs kind)
  | readsBlank : Involves read .blanked
  | readsVolumes : Involves read .volumes
  | readsMutes : Involves read .mutes
  | applies {desired : DeviceState} {field : Field} {setting : Setting}
      (isWanted : desired.setting? field = some setting) : Involves (apply desired) field
  | probesHealth : Involves probeHealth .healthy
  | probesInfo : Involves probeInfo .info

variable {work : Work} {device : DeviceId} {config : DeviceConfig} {handle : Handle}

theorem involves_of_wanted {desired : DeviceState} {command : Command}
    (isWanted : command ∈ Plan.wanted desired) : (apply desired).Involves command.field := by
  rcases Plan.mem_wanted.1 isWanted with ⟨setting, -, isSet⟩
  exact .applies isSet

/-- The commands of a plan are about fields that the work involves. -/
theorem involves_of_planned {command : Command}
    (planned : command ∈ (work.plan device config handle).commands) :
    work.Involves command.field := by
  cases work with
  | apply desired =>
      rw [Plan.commands_plan] at planned
      exact involves_of_wanted (List.mem_of_mem_filter planned)
  | read =>
      simp only [plan, Plan.commands_offered] at planned
      rcases Plan.mem_readings_iff.1 (List.mem_of_mem_filter planned) with
        rfl | ⟨kind, rfl⟩ | rfl | rfl | rfl
      · exact .readsPower
      · exact .readsRoutes kind
      · exact .readsBlank
      · exact .readsVolumes
      · exact .readsMutes
  | probeHealth =>
      simp only [plan, Plan.commands_offered] at planned
      rw [List.mem_singleton.1 (List.mem_of_mem_filter planned)]
      exact .probesHealth
  | probeInfo =>
      simp only [plan, Plan.commands_offered] at planned
      rw [List.mem_singleton.1 (List.mem_of_mem_filter planned)]
      exact .probesInfo

/-- What is refused beforehand is a command about a field that the work involves. -/
theorem exists_of_refused {report : FieldReport}
    (refused : report ∈ (work.plan device config handle).refused) :
    ∃ (command : Command) (error : FieldError), work.Involves command.field ∧
      report = command.report device error := by
  cases work with
  | read | probeHealth | probeInfo => simp [plan, Plan.offered] at refused
  | apply desired =>
      rcases List.mem_filterMap.1 refused with ⟨command, isWanted, isRefused⟩
      rcases Option.map_eq_some_iff.1 isRefused with ⟨error, -, rfl⟩
      exact ⟨command, error, involves_of_wanted isWanted, rfl⟩

end Work

namespace Task

/-- The commands that are not settled. -/
def pending (lanes : List Lane) (later : List (List Command)) : List Command :=
  lanes.flatMap Lane.commands ++ later.flatten

/-- The deals of all commands of a plan but the pending ones have brought an outcome. -/
def Settles (task : Task) (plan : Plan) (pending : List Command) (outcome : Outcome) : Prop :=
  ∃ deals : List Deal,
    outcome.findings = deals.filterMap Deal.finding? ∧
    outcome.reports = plan.refused ++ deals.filterMap (fun deal => deal.report? task.device) ∧
    (deals.map Deal.command ++ pending).Perm plan.commands

variable {task : Task} {plan : Plan} {outcome : Outcome}

theorem Settles.perm {some others : List Command} (settles : task.Settles plan some outcome)
    (same : some.Perm others) : task.Settles plan others outcome := by
  rcases settles with ⟨deals, findings, reports, all⟩
  exact ⟨deals, findings, reports, (same.symm.append_left _).trans all⟩

theorem findings_note (deal : Deal) : (task.note outcome deal.command deal.result).findings =
    outcome.findings ++ [deal].filterMap Deal.finding? := by
  rcases deal with ⟨command, _ | _⟩ <;>
    simp [Task.note, Outcome.find, Outcome.report, Deal.finding?]

theorem reports_note (deal : Deal) : (task.note outcome deal.command deal.result).reports =
    outcome.reports ++ [deal].filterMap fun deal => deal.report? task.device := by
  rcases deal with ⟨command, _ | _⟩ <;>
    simp [Task.note, Outcome.find, Outcome.report, Deal.report?]

/-- A pending command is settled when it is noted what came of it. -/
theorem Settles.note {deal : Deal} {others : List Command}
    (settles : task.Settles plan (deal.command :: others) outcome) :
    task.Settles plan others (task.note outcome deal.command deal.result) := by
  rcases settles with ⟨deals, findings, reports, all⟩
  refine ⟨deals ++ [deal], ?_, ?_, by simpa using all⟩
  · rw [findings_note, findings, List.filterMap_append]
  · rw [reports_note, reports, List.filterMap_append, List.append_assoc]

variable {δ : Type} [Driver δ] {context : RequestContext}

/--
Every move settles a command, because the context has ended or because its call is over, or leaves
all of them pending.
-/
theorem Move.deals {bench bench' : Bench δ} (move : task.Move context bench bench') :
    ((pending bench.lanes bench.later).Perm (pending bench'.lanes bench'.later) ∧
      bench'.outcome = bench.outcome) ∨
    ∃ deal : Deal,
      (pending bench.lanes bench.later).Perm
        (deal.command :: pending bench'.lanes bench'.later) ∧
      bench'.outcome = task.note bench.outcome deal.command deal.result ∧
      (bench.world.interruption? context ≠ none ∨
        bench.world.finishCall task.config deal.command = (bench'.world, .done deal.result)) := by
  cases move with
  | @skip _ _ command _ interruption here ended =>
      refine Or.inr ⟨⟨command, .error (.context interruption)⟩, ?_, rfl, Or.inl (by simp [ended])⟩
      simp [here, pending, Lane.commands, List.perm_middle]
  | begin here =>
      refine Or.inl ⟨List.Perm.of_eq ?_, rfl⟩
      simp [here, pending, Lane.commands]
  | @breakOff _ _ call _ interruption here ended =>
      refine Or.inr ⟨⟨call.command, .error (World.interrupted call interruption)⟩, ?_, rfl,
        Or.inl (by simp [ended])⟩
      simp [here, pending, Lane.commands, List.perm_middle]
  | @finish _ _ call _ _ result here _ done =>
      refine Or.inr ⟨⟨call.command, result⟩, ?_, rfl, Or.inr done⟩
      simp [here, pending, Lane.commands, List.perm_middle]
  | leave here =>
      refine Or.inl ⟨List.Perm.of_eq ?_, rfl⟩
      simp [here, pending, Lane.commands]
  | proceed isOver =>
      refine Or.inl ⟨List.Perm.of_eq ?_, rfl⟩
      simp [isOver, pending, Bench.successors, Lane.commands, List.flatMap_map]

theorem Move.settles {bench bench' : Bench δ} (move : task.Move context bench bench')
    (settles : task.Settles plan (pending bench.lanes bench.later) bench.outcome) :
    task.Settles plan (pending bench'.lanes bench'.later) bench'.outcome := by
  rcases move.deals with ⟨same, sameOutcome⟩ | ⟨deal, same, noted, -⟩
  · rw [sameOutcome]
    exact settles.perm same
  · rw [noted]
    exact (settles.perm same).note

theorem Moves.settles {bench bench' : Bench δ} (moves : task.Moves context bench bench')
    (settles : task.Settles plan (pending bench.lanes bench.later) bench.outcome) :
    task.Settles plan (pending bench'.lanes bench'.later) bench'.outcome := by
  induction moves with
  | refl => exact settles
  | tail _ move ih => exact move.settles ih

/-- A task at work has settled the commands of its plan but for the pending ones. -/
def UnderWay (task : Task) : Prop :=
  ∀ lanes later outcome, task.phase = .working lanes later outcome → ∃ handle,
    task.Settles (task.work.plan task.device task.config handle) (pending lanes later) outcome

omit [Driver δ] in
theorem underWay_of_fresh (fresh : task.phase = .opening .fresh) : task.UnderWay := by
  intro lanes later outcome working
  rw [fresh] at working
  cases working

/-- An outcome excuses the device as a whole, or settles every command. -/
def Settled (task : Task) (outcome : Outcome) : Prop :=
  (∃ excuse : Excuse, outcome = .ofDevice task.device excuse.text) ∨ ∃ handle,
    task.Settles (task.work.plan task.device task.config handle) [] outcome

theorem Works.settles {bench : Bench δ} {handle : Handle}
    {result : World δ × Task × Option Outcome} (works : task.Works context bench result)
    (settles : task.Settles (task.work.plan task.device task.config handle)
      (pending bench.lanes bench.later) bench.outcome) :
    result.2.1.UnderWay ∧ ∀ outcome, result.2.2 = some outcome → task.Settled outcome := by
  cases works with
  | stays moves =>
      refine ⟨fun lanes later outcome working => ?_, by simp⟩
      cases working
      have settled := Moves.settles moves settles
      exact ⟨handle, settled⟩
  | reports moves isOver last =>
      refine ⟨by simp [UnderWay, Task.enter], fun outcome isOutcome => ?_⟩
      cases isOutcome
      have settled := Moves.settles moves settles
      rw [isOver, last] at settled
      exact Or.inr ⟨handle, settled⟩
  | crashes =>
      refine ⟨by simp [UnderWay, Task.enter], fun outcome isOutcome => ?_⟩
      cases isOutcome
      exact Or.inl ⟨.crashed, rfl⟩

theorem Polls.settles {world : World δ} {result : World δ × Task × Option Outcome}
    (polls : task.Polls context world result) (underWay : task.UnderWay) :
    result.2.1.UnderWay ∧ ∀ outcome, result.2.2 = some outcome → task.Settled outcome := by
  cases polls with
  | silent isOver => exact ⟨underWay, by simp⟩
  | @leavesOut interruption | @givesUp _ interruption =>
      refine ⟨by simp [UnderWay, Task.enter], fun outcome isOutcome => ?_⟩
      cases isOutcome
      exact Or.inl ⟨.interrupted interruption, rfl⟩
  | @fails _ error =>
      refine ⟨by simp [UnderWay, Task.enter], fun outcome isOutcome => ?_⟩
      cases isOutcome
      exact Or.inl ⟨.unopened error, rfl⟩
  | waits => exact ⟨by simp [UnderWay, Task.enter], by simp⟩
  | @begins _ handle _ opening live answer works =>
      have start : task.Settles (task.work.plan task.device task.config handle)
          (pending (task.workbench world handle).lanes (task.workbench world handle).later)
          (task.workbench world handle).outcome := by
        refine ⟨[], ?_⟩
        simp [workbench, Plan.commands, pending, Lane.commands]
      exact works.settles start
  | goesOn working works =>
      rcases underWay _ _ _ working with ⟨handle, settles⟩
      exact works.settles settles

/-- Tasks settle what they were told to do. -/
theorem settling : Conduct δ UnderWay Settled where
  polled context world underWay := ((poll_polls _ context world).settles underWay).1
  reports context world underWay := ((poll_polls _ context world).settles underWay).2 _
  givesUp _ interruption := Or.inl ⟨.interrupted interruption, rfl⟩
  enter _ settled := settled

/-- What a task can report: why it is excused, or that a command of its work has failed. -/
inductive MayReport (task : Task) : FieldReport → Prop
  | excuse (excuse : Excuse) :
    MayReport task { device := task.device, field := Field.device.path, error := excuse.text }
  | failure {command : Command} (involved : task.work.Involves command.field)
      (error : FieldError) : MayReport task (command.report task.device error)

theorem Settled.mayReport (settled : task.Settled outcome) {report : FieldReport}
    (member : report ∈ outcome.reports) : task.MayReport report := by
  rcases settled with ⟨excuse, rfl⟩ | ⟨handle, deals, -, reports, all⟩
  · obtain rfl := List.mem_singleton.1 member
    exact .excuse excuse
  · rw [reports] at member
    rcases List.mem_append.1 member with refused | failed
    · rcases Work.exists_of_refused refused with ⟨command, error, involved, rfl⟩
      exact .failure involved error
    · rcases List.mem_filterMap.1 failed with ⟨⟨command, result⟩, isDeal, isReport⟩
      cases result with
      | ok => cases isReport
      | error error =>
          obtain rfl := Option.some.inj isReport
          rw [List.append_nil] at all
          have planned := all.subset (List.mem_map_of_mem isDeal)
          exact .failure (Work.involves_of_planned planned) error

/-- All reports of a settled task are about its own device. -/
theorem Settled.own (settled : task.Settled outcome) {report : FieldReport}
    (member : report ∈ outcome.reports) : report.device = task.device := by
  cases settled.mayReport member <;> rfl

end Task

/-- The tasks of a request that passes the checks have settled nothing yet. -/
theorem World.Ready.underWay {δ : Type} {world : World δ} {request : RoomRequest}
    {session : Session} (ready : world.Ready request session) :
    ∀ task ∈ session.tasks, task.UnderWay :=
  fun _ member => Task.underWay_of_fresh (ready.fresh member)

end AvControl

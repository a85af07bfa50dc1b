import AvControl.Proofs.Engine.Accounting
import AvControl.Proofs.Engine.Reports

/-!
# What reports are about

A report names the field that it is about by its path and by nothing else. This is enough for
whoever reads an answer: the path belongs to one field only, and this is one that the request
involves for the device, or the device as a whole.
-/

namespace AvControl

/-- A report is about one field: the device as a whole, or a field that the work on it involves. -/
structure FieldReport.IsAbout (report : FieldReport) (work : Work) (field : Field) : Prop where
  involved : field = .device ∨ work.Involves field
  only : ∀ other : Field, report.field = other.path ↔ field = other

/-- Whatever a task reports is about one field. -/
theorem Task.MayReport.exists_isAbout {task : Task} {report : FieldReport}
    (mayReport : task.MayReport report) : ∃ field, report.IsAbout task.work field := by
  cases mayReport with
  | excuse excuse =>
      exact ⟨.device, Or.inl rfl, fun other => Field.path_injective.eq_iff (a := .device)⟩
  | @failure command involved error =>
      exact ⟨command.field, Or.inr involved, fun other => Field.path_injective.eq_iff⟩

namespace World

variable {δ : Type} [Driver δ]

/-- Every report of an answer comes from the task of a device that was to be contacted. -/
theorem Ready.exists_mayReport {world : World δ} {request : RoomRequest}
    {session last : Session} (ready : world.Ready request session)
    (reaches : session.Reaches δ last) {report : FieldReport}
    (member : report ∈ last.answer.response.errors) :
    ∃ task : Task, (task.device, task.work) ∈ request.operation.targets request.room ∧
      task.device = report.device ∧ task.MayReport report := by
  have kept : last.Kept Task.UnderWay Task.Settled :=
    (ready.kept ready.underWay).reaches Task.settling reaches
  rcases kept.exists_brought member with ⟨task, isTask, outcome, settled, isReport⟩
  rcases reaches.continues.symm.mem isTask with ⟨phase, wasTask⟩
  have isTarget := ready.targets wasTask
  rw [ready.operation] at isTarget
  exact ⟨task, isTarget, (settled.own isReport).symm, settled.mayReport isReport⟩

/--
Different fields have different paths, whatever names they are made of. Therefore every report of
an answer tells which field it is about, among those that the request involves for the device.
-/
theorem identifies_fields : (∀ a b : Field, a.path = b.path ↔ a = b) ∧
    ∀ {world world' : World δ} {requests : List RoomRequest} {patience : Option Nat}
      {answers : List (Except RequestError Answer)} {i : Nat} {request : RoomRequest}
      {answer : Answer}, world.serve requests patience = (world', some answers) →
      requests[i]? = some request → answers[i]? = some (.ok answer) →
      ∀ report ∈ answer.response.errors, ∃ work field,
        (report.device, work) ∈ request.operation.targets request.room ∧
          report.IsAbout work field := by
  constructor
  · exact fun a b => Field.path_injective.eq_iff
  · intro world world' requests patience answers i request answer served isRequest isAnswer report
      member
    have answered := getElem?_of_forall₂ (serve_answers served) isRequest isAnswer
    simp only [Answers] at answered
    split at answered
    · cases answered
    · rename_i session prepared
      rcases answered with ⟨last, ⟨reaches, -⟩, same⟩
      obtain rfl := Except.ok.inj same
      rcases (ready_of_prepare prepared).exists_mayReport reaches member with
        ⟨task, isTarget, sameDevice, mayReport⟩
      rcases mayReport.exists_isAbout with ⟨field, isAbout⟩
      exact ⟨task.work, field, sameDevice ▸ isTarget, isAbout⟩

/-- In the lab the display reports that it has no block to mute. -/
theorem identifies_fields_lab :
    let request : RoomRequest :=
      { operation := .set labStates, room := lab, context := { deadline := none, token := 0 } }
    ∃ world' response, (labWorld ({ model := .display } : VirtualDriver)).serve [request] none =
      (world', some [.ok { operation := .set labStates, response }]) ∧
    ∃ report ∈ response.errors, report.field = "mutes.mic" ∧ ∃ work field,
      (report.device, work) ∈ request.operation.targets request.room ∧
        report.IsAbout work field := by
  intro request
  have isOne : answersOne labStates
      ((labWorld ({ model := .display } : VirtualDriver)).serve [request] none).2 = true := by
    decide +kernel
  have told : ((labWorld ({ model := .display } : VirtualDriver)).serve [request] none).2.all
      (fun answers => answers.all fun answer => answer.toOption.all fun answer =>
        answer.response.errors.any fun report => report.field = "mutes.mic") = true := by
    decide +kernel
  rcases exists_of_answersOne isOne with ⟨world', response, served⟩
  simp only [served, Option.all_some, List.all_cons, List.all_nil, Except.toOption, Bool.and_true,
    List.any_eq_true, decide_eq_true_eq] at told
  rcases told with ⟨report, member, isMute⟩
  refine ⟨world', response, served, report, member, isMute, ?_⟩
  exact identifies_fields.2 (i := 0) served rfl rfl report member

end World

end AvControl

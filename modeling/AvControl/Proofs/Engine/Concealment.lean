import AvControl.Proofs.Engine.Service

/-!
# What sound processors list

A sound processor tells which blocks have come into being, and they do so when somebody reads them.
That is the one trace that a reading leaves. Here the list is concealed, in a finding as well as in
the answer that it ends up in, and everything else that is answered stays as it is.
-/

namespace AvControl

/-- What a device tells about itself, but for the blocks that a sound processor lists. -/
def DeviceInfo.conceal (info : DeviceInfo) : DeviceInfo :=
  match info with
  | .object members =>
    if info.member? "model" = some (.string "VDSP-8") then
      .object (members.filter fun member => member.1 ≠ "blocks")
    else info
  | _ => info

/-- Which blocks a sound processor lists makes no difference once the list is concealed. -/
theorem DeviceInfo.conceal_blocks (address : String) (blocks others : List String) :
    DeviceInfo.conceal (Json.ofMembers [("model", .string "VDSP-8"),
        ("address", .string address), ("blocks", Json.ofTexts blocks)]) =
      DeviceInfo.conceal (Json.ofMembers [("model", .string "VDSP-8"),
        ("address", .string address), ("blocks", Json.ofTexts others)]) := by
  have members : ∀ blocks : Json, Json.ofMembers [("model", .string "VDSP-8"),
      ("address", .string address), ("blocks", blocks)] =
        .object [("address", .string address), ("blocks", blocks),
          ("model", .string "VDSP-8")] := by
    have addressFirst : "address" < "model" := by decide
    have blocksFirst : "blocks" < "model" := by decide
    have notFirst : ¬"blocks" < "address" := by decide
    have differ : "blocks" ≠ "address" := by decide
    simp only [Json.ofMembers, SortedMap.ofList, SortedMap.insert, SortedMap.insertEntry,
      SortedMap.empty, List.foldl, addressFirst, blocksFirst, notFirst, differ, if_true, if_false,
      implies_true]
  rw [members, members]
  rfl

/-- Data of a response, but for the blocks that sound processors list. -/
def Operation.conceal : (operation : Operation) → operation.Data → operation.Data
  | .info, told => DeviceInfo.conceal told
  | .get, data | .set _, data | .health, data => data

/-- An answer, but for the blocks that sound processors list. -/
def Answer.conceal (answer : Answer) : Answer where
  operation := answer.operation
  response :=
    { answer.response with
      devices := answer.response.devices.mapValues fun _ => answer.operation.conceal }

theorem Answer.conceal_of_operation {answer : Answer} (notInfo : answer.operation ≠ .info) :
    answer.conceal = answer := by
  rcases answer with ⟨operation, devices, errors⟩
  have identity : ∀ data, operation.conceal data = data := by
    cases operation with
    | info => exact absurd rfl notInfo
    | get | set | health => exact fun _ => rfl
  have same : devices.mapValues (fun _ => operation.conceal) = devices := by
    refine SortedMap.ext_get? fun device => ?_
    rw [SortedMap.get?_mapValues, funext identity]
    exact Option.map_id'
  simp only [Answer.conceal, same]

namespace Finding

/-- A finding, but for the blocks that a sound processor lists. -/
def conceal : Finding → Finding
  | ⟨.info, info⟩ => ⟨.info, DeviceInfo.conceal info⟩
  | finding => finding

theorem learn_conceal (state : DeviceState) (finding : Finding) :
    state.learn finding.conceal = state.learn finding := by
  rcases finding with ⟨command, result⟩
  cases command <;> rfl

theorem summarize_conceal (operation : Operation) (findings : List Finding) :
    operation.summarize (findings.map conceal) =
      (operation.summarize findings).map operation.conceal := by
  cases operation with
  | get | set =>
      simp only [Operation.summarize, DeviceState.ofFindings?, List.foldl_map, learn_conceal]
      exact Option.map_id'.symm
  | health =>
      refine Eq.trans ?_ Option.map_id'.symm
      simp only [Operation.summarize, DeviceHealth.ofFindings?, List.findSome?_map]
      congr 1
      funext finding
      rcases finding with ⟨command, result⟩
      cases command <;> rfl
  | info =>
      simp only [Operation.summarize, DeviceInfo.ofFindings?, List.findSome?_map]
      induction findings with
      | nil => rfl
      | cons finding rest ih =>
          rcases finding with ⟨command, result⟩
          cases command with
          | info => rfl
          | _ => exact ih

end Finding

namespace Deal

/-- A deal, but for the blocks that a sound processor lists. -/
def conceal : Deal → Deal
  | ⟨.info, .ok info⟩ => ⟨.info, .ok (DeviceInfo.conceal info)⟩
  | deal => deal

@[simp]
theorem command_conceal (deal : Deal) : deal.conceal.command = deal.command := by
  rcases deal with ⟨command, _ | _⟩ <;> cases command <;> rfl

@[simp]
theorem finding?_conceal (deal : Deal) :
    deal.conceal.finding? = deal.finding?.map Finding.conceal := by
  rcases deal with ⟨command, _ | _⟩ <;> cases command <;> rfl

@[simp]
theorem report?_conceal (deal : Deal) (device : DeviceId) :
    deal.conceal.report? device = deal.report? device := by
  rcases deal with ⟨command, _ | _⟩ <;> cases command <;> rfl

end Deal

/-- An outcome, but for the blocks that a sound processor lists. -/
def Outcome.conceal (outcome : Outcome) : Outcome :=
  { outcome with findings := outcome.findings.map Finding.conceal }

theorem Task.MadeOf.conceal {task : Task} {plan : Plan} {deals : List Deal} {outcome : Outcome}
    (madeOf : task.MadeOf plan deals outcome) :
    task.MadeOf plan (deals.map Deal.conceal) outcome.conceal := by
  refine ⟨?_, madeOf.reports.trans ?_⟩
  · simp [Outcome.conceal, madeOf.findings, List.filterMap_map, List.map_filterMap]
  · simp [List.filterMap_map]

theorem Answer.Tells.conceal {answer : Answer} {device : DeviceId} {outcome : Outcome}
    (tells : answer.Tells device outcome) : answer.conceal.Tells device outcome.conceal := by
  rcases Prod.mk.inj tells with ⟨data, reports⟩
  refine Prod.ext ?_ reports
  refine (SortedMap.get?_mapValues _ _ _).trans ?_
  rw [data]
  exact (Finding.summarize_conceal answer.operation outcome.findings).symm

/-- A concealed answer says of every device what the concealed outcome of its task says. -/
theorem Answer.Gathers.conceal {answer : Answer} {session : Session}
    {brings : Task → Outcome → Prop} (gathers : answer.Gathers session brings) :
    answer.conceal.Gathers session fun task outcome =>
      ∃ plain, brings task plain ∧ outcome = plain.conceal where
  operation := gathers.operation
  sorted := gathers.sorted
  tasks task isTask := by
    rcases gathers.tasks task isTask with ⟨outcome, brings, tells⟩
    exact ⟨outcome.conceal, ⟨outcome, brings, rfl⟩, tells.conceal⟩
  others device foreign := (gathers.others device foreign).conceal

end AvControl

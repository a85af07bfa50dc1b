import AvControl.Proofs.Engine.Accounting
import AvControl.Proofs.Findings

/-!
# Outcomes that say the same

What a response says of a device does not depend on the order in which the commands of its plan were
settled. No field is set twice and no field is reported twice, so the findings make up the same data
and the reports have one canonical order. A response is what it says of all devices together.
-/

namespace AvControl

/-! ### Plans -/

namespace Plan

theorem apart_wanted (desired : DeviceState) : (wanted desired).Pairwise Command.Apart := by
  have distinct := List.pairwise_map.1 (distinct_wanted desired)
  refine distinct.imp_of_mem fun {a b} isA isB differ field writes writes' => ?_
  rcases mem_wanted.1 isA with ⟨_, sets, -⟩
  rcases mem_wanted.1 isB with ⟨_, sets', -⟩
  exact differ ((Command.eq_of_writes (by simp [sets]) writes).symm.trans
    (Command.eq_of_writes (by simp [sets']) writes'))

theorem apart_readings (config : DeviceConfig) : (readings config).Pairwise Command.Apart := by
  simp [readings, SignalKind.all, Command.Apart, Command.Writes]

theorem distinct_readings (config : DeviceConfig) :
    ((readings config).map fun command => command.field.path).Nodup := by
  have closed : (readings config).map (fun command => command.field.path) =
      ["poweredOn", "input.audioVideo", "input.audio", "input.video", "blanked", "volumes",
        "mutes"] := rfl
  rw [closed]
  decide

end Plan

namespace Work

variable (work : Work) (device : DeviceId) (config : DeviceConfig) (handle : Handle)

/-- No two commands of a plan write the same field. -/
theorem apart_commands : (work.plan device config handle).commands.Pairwise Command.Apart := by
  cases work with
  | apply desired =>
      rw [Plan.commands_plan]
      exact (Plan.apart_wanted desired).filter _
  | read =>
      simp only [plan, Plan.commands_offered]
      exact (Plan.apart_readings config).filter _
  | probeHealth | probeInfo =>
      simp only [plan, Plan.commands_offered]
      exact (List.pairwise_singleton _ _).filter _

/-- Reading and probing never refuse anything, and no field is read twice. -/
theorem distinct_paths (reads : ∀ desired, work ≠ .apply desired) :
    (work.plan device config handle).refused = [] ∧
      ((work.plan device config handle).commands.map fun command => command.field.path).Nodup := by
  cases work with
  | apply desired => exact absurd rfl (reads desired)
  | read =>
      simp only [plan, Plan.commands_offered]
      exact ⟨rfl, (Plan.distinct_readings config).sublist (List.filter_sublist.map _)⟩
  | probeHealth | probeInfo =>
      simp only [plan, Plan.commands_offered]
      exact ⟨rfl, (List.nodup_singleton _).sublist (List.filter_sublist.map _)⟩

/-- Reading and probing set nothing. -/
theorem setting?_of_reads {work : Work} (reads : ∀ desired, work ≠ .apply desired)
    {device : DeviceId} {config : DeviceConfig} {handle : Handle} {command : Command}
    (member : command ∈ (work.plan device config handle).commands) : command.setting? = none := by
  cases work with
  | apply desired => exact absurd rfl (reads desired)
  | read =>
      simp only [plan, Plan.commands_offered] at member
      rcases Plan.mem_readings_iff.1 (List.mem_of_mem_filter member) with
        rfl | ⟨kind, rfl⟩ | rfl | rfl | rfl
      all_goals rfl
  | probeHealth | probeInfo =>
      simp only [plan, Plan.commands_offered] at member
      rw [List.mem_singleton.1 (List.mem_of_mem_filter member)]
      rfl

/-- A probe is one command at most. -/
theorem length_probe (probes : work = .probeHealth ∨ work = .probeInfo) :
    (work.plan device config handle).commands.length ≤ 1 := by
  rcases probes with rfl | rfl
  all_goals
    simp only [plan, Plan.commands_offered]
    exact List.length_filter_le _ _

end Work

/-! ### Outcomes -/

namespace Task

variable {task : Task} {plan : Plan} {outcome : Outcome}

/-- Every command of a plan has brought a finding or has failed. -/
theorem Settles.perm_commands (settles : task.Settles plan [] outcome) :
    ∃ failures : List (Command × FieldError),
      outcome.reports = plan.refused ++
        failures.map (fun failure => failure.1.report task.device failure.2) ∧
      (failures.map Prod.fst ++ outcome.findings.map Finding.command).Perm plan.commands := by
  rcases settles with ⟨deals, findings, reports, all⟩
  refine ⟨deals.filterMap Deal.failure?, ?_, ?_⟩
  · simp only [reports, List.map_filterMap, Deal.report?_eq]
  · rw [List.append_nil] at all
    rw [findings]
    exact (Deal.perm_commands deals).trans all

theorem Settles.apart (settles : task.Settles plan [] outcome)
    (apart : plan.commands.Pairwise Command.Apart) :
    (outcome.findings.map Finding.command).Pairwise Command.Apart := by
  rcases settles.perm_commands with ⟨failures, -, all⟩
  exact (List.pairwise_append.1 (all.symm.pairwise apart Command.Apart.symm)).2.1

theorem Settled.apart (settled : task.Settled outcome) :
    (outcome.findings.map Finding.command).Pairwise Command.Apart := by
  rcases settled with ⟨excuse, rfl⟩ | ⟨handle, settles⟩
  · exact .nil
  · exact settles.apart (task.work.apart_commands task.device task.config handle)

/-- No field is reported twice. -/
theorem Settled.distinct_reports (settled : task.Settled outcome) :
    (outcome.reports.map FieldReport.field).Nodup := by
  by_cases applies : ∃ desired, task.work = .apply desired
  · rcases applies with ⟨desired, applies⟩
    rcases settled.split applies with ⟨text, rfl⟩ | ⟨failures, reports, all⟩
    · exact List.nodup_singleton _
    · have dealt := Dealt.of_perm all
      rw [reports, List.map_map]
      refine List.pairwise_map.2 ((List.pairwise_map.1 dealt.distinctFailures).imp ?_)
      exact fun differ same => differ (Field.path_injective same)
  · rcases settled with ⟨excuse, rfl⟩ | ⟨handle, settles⟩
    · exact List.nodup_singleton _
    · rcases settles.perm_commands with ⟨failures, reports, all⟩
      rcases task.work.distinct_paths task.device task.config handle
        (fun desired same => applies ⟨desired, same⟩) with ⟨nothing, distinct⟩
      rw [reports, nothing, List.nil_append, List.map_map]
      have paths := (all.map fun command => command.field.path).nodup_iff.2 distinct
      rw [List.map_append, List.map_map] at paths
      exact (List.nodup_append.1 paths).1

end Task

theorem eq_of_perm_of_length {α : Type} {as bs : List α} (same : as.Perm bs)
    (short : as.length ≤ 1) : as = bs := by
  rcases as with _ | ⟨a, _ | ⟨b, rest⟩⟩
  · exact (List.nil_perm.1 same).symm
  · exact List.singleton_perm.1 same
  · simp at short

/-- The findings of a settled task make up the same data in any order. -/
theorem Operation.summarize_perm {operation : Operation} {room : RoomConfig} {task : Task}
    {handle : Handle} {outcome : Outcome} {findings : List Finding}
    (isTarget : (task.device, task.work) ∈ operation.targets room)
    (settles : task.Settles (task.work.plan task.device task.config handle) [] outcome)
    (same : outcome.findings.Perm findings) :
    operation.summarize outcome.findings = operation.summarize findings := by
  have apart := settles.apart (task.work.apart_commands task.device task.config handle)
  rcases settles.perm_commands with ⟨failures, -, all⟩
  have short : (task.work = .probeHealth ∨ task.work = .probeInfo) →
      outcome.findings.length ≤ 1 := by
    intro probes
    have atMost := task.work.length_probe task.device task.config handle probes
    rw [← all.length_eq, List.length_append, List.length_map, List.length_map] at atMost
    omega
  have everywhere : ∀ work, (task.device, task.work) ∈ everywhere room work → task.work = work := by
    intro work member
    rcases List.mem_map.1 member with ⟨_, -, same⟩
    exact (Prod.mk.inj same).2.symm
  cases operation with
  | get | set => exact DeviceState.ofFindings?_perm same apart
  | health => rw [eq_of_perm_of_length same (short (Or.inl (everywhere _ isTarget)))]
  | info => rw [eq_of_perm_of_length same (short (Or.inr (everywhere _ isTarget)))]

/-! ### Answers -/

/-- Two outcomes that say the same to a request, perhaps in another order. -/
structure Outcome.Accords (operation : Operation) (outcome other : Outcome) : Prop where
  data : operation.summarize outcome.findings = operation.summarize other.findings
  reports : outcome.reports.Perm other.reports
  distinct : (outcome.reports.map FieldReport.field).Nodup

/-- An outcome adds up from what a plan refused beforehand and from some deals. -/
structure Task.MadeOf (task : Task) (plan : Plan) (deals : List Deal) (outcome : Outcome) :
    Prop where
  findings : outcome.findings = deals.filterMap Deal.finding?
  reports : outcome.reports =
    plan.refused ++ deals.filterMap fun deal => deal.report? task.device

/-- Outcomes that are made of the same deals of a whole plan say the same. -/
theorem Task.MadeOf.accords {operation : Operation} {room : RoomConfig} {task : Task}
    {handle : Handle} {deals deals' : List Deal} {outcome outcome' : Outcome}
    (isTarget : (task.device, task.work) ∈ operation.targets room)
    (madeOf : task.MadeOf (task.work.plan task.device task.config handle) deals outcome)
    (madeOf' : task.MadeOf (task.work.plan task.device task.config handle) deals' outcome')
    (all : (deals.map Deal.command).Perm
      (task.work.plan task.device task.config handle).commands)
    (same : deals.Perm deals') : outcome.Accords operation outcome' := by
  have settles : task.Settles (task.work.plan task.device task.config handle) [] outcome :=
    ⟨deals, madeOf.findings, madeOf.reports, by simpa using all⟩
  refine ⟨Operation.summarize_perm isTarget settles ?_, ?_,
    Task.Settled.distinct_reports (Or.inr ⟨handle, settles⟩)⟩
  · rw [madeOf.findings, madeOf'.findings]
    exact same.filterMap _
  · rw [madeOf.reports, madeOf'.reports]
    exact (same.filterMap _).append_left _

/-- Two answers are the same when they say the same of all devices. -/
theorem Answer.eq_of_accords {answer other : Answer}
    (sameOperation : answer.operation = other.operation)
    (sorted : answer.response.errors.Pairwise fun a b => (a.compare b).isLE = true)
    (sorted' : other.response.errors.Pairwise fun a b => (a.compare b).isLE = true)
    (accords : ∀ device, ∃ outcome outcome', answer.Tells device outcome ∧
      other.Tells device outcome' ∧ outcome.Accords answer.operation outcome') :
    answer = other := by
  rcases answer with ⟨operation, response⟩
  rcases other with ⟨_, response'⟩
  obtain rfl : operation = _ := sameOperation
  have data : response.devices = response'.devices := by
    apply SortedMap.ext_get?
    intro device
    rcases accords device with ⟨outcome, outcome', tells, tells', accords⟩
    exact (congrArg Prod.fst tells).trans (accords.data.trans (congrArg Prod.fst tells').symm)
  have errors : response.errors = response'.errors := by
    refine FieldReport.eq_of_filter_eq sorted sorted' (fun device => ?_) fun device => ?_
    all_goals
      rcases accords device with ⟨outcome, outcome', tells, tells', accords⟩
      have sort := congrArg Prod.snd tells
      simp only [RoomResponse.about] at sort
      rw [sort]
    · have sort' := congrArg Prod.snd tells'
      simp only [RoomResponse.about] at sort'
      rw [sort', FieldReport.mergeSort_eq accords.reports accords.distinct]
    · exact ((List.mergeSort_perm _ _).map _).nodup_iff.2 accords.distinct
  rcases response with ⟨devices, errors⟩
  rcases response' with ⟨devices', errors'⟩
  obtain rfl : devices = devices' := data
  obtain rfl : _ = errors' := errors
  rfl

end AvControl

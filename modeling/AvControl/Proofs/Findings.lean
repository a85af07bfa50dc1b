import AvControl.Engine.Outcome
import AvControl.Proofs.Setting

/-!
# Findings in any order

Every finding makes some settings, and a state is what all findings have set together. As long as no
field is set twice, it does not matter in which order the findings came.
-/

namespace AvControl

/-- A setting of one atomic field. -/
inductive Assignment
  | power (on : Bool)
  | blank (on : Bool)
  | route (kind : SignalKind) (output input : String)
  | level (block : String) (value : Int32)
  | mute (block : String) (muted : Bool)

namespace Assignment

def field : Assignment → Field
  | power _ => .poweredOn
  | blank _ => .blanked
  | route kind output _ => .input output kind
  | level block _ => .volume block
  | mute block _ => .mute block

end Assignment

/-- The state with one field set. -/
def DeviceState.assign (state : DeviceState) : Assignment → DeviceState
  | .power on => { state with poweredOn := some on }
  | .blank on => { state with blanked := some on }
  | .route kind output input => state.setInput output kind input
  | .level block value => state.setVolume block value
  | .mute block muted => state.setMute block muted

/-- What a finding sets. -/
def Finding.assignments : Finding → List Assignment
  | ⟨.getPower, on⟩ | ⟨.setPower on, _⟩ => [.power on]
  | ⟨.getInputs kind, routes⟩ => routes.entries.map fun route => .route kind route.1 route.2
  | ⟨.setInput kind output input, _⟩ => [.route kind output input]
  | ⟨.getBlank, on⟩ | ⟨.setBlank on, _⟩ => [.blank on]
  | ⟨.getVolumes _, levels⟩ => levels.entries.map fun level => .level level.1 level.2
  | ⟨.setVolume block level, _⟩ => [.level block level]
  | ⟨.getMutes _, flags⟩ => flags.entries.map fun flag => .mute flag.1 flag.2
  | ⟨.setMute block muted, _⟩ => [.mute block muted]
  | ⟨.healthy, _⟩ | ⟨.info, _⟩ => []

namespace DeviceState

theorem learn_eq (state : DeviceState) (finding : Finding) :
    state.learn finding = finding.assignments.foldl assign state := by
  rcases finding with ⟨command, result⟩
  cases command <;> simp only [learn, Finding.assignments, List.foldl_map] <;> rfl

theorem foldl_learn_eq (findings : List Finding) : ∀ state : DeviceState,
    findings.foldl learn state =
      (findings.flatMap Finding.assignments).foldl assign state := by
  induction findings with
  | nil => exact fun _ => rfl
  | cons head rest ih =>
      intro state
      rw [List.foldl_cons, ih, List.flatMap_cons, List.foldl_append, learn_eq]

theorem Feed.setSlot_comm (feed : Feed) {kind kind' : SignalKind} (differ : kind ≠ kind')
    (input input' : String) :
    (feed.setSlot kind input).setSlot kind' input' =
      (feed.setSlot kind' input').setSlot kind input := by
  cases kind <;> cases kind' <;> first | rfl | exact absurd rfl differ

theorem setInput_comm (state : DeviceState) {output output' : String} {kind kind' : SignalKind}
    (differ : Field.input output kind ≠ Field.input output' kind') (input input' : String) :
    (state.setInput output kind input).setInput output' kind' input' =
      (state.setInput output' kind' input').setInput output kind input := by
  simp only [setInput, Option.getD_some, DeviceState.mk.injEq, Option.some.injEq, true_and,
    and_true]
  apply SortedMap.ext_get?
  intro other
  by_cases same : output = output'
  · subst same
    have kinds : kind ≠ kind' := fun same => differ (same ▸ rfl)
    simp only [SortedMap.get?_insert, if_true, Option.getD_some]
    split
    · rw [Feed.setSlot_comm _ kinds]
    · rfl
  · simp only [SortedMap.get?_insert, if_neg same, if_neg (Ne.symm same)]
    split
    · rename_i here
      rw [here, if_neg (Ne.symm same)]
    · rfl

theorem insert_comm {α : Type} (map : SortedMap String α) {key other : String}
    (differ : key ≠ other) (value value' : α) :
    (map.insert key value).insert other value' = (map.insert other value').insert key value := by
  apply SortedMap.ext_get?
  intro third
  simp only [SortedMap.get?_insert]
  split
  · rename_i same
    rw [if_neg (same ▸ differ.symm)]
  · rfl

/-- Different fields can be set in any order. -/
theorem assign_comm (state : DeviceState) {a b : Assignment} (differ : a.field ≠ b.field) :
    (state.assign a).assign b = (state.assign b).assign a := by
  cases a with
  | power => cases b <;> first | rfl | exact absurd rfl differ
  | blank => cases b <;> first | rfl | exact absurd rfl differ
  | route kind output input =>
      cases b with
      | route => exact setInput_comm state differ _ _
      | power | blank | level | mute => rfl
  | level block value =>
      cases b with
      | level block' =>
          have blocks : block ≠ block' := fun same => differ (congrArg Field.volume same)
          simp only [assign, setVolume, Option.getD_some, insert_comm _ blocks]
      | power | blank | route | mute => rfl
  | mute block muted =>
      cases b with
      | mute block' =>
          have blocks : block ≠ block' := fun same => differ (congrArg Field.mute same)
          simp only [assign, setMute, Option.getD_some, insert_comm _ blocks]
      | power | blank | route | level => rfl

theorem foldl_assign_perm {assignments others : List Assignment} (same : assignments.Perm others)
    (distinct : (assignments.map Assignment.field).Nodup) (state : DeviceState) :
    assignments.foldl assign state = others.foldl assign state := by
  refine same.foldl_eq' (fun a isA b isB state => ?_) state
  by_cases sameField : a.field = b.field
  · rw [List.inj_on_of_nodup_map distinct isA isB sameField]
  · exact assign_comm state sameField

end DeviceState

namespace Command

/-- The fields that a finding of a command may set. -/
def Writes : Command → Field → Prop
  | getPower, field | setPower _, field => field = .poweredOn
  | getInputs kind, field => ∃ output, field = .input output kind
  | setInput kind output _, field => field = .input output kind
  | getBlank, field | setBlank _, field => field = .blanked
  | getVolumes _, field => ∃ block, field = .volume block
  | setVolume block _, field => field = .volume block
  | getMutes _, field => ∃ block, field = .mute block
  | setMute block _, field => field = .mute block
  | healthy, _ | info, _ => False

/-- Two commands whose findings set no field in common. -/
def Apart (a b : Command) : Prop := ∀ field, a.Writes field → ¬b.Writes field

theorem Apart.symm {a b : Command} (apart : a.Apart b) : b.Apart a :=
  fun field writes writes' => apart field writes' writes

/-- Commands that set an atomic field write this field. -/
theorem eq_of_writes {command : Command} (sets : command.setting?.isSome = true) {field : Field}
    (writes : command.Writes field) : field = command.field := by
  cases command with
  | getPower | getInputs | getBlank | getVolumes | getMutes | healthy | info => cases sets
  | setPower | setInput | setBlank | setVolume | setMute => exact writes

end Command

namespace Finding

theorem writes_of_mem {finding : Finding} {assignment : Assignment}
    (member : assignment ∈ finding.assignments) : finding.command.Writes assignment.field := by
  rcases finding with ⟨command, result⟩
  cases command with
  | healthy | info => cases member
  | getPower | setPower | setInput | getBlank | setBlank | setVolume | setMute =>
      obtain rfl := List.mem_singleton.1 member
      rfl
  | getInputs | getVolumes | getMutes =>
      rcases List.mem_map.1 member with ⟨entry, -, rfl⟩
      exact ⟨entry.1, rfl⟩

theorem distinct_assignments (finding : Finding) :
    finding.assignments.Pairwise fun a b => a.field ≠ b.field := by
  rcases finding with ⟨command, result⟩
  cases command with
  | healthy | info => exact .nil
  | getPower | setPower | setInput | getBlank | setBlank | setVolume | setMute =>
      exact List.pairwise_singleton _ _
  | getInputs | getVolumes | getMutes =>
      refine List.pairwise_map.2 (result.sorted.imp ?_)
      intro a b less same
      refine SortedMap.ne_of_lt less ?_
      simpa [Assignment.field] using same

end Finding

namespace DeviceState

/-- Findings of commands that set no field in common set no field twice. -/
theorem distinct_of_apart {findings : List Finding}
    (apart : (findings.map Finding.command).Pairwise Command.Apart) :
    ((findings.flatMap Finding.assignments).map Assignment.field).Nodup := by
  refine List.pairwise_map.2 (List.pairwise_flatMap.2
    ⟨fun finding _ => finding.distinct_assignments, (List.pairwise_map.1 apart).imp ?_⟩)
  intro a b apart x isX y isY sameField
  exact apart _ (Finding.writes_of_mem isX) (sameField ▸ Finding.writes_of_mem isY)

/-- Findings of commands that set no field in common make up the same state in any order. -/
theorem foldl_learn_perm {findings others : List Finding} (same : findings.Perm others)
    (apart : (findings.map Finding.command).Pairwise Command.Apart) (state : DeviceState) :
    findings.foldl learn state = others.foldl learn state := by
  simp only [foldl_learn_eq,
    foldl_assign_perm (same.flatMap_right Finding.assignments) (distinct_of_apart apart)]

theorem ofFindings?_perm {findings others : List Finding} (same : findings.Perm others)
    (apart : (findings.map Finding.command).Pairwise Command.Apart) :
    ofFindings? findings = ofFindings? others := by
  simp only [ofFindings?, foldl_learn_perm same apart]

end DeviceState

end AvControl

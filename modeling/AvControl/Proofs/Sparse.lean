import AvControl.Proofs.Engine.Success
import AvControl.Proofs.Lists
import Mathlib.Data.List.Induction

/-!
# The algebra of sparse states

A state is changed one atomic field at a time, whatever it was before: whether a map is there, and
whether an output is named in it, is left as it was found. So the laws of assignments hold of states
themselves and not only of their settings: assignments to different fields can be exchanged, and an
assignment is lost when its field is assigned again. What a run of assignments has left in a field
is what the last one of them put there, or what was there before.

A state that is built up from nothing has no empty maps. It is known by its settings, and therefore
replaying what another state holds, in any order, gives this state without its empty parts.
-/

namespace AvControl

namespace Assignment

/-- Whether this is a route of one kind. -/
def isRoute (kind : SignalKind) : Assignment → Bool
  | route other _ _ => other = kind
  | _ => false

theorem isRoute_of_field {assignment : Assignment} {output : String} {kind : SignalKind}
    (isField : assignment.field = .input output kind) : assignment.isRoute kind = true := by
  cases assignment with
  | route other =>
      obtain ⟨-, rfl⟩ := Field.input.inj isField
      exact decide_eq_true rfl
  | power | blank | level | mute => cases isField

end Assignment

namespace DeviceState

variable {state : DeviceState}

/-! ### Assigning a field again -/

theorem insert_insert {α : Type} (map : SortedMap String α) (key : String) (value value' : α) :
    (map.insert key value).insert key value' = map.insert key value' := by
  apply SortedMap.ext_get?
  intro other
  simp only [SortedMap.get?_insert]
  split <;> rfl

theorem setSlot_setSlot (feed : Feed) (kind : SignalKind) (input input' : String) :
    (feed.setSlot kind input).setSlot kind input' = feed.setSlot kind input' := by
  cases kind <;> rfl

/-- What a field is assigned last is all that counts. -/
theorem assign_assign (state : DeviceState) {a b : Assignment} (same : a.field = b.field) :
    (state.assign a).assign b = state.assign b := by
  cases a with
  | power => cases b <;> first | rfl | cases same
  | blank => cases b <;> first | rfl | cases same
  | route kind output input =>
      cases b with
      | route =>
          obtain ⟨rfl, rfl⟩ := Field.input.inj same
          simp only [assign, setInput, Option.getD_some, SortedMap.get?_insert, if_true,
            setSlot_setSlot, insert_insert]
      | power | blank | level | mute => cases same
  | level block value =>
      cases b with
      | level =>
          obtain rfl := Field.volume.inj same
          simp only [assign, setVolume, Option.getD_some, insert_insert]
      | power | blank | route | mute => cases same
  | mute block muted =>
      cases b with
      | mute =>
          obtain rfl := Field.mute.inj same
          simp only [assign, setMute, Option.getD_some, insert_insert]
      | power | blank | route | level => cases same

/-- An assignment is lost when its field is assigned again, whatever is assigned in between. -/
theorem foldl_assign_lost {a b : Assignment} (same : a.field = b.field)
    (between after : List Assignment) (state : DeviceState) :
    (a :: (between ++ b :: after)).foldl assign state =
      (between ++ b :: after).foldl assign state := by
  induction between generalizing state with
  | nil => simp only [List.nil_append, List.foldl_cons, assign_assign state same]
  | cons c rest ih =>
      by_cases again : a.field = c.field
      · simp only [List.cons_append, List.foldl_cons, assign_assign state again]
      · simp only [List.cons_append, List.foldl_cons, assign_comm state again]
        exact ih (state.assign c)

/-! ### What a run of assignments leaves -/

theorem setting?_assign (state : DeviceState) (assignment : Assignment) (field : Field) :
    (state.assign assignment).setting? field =
      if field = assignment.field then some assignment.setting else state.setting? field := by
  rw [← learn_finding]
  cases assignment <;> exact setting?_learn state rfl _ field

/-- What a run of assignments has put into a field last. -/
def LastPut (steps : List Assignment) (field : Field) (setting : Setting) : Prop :=
  ∃ before last after, steps = before ++ last :: after ∧ last.field = field ∧
    last.setting = setting ∧ ∀ step ∈ after, step.field ≠ field

theorem lastPut_concat {steps : List Assignment} {step : Assignment} {field : Field}
    {setting : Setting} : LastPut (steps ++ [step]) field setting ↔
      if field = step.field then step.setting = setting else LastPut steps field setting := by
  simp only [LastPut, concat_eq_append_cons_iff]
  constructor
  · rintro ⟨before, last, after, ⟨rfl, rfl, rfl⟩ | ⟨between, rfl, rfl⟩, rfl, isSetting, others⟩
    · rwa [if_pos rfl]
    · rcases List.forall_mem_append.1 others with ⟨earlier, final⟩
      rw [if_neg (Ne.symm (final step (by simp)))]
      exact ⟨before, last, between, rfl, rfl, isSetting, earlier⟩
  · intro put
    split at put
    · rename_i here
      exact ⟨steps, step, [], Or.inl ⟨rfl, rfl, rfl⟩, here.symm, put, by simp⟩
    · rename_i elsewhere
      rcases put with ⟨before, last, after, rfl, isField, isSetting, others⟩
      refine ⟨before, last, _, Or.inr ⟨after, rfl, rfl⟩, isField, isSetting, ?_⟩
      rw [List.forall_mem_append, List.forall_mem_singleton]
      exact ⟨others, Ne.symm elsewhere⟩

/-- A field holds what was put into it last, or what it held before if nothing was put into it. -/
theorem setting?_run {steps : List Assignment} {field : Field} {setting : Setting} :
    (steps.foldl assign state).setting? field = some setting ↔ LastPut steps field setting ∨
      (∀ step ∈ steps, step.field ≠ field) ∧ state.setting? field = some setting := by
  induction steps using List.reverseRecOn with
  | nil => simp [LastPut]
  | append_singleton steps step ih =>
      rw [List.foldl_append, List.foldl_cons, List.foldl_nil, setting?_assign, lastPut_concat]
      split
      · rename_i here
        rw [Option.some.injEq, or_iff_left]
        rintro ⟨never, -⟩
        exact never step (by simp) here.symm
      · rename_i elsewhere
        rw [ih, List.forall_mem_append, List.forall_mem_singleton,
          and_iff_left (Ne.symm elsewhere)]

/-- Assignments to other fields can be left out. -/
theorem setting?_run_filter {keep : Assignment → Bool} {steps : List Assignment} {field : Field}
    (kept : ∀ step ∈ steps, step.field = field → keep step = true) (state : DeviceState) :
    ((steps.filter keep).foldl assign state).setting? field =
      (steps.foldl assign state).setting? field := by
  induction steps using List.reverseRecOn with
  | nil => rfl
  | append_singleton steps step ih =>
      rcases List.forall_mem_append.1 kept with ⟨keptFront, keptLast⟩
      rw [List.filter_append, List.foldl_append, List.foldl_append, List.foldl_cons, List.foldl_nil,
        setting?_assign, ← ih keptFront]
      cases isKept : keep step with
      | true =>
          rw [List.filter_cons_of_pos isKept, List.filter_nil, List.foldl_cons, List.foldl_nil,
            setting?_assign]
      | false =>
          have elsewhere : field ≠ step.field := by
            rintro rfl
            rw [keptLast step (by simp) rfl] at isKept
            cases isKept
          rw [List.filter_cons_of_neg (by simp [isKept]), List.filter_nil, List.foldl_nil,
            if_neg elsewhere]

/-! ### Routes -/

/-- Routes of one kind are the same when their settings are. -/
theorem routes_congr {state other : DeviceState} {kind : SignalKind}
    (same : ∀ output, state.setting? (.input output kind) = other.setting? (.input output kind)) :
    state.routes kind = other.routes kind := by
  refine SortedMap.eq_of_mem_iff (state.pairwise_routes kind) (other.pairwise_routes kind)
    fun route => ?_
  rw [show route = (route.1, route.2) from rfl, mem_routes, mem_routes, same]

/-- An output has a route of a kind when its feed has something for this kind. -/
theorem mem_routes_iff_feed {kind : SignalKind} {output input : String} :
    (output, input) ∈ state.routes kind ↔ ∃ inputs feed, state.inputs = some inputs ∧
      inputs.get? output = some feed ∧ feed.slot kind = some input := by
  simp only [mem_routes, setting?, Option.map_eq_some_iff, Setting.source.injEq, exists_eq_right,
    Option.bind_eq_some_iff]
  constructor
  · rintro ⟨feed, ⟨inputs, isInputs, isFeed⟩, isSlot⟩
    exact ⟨inputs, feed, isInputs, isFeed, isSlot⟩
  · rintro ⟨inputs, feed, isInputs, isFeed, isSlot⟩
    exact ⟨feed, ⟨inputs, isInputs, isFeed⟩, isSlot⟩

/-! ### Building a state up again -/

/-- Everything that the maps of a state hold: its routes of every kind, its levels and its mute
flags. -/
def contents (state : DeviceState) : List Assignment :=
  (SignalKind.all.flatMap fun kind => (state.routes kind).map fun route =>
      .route kind route.1 route.2) ++
    ((entriesOf state.volumes).map (fun entry => .level entry.1 entry.2) ++
      (entriesOf state.mutes).map fun entry => .mute entry.1 entry.2)

/-- The contents of a state are among its settings. -/
theorem sublist_settings (state : DeviceState) : state.contents.Sublist state.settings := by
  refine List.Sublist.append (List.sublist_append_right _ _) ?_
  exact List.Sublist.append (List.sublist_append_right _ _) (List.Sublist.refl _)

theorem distinct_contents (state : DeviceState) :
    (state.contents.map Assignment.field).Nodup :=
  state.distinct_settings.sublist (state.sublist_settings.map Assignment.field)

/-- The other settings of a state are its power and its picture. -/
theorem mem_contents {assignment : Assignment} (isSetting : assignment ∈ state.settings) :
    assignment ∈ state.contents ∨ assignment.field = .poweredOn ∨
      assignment.field = .blanked := by
  simp only [settings, contents, List.mem_append] at isSetting ⊢
  rcases isSetting with (isPower | isRoute) | (isBlank | isLevel) | isMute
  · rcases List.mem_map.1 isPower with ⟨on, -, rfl⟩
    exact Or.inr (Or.inl rfl)
  · exact Or.inl (Or.inl isRoute)
  · rcases List.mem_map.1 isBlank with ⟨on, -, rfl⟩
    exact Or.inr (Or.inr rfl)
  · exact Or.inl (Or.inr (Or.inl isLevel))
  · exact Or.inl (Or.inr (Or.inr isMute))

/-- A state that has nothing but the power and the picture of another one. -/
def bare (state : DeviceState) : DeviceState :=
  { poweredOn := state.poweredOn, blanked := state.blanked }

theorem tidy_bare (state : DeviceState) : state.bare.Tidy :=
  ⟨by simp [bare], by simp [bare], by simp [bare]⟩

theorem setting?_bare (state : DeviceState) (field : Field) : state.bare.setting? field =
    if field = .poweredOn ∨ field = .blanked then state.setting? field else none := by
  cases field <;> simp [bare, setting?]

theorem setting?_replayed (state : DeviceState) (field : Field) :
    (state.contents.foldl assign state.bare).setting? field = state.setting? field := by
  rw [setting?_foldl_assign state.distinct_contents]
  cases found : state.contents.find? fun assignment => assignment.field = field with
  | some assignment =>
      obtain rfl : assignment.field = field := by simpa using List.find?_some found
      have isSetting := state.sublist_settings.subset (List.mem_of_find?_eq_some found)
      rw [mem_settings.1 isSetting]
      rfl
  | none =>
      rw [Option.map_none, Option.none_or, setting?_bare]
      split
      · rfl
      · rename_i neither
        symm
        apply Option.eq_none_iff_forall_ne_some.2
        intro setting isSet
        rcases exists_mem_settings isSet with ⟨assignment, member, rfl⟩
        rcases mem_contents member with isContent | isFlag
        · exact List.find?_eq_none.1 found assignment isContent (by simp)
        · exact neither isFlag

/-- The laws of assignments to a state. -/
structure Sparse (state : DeviceState) : Prop where
  /-- Neighbours that are assignments to different fields can be exchanged. -/
  exchanged (before : List Assignment) (a b : Assignment) (after : List Assignment) :
    a.field ≠ b.field → (before ++ a :: b :: after).foldl assign state =
      (before ++ b :: a :: after).foldl assign state
  /-- An assignment is lost when its field is assigned again. -/
  overridden (before : List Assignment) (a : Assignment) (between : List Assignment)
    (b : Assignment) (after : List Assignment) :
    a.field = b.field → (before ++ a :: (between ++ b :: after)).foldl assign state =
      (before ++ (between ++ b :: after)).foldl assign state
  /-- The routes of one kind are in increasing order of their outputs. -/
  ordered (steps : List Assignment) (kind : SignalKind) :
    ((steps.foldl assign state).routes kind).Pairwise fun a b => a.1 < b.1
  /-- They are those of the outputs that hold something for this kind. -/
  held (steps : List Assignment) (kind : SignalKind) (output input : String) :
    (output, input) ∈ (steps.foldl assign state).routes kind ↔ ∃ inputs feed,
      (steps.foldl assign state).inputs = some inputs ∧ inputs.get? output = some feed ∧
        feed.slot kind = some input
  /-- Each of them is the last one that was set, or one that was there and was not set again. -/
  latest (steps : List Assignment) (kind : SignalKind) (output input : String) :
    (output, input) ∈ (steps.foldl assign state).routes kind ↔
      (∃ before after, steps = before ++ .route kind output input :: after ∧
        ∀ step ∈ after, step.field ≠ .input output kind) ∨
      (∀ step ∈ steps, step.field ≠ .input output kind) ∧ (output, input) ∈ state.routes kind
  /-- They are as if nothing had been set but routes of this kind. -/
  untouched (steps : List Assignment) (kind : SignalKind) :
    (steps.foldl assign state).routes kind =
      ((steps.filter (Assignment.isRoute kind)).foldl assign state).routes kind
  /-- The state can be built up again, in any order, from its power, its picture and its contents,
  but for what is empty in it. -/
  rebuilt (steps : List Assignment) : steps.Perm state.contents →
    steps.foldl assign { poweredOn := state.poweredOn, blanked := state.blanked } = state.pruned

theorem lastPut_route {steps : List Assignment} {kind : SignalKind} {output input : String} :
    LastPut steps (.input output kind) (.source input) ↔
      ∃ before after, steps = before ++ .route kind output input :: after ∧
        ∀ step ∈ after, step.field ≠ .input output kind := by
  constructor
  · rintro ⟨before, last, after, rfl, isField, isSetting, others⟩
    cases last with
    | route kind' output' input' =>
        obtain ⟨rfl, rfl⟩ := Field.input.inj isField
        obtain rfl := Setting.source.inj isSetting
        exact ⟨before, after, rfl, others⟩
    | power | blank | level | mute => cases isField
  · rintro ⟨before, after, rfl, others⟩
    exact ⟨before, _, after, rfl, rfl, rfl, others⟩

/-- The laws of assignments hold of every state. -/
theorem sparse_algebra (state : DeviceState) : state.Sparse := by
  constructor
  case exchanged =>
    intro before a b after differ
    simp only [List.foldl_append, List.foldl_cons, assign_comm _ differ]
  case overridden =>
    intro before a between b after same
    rw [List.foldl_append, foldl_assign_lost same, ← List.foldl_append]
  case ordered => exact fun steps kind => pairwise_routes _ kind
  case held => exact fun steps kind output input => mem_routes_iff_feed
  case latest =>
    intro steps kind output input
    rw [mem_routes, setting?_run, lastPut_route, mem_routes]
  case untouched =>
    intro steps kind
    exact routes_congr fun output =>
      (setting?_run_filter (fun step _ here => Assignment.isRoute_of_field here) state).symm
  case rebuilt =>
    intro steps order
    have distinct : (steps.map Assignment.field).Nodup :=
      ((order.map Assignment.field).nodup_iff).2 state.distinct_contents
    rw [foldl_assign_perm order distinct]
    exact (state.tidy_bare.foldl_assign state.contents).eq_pruned (setting?_replayed state)

end DeviceState

end AvControl

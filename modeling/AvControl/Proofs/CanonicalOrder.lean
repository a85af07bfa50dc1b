import AvControl.Proofs.Response
import AvControl.Proofs.Json.Injectivity

/-!
# Reports have one order

The order of reports goes by device, field and error text, and at last by the text of the value. As
values are told apart by their texts, only a report itself is equal to it in this order, and the
reports of a response come out in one order, in whatever order they were put in.
-/

namespace AvControl

namespace FieldReport

/-- The value, if there is one, has only integers for numbers. -/
def IsPlain (report : FieldReport) : Prop := ∀ value ∈ report.value, value.IsIntegral

/-! ### Texts -/

theorem compareText_eq_lt {a b : String} : compareText a b = .lt ↔ a < b := by
  by_cases less : a < b
  · simp [compareText, less]
  · by_cases same : a = b <;> simp [compareText, less, same]

theorem compareText_eq_eq {a b : String} : compareText a b = .eq ↔ a = b := by
  by_cases less : a < b
  · have different : a ≠ b := by
      rintro rfl
      exact String.lt_irrefl a less
    simp [compareText, less, different]
  · by_cases same : a = b <;> simp [compareText, less, same]

/-- The empty text comes before every other one. -/
theorem empty_lt {text : String} (notEmpty : text ≠ "") : "" < text := by
  rcases List.exists_cons_of_ne_nil (mt String.toList_eq_nil_iff.1 notEmpty) with ⟨c, rest, isText⟩
  rw [String.lt_iff, isText]
  exact List.nil_lt_cons c rest

/-! ### Reports -/

theorem compare_self (a : FieldReport) : a.compare a = .eq := Std.ReflCmp.compare_self

theorem compare_swap (a b : FieldReport) : b.compare a = (a.compare b).swap :=
  Std.OrientedCmp.eq_swap

/-- The order goes by device, then by field, then by error text, and at last by the value. -/
theorem compare_eq_lt {a b : FieldReport} : a.compare b = .lt ↔
    a.device.text < b.device.text ∨ a.device = b.device ∧
      (a.field < b.field ∨ a.field = b.field ∧
        (a.error < b.error ∨ a.error = b.error ∧ a.renderedValue < b.renderedValue)) := by
  have sameDevice : a.device.text = b.device.text ↔ a.device = b.device :=
    ⟨congrArg DeviceId.mk, congrArg DeviceId.text⟩
  simp only [compare, Ordering.then_eq_lt, compareText_eq_lt, compareText_eq_eq, sameDevice]

theorem compare_eq_eq {a b : FieldReport} : a.compare b = .eq ↔
    a.device = b.device ∧ a.field = b.field ∧ a.error = b.error ∧
      a.renderedValue = b.renderedValue := by
  have sameDevice : a.device.text = b.device.text ↔ a.device = b.device :=
    ⟨congrArg DeviceId.mk, congrArg DeviceId.text⟩
  simp only [compare, Ordering.then_eq_eq, compareText_eq_eq, sameDevice]

/-- An absent value has a text of its own. -/
theorem renderedValue_eq_empty {report : FieldReport} :
    report.renderedValue = "" ↔ report.value = none := by
  cases present : report.value with
  | none => simp [renderedValue, present]
  | some value => simp [renderedValue, present, value.render_ne_empty]

/-- Plain values are told apart by their texts. -/
theorem value_eq_of_renderedValue {a b : FieldReport} (plain : a.IsPlain) (plain' : b.IsPlain)
    (same : a.renderedValue = b.renderedValue) : a.value = b.value := by
  cases present : a.value with
  | none =>
      rw [renderedValue_eq_empty.2 present] at same
      exact (renderedValue_eq_empty.1 same.symm).symm
  | some value =>
      cases present' : b.value with
      | none =>
          rw [renderedValue_eq_empty.2 present', renderedValue_eq_empty, present] at same
          cases same
      | some value' =>
          simp only [renderedValue, present, present'] at same
          rw [Json.render_injective (plain value present) (plain' value' present') same]

/-- Plain reports that are equal in the order are the same. -/
theorem eq_of_compare {a b : FieldReport} (plain : a.IsPlain) (plain' : b.IsPlain)
    (equal : a.compare b = .eq) : a = b := by
  rcases compare_eq_eq.1 equal with ⟨sameDevice, sameField, sameError, sameText⟩
  have sameValue := value_eq_of_renderedValue plain plain' sameText
  cases a
  cases b
  simp_all

/-- Between reports that differ in their values only, an absent value comes first. -/
theorem compare_absent {a b : FieldReport} (sameDevice : a.device = b.device)
    (sameField : a.field = b.field) (sameError : a.error = b.error) (absent : a.value = none)
    (present : b.value ≠ none) : a.compare b = .lt := by
  refine compare_eq_lt.2 (Or.inr ⟨sameDevice, Or.inr ⟨sameField, Or.inr ⟨sameError, ?_⟩⟩⟩)
  rw [renderedValue_eq_empty.2 absent]
  exact empty_lt fun isEmpty => present (renderedValue_eq_empty.1 isEmpty)

end FieldReport

namespace RoomResponse

variable {α : Type}

/-- Responses with the same plain reports have them in the same order in the end. -/
theorem errors_sortErrors_of_perm {response other : RoomResponse α}
    (plain : ∀ report ∈ response.errors, report.IsPlain)
    (same : other.errors.Perm response.errors) :
    other.sortErrors.errors = response.sortErrors.errors := by
  have perm : other.sortErrors.errors.Perm response.sortErrors.errors :=
    (List.mergeSort_perm ..).trans (same.trans (List.mergeSort_perm ..).symm)
  refine perm.eq_of_pairwise (fun a b isA isB first second => ?_) other.pairwise_sortErrors
    response.pairwise_sortErrors
  rw [sortErrors, List.mem_mergeSort] at isA isB
  exact FieldReport.eq_of_compare (plain a (same.mem_iff.1 isA)) (plain b isB)
    (Std.OrientedCmp.isLE_antisymm first second)

/--
The canonical order of reports is a total order that goes by device, field and error text, in which
an absent value comes before every present one. Reports without fractional numbers in their values
are equal in it only if they are the same, as each such value has a text of its own, which is never
empty. The reports of a response therefore come out sorted, all of them, and in the same order
wherever they stood before.
-/
theorem canonical_order :
    (∀ a : FieldReport, a.compare a = .eq) ∧
    (∀ a b : FieldReport, b.compare a = (a.compare b).swap) ∧
    (∀ a b c : FieldReport, (a.compare b).isLE → (b.compare c).isLE → (a.compare c).isLE) ∧
    (∀ a b : FieldReport, a.compare b = .lt ↔
      a.device.text < b.device.text ∨ a.device = b.device ∧
        (a.field < b.field ∨ a.field = b.field ∧
          (a.error < b.error ∨ a.error = b.error ∧ a.renderedValue < b.renderedValue))) ∧
    (∀ a b : FieldReport, a.device = b.device → a.field = b.field → a.error = b.error →
      a.value = none → b.value ≠ none → a.compare b = .lt) ∧
    (∀ v w : Json, v.IsIntegral → w.IsIntegral → v.render = w.render → v = w) ∧
    (∀ v : Json, v.render ≠ "") ∧
    (∀ a b : FieldReport, a.IsPlain → b.IsPlain → a.compare b = .eq → a = b) ∧
    ∀ response : RoomResponse α, (∀ report ∈ response.errors, report.IsPlain) →
      response.sortErrors.errors.Perm response.errors ∧
      response.sortErrors.errors.Pairwise (fun a b => (a.compare b).isLE) ∧
      ∀ other : RoomResponse α, other.errors.Perm response.errors →
        other.sortErrors.errors = response.sortErrors.errors := by
  refine ⟨FieldReport.compare_self, FieldReport.compare_swap, FieldReport.isLE_trans,
    fun _ _ => FieldReport.compare_eq_lt, fun _ _ => FieldReport.compare_absent,
    fun _ _ => Json.render_injective, Json.render_ne_empty,
    fun _ _ => FieldReport.eq_of_compare, fun response plain => ?_⟩
  exact ⟨List.mergeSort_perm .., response.pairwise_sortErrors,
    fun other => errors_sortErrors_of_perm plain⟩

/-- The report of a block whose level could not be read, or not be set to a value. -/
def brokenBlock (value : Option Json) : FieldReport where
  device := ⟨"ITB-1101-D1"⟩
  field := "volumes.out"
  value
  error := "no reply"

theorem isPlain_brokenBlock (value : Option Json) (integral : ∀ v ∈ value, v.IsIntegral) :
    (brokenBlock value).IsPlain := integral

/-- A response with a report of each kind about one block. -/
theorem canonical_order_brokenBlock :
    let read := brokenBlock none
    let set := brokenBlock (some (Json.ofInt 30))
    let other := brokenBlock (some (Json.ofTexts ["\n"]))
    (read.compare set = .lt ∧ set.compare other = .lt ∧ (read.compare other).isLE) ∧
    (set.compare set = .eq ∧ set.compare other ≠ .eq) ∧
    (Json.ofInt 30).render ≠ (Json.ofTexts ["\n"]).render ∧
    ({ errors := [other, set, read] } : RoomResponse Unit).sortErrors.errors.Pairwise
      (fun a b => (a.compare b).isLE) ∧
    ({ errors := [read, other, set] } : RoomResponse Unit).sortErrors.errors =
      ({ errors := [other, set, read] } : RoomResponse Unit).sortErrors.errors := by
  intro read set other
  rcases @canonical_order Unit with
    ⟨self, -, trans, -, absent, injective, -, identical, sorted⟩
  have number : (Json.ofInt 30).IsIntegral := by simp [Json.ofInt, Json.IsIntegral]
  have text : (Json.ofTexts ["\n"]).IsIntegral := by
    simp [Json.ofTexts, Json.IsIntegral, Json.ItemsIntegral]
  have plainRead : read.IsPlain := isPlain_brokenBlock none (by simp)
  have plainSet : set.IsPlain := isPlain_brokenBlock _ (by simpa using number)
  have plainOther : other.IsPlain := isPlain_brokenBlock _ (by simpa using text)
  have first : read.compare set = .lt :=
    absent read set rfl rfl rfl rfl (by simp [set, brokenBlock])
  have second : set.compare other = .lt := by decide +kernel
  have different : set ≠ other := by decide +kernel
  rcases sorted { errors := [other, set, read] }
    (by simp [plainRead, plainSet, plainOther]) with ⟨-, inOrder, unique⟩
  refine ⟨⟨first, second, trans read set other (by rw [first]; rfl) (by rw [second]; rfl)⟩,
    ⟨self set, fun same => different (identical set other plainSet plainOther same)⟩,
    fun same => ?_, inOrder, unique _ ?_⟩
  · cases injective _ _ number text same
  · exact (List.perm_append_singleton read [other, set]).symm

end RoomResponse

end AvControl

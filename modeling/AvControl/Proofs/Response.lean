import AvControl.Response
import Mathlib.Data.List.Nodup

/-!
# The order of reports

Reports are sorted by a total order in which several reports may count as equal; those keep the
order in which they came. The reports about one device therefore stand in a response exactly as if
they had been sorted on their own.
-/

namespace AvControl

section Sorting

variable {α : Type} {le : α → α → Bool}

/-- A list in which everything not above `a` comes first has only one place where `a` fits in. -/
theorem takeWhile_split {a : α} {before after : List α}
    (below : ∀ b ∈ before, (!le a b) = true) (above : ∀ b ∈ after, le a b = true) :
    (before ++ after).takeWhile (fun b => !le a b) = before ∧
      (before ++ after).dropWhile (fun b => !le a b) = after := by
  rw [List.takeWhile_append_of_pos below, List.dropWhile_append_of_pos below]
  cases after with
  | nil => simp
  | cons b rest => simp [above b (by simp)]

/-- What is kept of a sorted list is sorted as if the rest had never been there. -/
theorem filter_mergeSort (trans : ∀ a b c, le a b → le b c → le a c)
    (total : ∀ a b, le a b || le b a) (keep : α → Bool) (list : List α) :
    (list.mergeSort le).filter keep = (list.filter keep).mergeSort le := by
  induction list with
  | nil => simp
  | cons a rest ih =>
      rcases List.mergeSort_cons trans total a rest with ⟨before, after, whole, without, below⟩
      have sorted := List.pairwise_mergeSort trans total (a :: rest)
      rw [whole] at sorted
      have above : ∀ b ∈ after, le a b = true :=
        (List.pairwise_cons.1 (List.pairwise_append.1 sorted).2.1).1
      rw [without, List.filter_append] at ih
      rw [whole, List.filter_append]
      cases kept : keep a with
      | false => simp [kept, ih]
      | true =>
          rcases List.mergeSort_cons trans total a (rest.filter keep) with
            ⟨before', after', whole', without', below'⟩
          have sorted' := List.pairwise_mergeSort trans total (a :: rest.filter keep)
          rw [whole'] at sorted'
          have above' : ∀ b ∈ after', le a b = true :=
            (List.pairwise_cons.1 (List.pairwise_append.1 sorted').2.1).1
          have here : (before.filter keep ++ after.filter keep).takeWhile (fun b => !le a b) =
                before.filter keep ∧
              (before.filter keep ++ after.filter keep).dropWhile (fun b => !le a b) =
                after.filter keep :=
            takeWhile_split (fun b member => below b (List.mem_filter.1 member).1)
              fun b member => above b (List.mem_filter.1 member).1
          have here' := takeWhile_split below' above'
          rw [without'] at ih
          rw [ih] at here
          rw [List.filter_cons_of_pos kept, List.filter_cons_of_pos kept, whole',
            ← here.1, ← here.2, here'.1, here'.2]

end Sorting

namespace FieldReport

open Std in
instance : TransCmp compare :=
  inferInstanceAs (TransCmp
    (compareLex (compareOn fun report : FieldReport => report.device.text)
      (compareLex (compareOn FieldReport.field)
        (compareLex (compareOn FieldReport.error) (compareOn renderedValue)))))

theorem isLE_trans (a b c : FieldReport) (first : (a.compare b).isLE = true)
    (second : (b.compare c).isLE = true) : (a.compare c).isLE = true :=
  Std.TransCmp.isLE_trans first second

theorem isLE_total (a b : FieldReport) : ((a.compare b).isLE || (b.compare a).isLE) = true := by
  have swapped : b.compare a = (a.compare b).swap := Std.OrientedCmp.eq_swap
  rw [swapped]
  cases a.compare b <;> rfl

/-- Only reports of one field of one device can be equal in the order of reports. -/
theorem same_of_compare {a b : FieldReport} (first : (a.compare b).isLE = true)
    (second : (b.compare a).isLE = true) : a.device = b.device ∧ a.field = b.field := by
  have equal : a.compare b = .eq := by
    have swapped : b.compare a = (a.compare b).swap := Std.OrientedCmp.eq_swap
    rw [swapped] at second
    cases compared : a.compare b <;> simp [compared] at first second ⊢
  have texts : ∀ {x y : String}, compareText x y = .eq → x = y := by
    intro x y same
    simp only [compareText] at same
    split at same
    · cases same
    · split at same
      · assumption
      · cases same
  simp only [compare, Ordering.then_eq_eq] at equal
  exact ⟨congrArg DeviceId.mk (texts equal.1), texts equal.2.1⟩

/-- Reports of different fields have one canonical order. -/
theorem mergeSort_eq {reports others : List FieldReport} (same : reports.Perm others)
    (distinct : (reports.map FieldReport.field).Nodup) :
    (reports.mergeSort fun a b => (a.compare b).isLE) =
      others.mergeSort fun a b => (a.compare b).isLE := by
  have perm : (reports.mergeSort fun a b => (a.compare b).isLE).Perm
      (others.mergeSort fun a b => (a.compare b).isLE) :=
    (List.mergeSort_perm reports _).trans (same.trans (List.mergeSort_perm others _).symm)
  refine perm.eq_of_pairwise (fun a b isA isB first second => ?_)
    (List.pairwise_mergeSort isLE_trans isLE_total _)
    (List.pairwise_mergeSort isLE_trans isLE_total _)
  rw [List.mem_mergeSort] at isA isB
  exact List.inj_on_of_nodup_map distinct isA (same.mem_iff.2 isB)
    (same_of_compare first second).2

/-- Reports in canonical order that are the same for each device are the same. -/
theorem eq_of_filter_eq {reports others : List FieldReport}
    (sorted : reports.Pairwise fun a b => (a.compare b).isLE = true)
    (sorted' : others.Pairwise fun a b => (a.compare b).isLE = true)
    (same : ∀ device, (reports.filter fun report => report.device = device) =
      others.filter fun report => report.device = device)
    (distinct : ∀ device, ((reports.filter fun report => report.device = device).map
      FieldReport.field).Nodup) : reports = others := by
  have perm : reports.Perm others := by
    refine List.perm_iff_count.2 fun report => ?_
    have counted : ∀ list : List FieldReport, list.count report =
        (list.filter fun other => other.device = report.device).count report :=
      fun list => (List.count_filter (by simp)).symm
    rw [counted reports, counted others, same]
  refine perm.eq_of_pairwise (fun a b isA isB first second => ?_) sorted sorted'
  rcases same_of_compare first second with ⟨sameDevice, sameField⟩
  refine List.inj_on_of_nodup_map (distinct a.device) (List.mem_filter.2 ⟨isA, by simp⟩)
    (List.mem_filter.2 ⟨perm.mem_iff.2 isB, by simp [sameDevice]⟩) sameField

end FieldReport

namespace RoomResponse

variable {α : Type}

theorem pairwise_sortErrors (response : RoomResponse α) :
    response.sortErrors.errors.Pairwise fun a b => (a.compare b).isLE = true :=
  List.pairwise_mergeSort FieldReport.isLE_trans FieldReport.isLE_total response.errors

/-- The reports that pass a test are sorted on their own. -/
theorem filter_errors_sortErrors (response : RoomResponse α) (keep : FieldReport → Bool) :
    response.sortErrors.errors.filter keep =
      (response.errors.filter keep).mergeSort fun a b => (a.compare b).isLE :=
  filter_mergeSort FieldReport.isLE_trans FieldReport.isLE_total keep response.errors

end RoomResponse

end AvControl

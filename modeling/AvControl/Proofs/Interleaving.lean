import Mathlib.Data.List.Basic

/-!
# Rows side by side

Several rows that go on side by side make up one list, in which every row keeps its order. What
belongs to one row only is found in the list as it is in the row.
-/

namespace AvControl

variable {α : Type}

/-- A list is made up of two rows, each in its order. -/
inductive Merges : List α → List α → List α → Prop
  | nil : Merges [] [] []
  | first {a : α} {row other list : List α} (rest : Merges row other list) :
      Merges (a :: row) other (a :: list)
  | second {a : α} {row other list : List α} (rest : Merges row other list) :
      Merges row (a :: other) (a :: list)

namespace Merges

variable {row other list : List α}

theorem other_alone (row : List α) : Merges [] row row := by
  induction row with
  | nil => exact .nil
  | cons a row ih => exact .second ih

theorem eq_of_nil_right (merges : Merges row other list) (empty : other = []) : list = row := by
  induction merges with
  | nil => rfl
  | first _ ih => rw [ih empty]
  | second => cases empty

theorem eq_of_nil_left (merges : Merges row other list) (empty : row = []) : list = other := by
  induction merges with
  | nil => rfl
  | first => cases empty
  | second _ ih => rw [ih empty]

theorem filter (merges : Merges row other list) (p : α → Bool) :
    Merges (row.filter p) (other.filter p) (list.filter p) := by
  induction merges with
  | nil => exact .nil
  | @first a _ _ _ _ ih =>
      simp only [List.filter_cons]
      split
      · exact .first ih
      · exact ih
  | @second a _ _ _ _ ih =>
      simp only [List.filter_cons]
      split
      · exact .second ih
      · exact ih

end Merges

/-- A list is made up of some rows, each in its order. -/
def Interleaves : List (List α) → List α → Prop
  | [], list => list = []
  | row :: rows, list => ∃ others, Interleaves rows others ∧ Merges row others list

namespace Interleaves

theorem singleton {row list : List α} (interleaves : Interleaves [row] list) : list = row := by
  rcases interleaves with ⟨others, rfl, merges⟩
  exact merges.eq_of_nil_right rfl

/-- One of the rows goes on. -/
theorem advance {a : α} {row : List α} {after : List (List α)} (before : List (List α)) :
    ∀ {list : List α}, Interleaves (before ++ row :: after) list →
      Interleaves (before ++ (a :: row) :: after) (a :: list) := by
  induction before with
  | nil =>
      rintro list ⟨others, interleaves, merges⟩
      exact ⟨others, interleaves, .first merges⟩
  | cons head before ih =>
      rintro list ⟨others, interleaves, merges⟩
      exact ⟨_, ih interleaves, .second merges⟩

/-- A row that is over may as well be left out. -/
theorem insert_nil {after : List (List α)} (before : List (List α)) :
    ∀ {list : List α}, Interleaves (before ++ after) list →
      Interleaves (before ++ [] :: after) list := by
  induction before with
  | nil =>
      intro list interleaves
      exact ⟨list, interleaves, .other_alone list⟩
  | cons head before ih =>
      rintro list ⟨others, interleaves, merges⟩
      exact ⟨others, ih interleaves, merges⟩

theorem filter {rows : List (List α)} (p : α → Bool) : ∀ {list : List α},
    Interleaves rows list → Interleaves (rows.map fun row => row.filter p) (list.filter p) := by
  induction rows with
  | nil =>
      rintro list rfl
      rfl
  | cons row rows ih =>
      rintro list ⟨others, interleaves, merges⟩
      exact ⟨_, ih interleaves, merges.filter p⟩

theorem eq_nil {rows : List (List α)} (empty : ∀ row ∈ rows, row = []) : ∀ {list : List α},
    Interleaves rows list → list = [] := by
  induction rows with
  | nil => exact fun interleaves => interleaves
  | cons row rows ih =>
      rintro list ⟨others, interleaves, merges⟩
      rcases List.forall_mem_cons.1 empty with ⟨emptyRow, emptyRows⟩
      rw [merges.eq_of_nil_left emptyRow, ih emptyRows interleaves]

/-- When at most one row is not empty, the list is that row. -/
theorem eq_flatten {rows : List (List α)}
    (single : rows.Pairwise fun row other => row = [] ∨ other = []) : ∀ {list : List α},
    Interleaves rows list → list = rows.flatten := by
  induction rows with
  | nil => exact fun interleaves => interleaves
  | cons row rows ih =>
      rintro list ⟨others, interleaves, merges⟩
      rcases List.pairwise_cons.1 single with ⟨apart, others'⟩
      rw [List.flatten_cons]
      by_cases empty : row = []
      · rw [merges.eq_of_nil_left empty, ih others' interleaves, empty, List.nil_append]
      · have emptyRows : ∀ other ∈ rows, other = [] := by
          intro other member
          exact (apart other member).resolve_left empty
        have nothing := eq_nil emptyRows interleaves
        rw [merges.eq_of_nil_right nothing, List.flatten_eq_nil_iff.2 emptyRows, List.append_nil]

/-- What is found in one row only is found in the list as it is in the row. -/
theorem filter_eq {rows : List (List α)} {list : List α} (interleaves : Interleaves rows list)
    (p : α → Bool)
    (single : rows.Pairwise fun row other => ∀ a ∈ row, ∀ b ∈ other, p a = true → p b = true →
      False) : list.filter p = rows.flatten.filter p := by
  rw [List.filter_flatten]
  refine eq_flatten (List.pairwise_map.2 (single.imp fun {row other} apart => ?_))
    (interleaves.filter p)
  by_cases empty : row.filter p = []
  · exact Or.inl empty
  · right
    rcases List.exists_mem_of_ne_nil _ empty with ⟨a, member⟩
    rcases List.mem_filter.1 member with ⟨inRow, isA⟩
    apply List.filter_eq_nil_iff.2
    intro b inOther isB
    exact apart a inRow b inOther isA isB

end Interleaves

end AvControl

import AvControl.SortedMap
import Mathlib.Data.List.Nodup
import Mathlib.Data.List.Sort

/-!
# Look-ups in sorted maps

A map is known by its look-ups. Each operation has one equation that says what every look-up
answers afterwards, and an entry stands in the list of a map exactly when its key is answered with
its value.
-/

namespace AvControl.SortedMap

variable {κ α : Type} [OrderedKey κ] [DecidableEq κ]

omit [DecidableEq κ] in
theorem ne_of_lt {a b : κ} (less : a < b) : a ≠ b := by
  rintro rfl
  exact OrderedKey.lt_irrefl a less

omit [OrderedKey κ] in
theorem findEntry_eq_none {key : κ} {entries : List (κ × α)}
    (absent : ∀ entry ∈ entries, entry.1 ≠ key) : findEntry key entries = none := by
  induction entries with
  | nil => rfl
  | cons head rest ih =>
      have headDiffers : head.1 ≠ key := absent head (by simp)
      simp only [findEntry, headDiffers, if_false]
      exact ih fun entry member => absent entry (by simp [member])

omit [OrderedKey κ] in
theorem mem_of_findEntry {key : κ} {value : α} {entries : List (κ × α)}
    (found : findEntry key entries = some value) : (key, value) ∈ entries := by
  induction entries with
  | nil => simp [findEntry] at found
  | cons head rest ih =>
      simp only [findEntry] at found
      by_cases same : head.1 = key
      · simp only [same, if_true, Option.some.injEq] at found
        subst same found
        simp
      · simp only [same, if_false] at found
        exact List.mem_cons_of_mem _ (ih found)

theorem findEntry_of_mem {key : κ} {value : α} {entries : List (κ × α)}
    (sorted : entries.Pairwise fun a b => a.1 < b.1) (member : (key, value) ∈ entries) :
    findEntry key entries = some value := by
  induction entries with
  | nil => simp at member
  | cons head rest ih =>
      rcases List.pairwise_cons.1 sorted with ⟨headLess, restSorted⟩
      rcases List.mem_cons.1 member with rfl | inRest
      · simp [findEntry]
      · have differs : head.1 ≠ key := ne_of_lt (headLess _ inRest)
        simp only [findEntry, differs, if_false]
        exact ih restSorted inRest

/-- An entry is in a map exactly when its key is answered with its value. -/
theorem mem_entries_iff {map : SortedMap κ α} {key : κ} {value : α} :
    (key, value) ∈ map.entries ↔ map.get? key = some value :=
  ⟨findEntry_of_mem map.sorted, mem_of_findEntry⟩

/-- A map after an erasure answers nothing at its key and as before elsewhere. -/
@[simp]
theorem get?_erase (map : SortedMap κ α) (key other : κ) :
    (map.erase key).get? other = if other = key then none else map.get? other := by
  by_cases same : other = key
  · subst same
    rw [if_pos rfl]
    apply findEntry_eq_none
    intro entry member
    simpa [erase] using (List.mem_filter.1 member).2
  · rw [if_neg same]
    apply Option.ext
    intro value
    rw [← mem_entries_iff, ← mem_entries_iff]
    simp [erase, same]

@[simp]
theorem get?_mapValues (change : κ → α → β) (map : SortedMap κ α) (key : κ) :
    (map.mapValues change).get? key = (map.get? key).map (change key) := by
  simp only [get?, mapValues]
  induction map.entries with
  | nil => rfl
  | cons head rest ih =>
      simp only [List.map_cons, findEntry]
      split
      · rename_i same
        rw [same]
        rfl
      · exact ih

/-- A map after a test answers as before where the answer passes, and nothing elsewhere. -/
@[simp]
theorem get?_filter (keep : κ → α → Bool) (map : SortedMap κ α) (key : κ) :
    (map.filter keep).get? key = (map.get? key).filter (keep key) := by
  apply Option.ext
  intro value
  rw [Option.filter_eq_some_iff, ← mem_entries_iff, ← mem_entries_iff]
  exact List.mem_filter

omit [DecidableEq κ] in
/-- Lists with increasing keys are equal when they have the same entries. -/
theorem eq_of_mem_iff {entries others : List (κ × α)}
    (sorted : entries.Pairwise fun a b => a.1 < b.1)
    (sorted' : others.Pairwise fun a b => a.1 < b.1)
    (same : ∀ entry, entry ∈ entries ↔ entry ∈ others) : entries = others := by
  have irreflexive : Std.Irrefl fun a b : κ × α => a.1 < b.1 :=
    ⟨fun entry => OrderedKey.lt_irrefl entry.1⟩
  have antisymmetric : Std.Antisymm fun a b : κ × α => a.1 < b.1 :=
    ⟨fun a b less more => absurd (OrderedKey.lt_trans less more) (OrderedKey.lt_irrefl a.1)⟩
  exact sorted.eq_of_mem_iff sorted' same

/-- Maps that give the same answers are equal. -/
theorem ext_get? {a b : SortedMap κ α} (same : ∀ key, a.get? key = b.get? key) :
    a = b := by
  refine ext (eq_of_mem_iff a.sorted b.sorted fun entry => ?_)
  rw [show entry = (entry.1, entry.2) from rfl, mem_entries_iff, mem_entries_iff, same]

omit [DecidableEq κ] in
/-- No key stands twice in a map. -/
theorem nodup_keys (map : SortedMap κ α) : map.keys.Nodup :=
  List.pairwise_map.2 (map.sorted.imp ne_of_lt)

theorem isEmpty_eq_false_iff {map : SortedMap κ α} :
    map.isEmpty = false ↔ ∃ key value, map.get? key = some value := by
  simp only [← mem_entries_iff, isEmpty]
  cases map.entries with
  | nil => simp
  | cons head rest => simpa using ⟨head.1, head.2, Or.inl rfl⟩

theorem isEmpty_iff {map : SortedMap κ α} : map.isEmpty = true ↔ ∀ key, map.get? key = none := by
  rw [← Bool.not_eq_false, isEmpty_eq_false_iff]
  simp [Option.eq_none_iff_forall_ne_some]

theorem isEmpty_insert (map : SortedMap κ α) (key : κ) (value : α) :
    (map.insert key value).isEmpty = false :=
  isEmpty_eq_false_iff.2 ⟨key, value, by simp⟩

theorem get?_foldl_insert (entries : List (κ × α)) (distinct : (entries.map Prod.fst).Nodup) :
    ∀ (map : SortedMap κ α) (key : κ) (value : α),
      (entries.foldl (fun map entry => map.insert entry.1 entry.2) map).get? key = some value ↔
        (key, value) ∈ entries ∨ key ∉ entries.map Prod.fst ∧ map.get? key = some value := by
  induction entries with
  | nil => simp
  | cons head rest ih =>
      intro map key value
      rcases List.nodup_cons.1 distinct with ⟨fresh, others⟩
      rw [List.foldl_cons, ih others, get?_insert]
      by_cases same : key = head.1
      · subst same
        have notInRest : (head.1, value) ∉ rest := fun member =>
          fresh (List.mem_map.2 ⟨_, member, rfl⟩)
        simp [notInRest, fresh, Prod.ext_iff, eq_comm]
      · simp [same, Prod.ext_iff]

/-- A map made of entries with different keys holds just these entries. -/
theorem get?_ofList {entries : List (κ × α)} (distinct : (entries.map Prod.fst).Nodup) {key : κ}
    {value : α} : (ofList entries).get? key = some value ↔ (key, value) ∈ entries := by
  rw [ofList, get?_foldl_insert entries distinct]
  simp

omit [OrderedKey κ] [DecidableEq κ] in
/-- Changing and dropping entries by their values leaves different keys. -/
theorem distinct_filterMap {entries : List (κ × β)} (distinct : (entries.map Prod.fst).Nodup)
    (change : β → Option α) :
    ((entries.filterMap fun entry => (change entry.2).map fun value => (entry.1, value)).map
      Prod.fst).Nodup := by
  refine List.pairwise_map.2 (List.pairwise_filterMap.2 ?_)
  refine (List.pairwise_map.1 distinct).imp fun {a b} differ a' isA b' isB => ?_
  rcases Option.map_eq_some_iff.1 isA with ⟨_, _, rfl⟩
  rcases Option.map_eq_some_iff.1 isB with ⟨_, _, rfl⟩
  exact differ

theorem get?_ofList_filterMap_eq_some {entries : List (κ × β)}
    (distinct : (entries.map Prod.fst).Nodup) (change : β → Option α) {key : κ} {changed : α} :
    (ofList (entries.filterMap fun entry =>
      (change entry.2).map fun value => (entry.1, value))).get? key = some changed ↔
        ∃ value, (key, value) ∈ entries ∧ change value = some changed := by
  rw [get?_ofList (distinct_filterMap distinct change), List.mem_filterMap]
  constructor
  · rintro ⟨⟨other, value⟩, isEntry, isChanged⟩
    rcases Option.map_eq_some_iff.1 isChanged with ⟨_, isChange, same⟩
    obtain ⟨rfl, rfl⟩ := Prod.mk.inj same
    exact ⟨value, isEntry, isChange⟩
  · rintro ⟨value, isEntry, isChange⟩
    exact ⟨_, isEntry, by simp [isChange]⟩

/-- Changing and dropping entries by their values changes and drops the answers. -/
theorem get?_ofList_filterMap {entries : List (κ × β)} (distinct : (entries.map Prod.fst).Nodup)
    (change : β → Option α) {key : κ} {value : β} (member : (key, value) ∈ entries) :
    (ofList (entries.filterMap fun entry =>
      (change entry.2).map fun value => (entry.1, value))).get? key = change value := by
  apply Option.ext
  intro changed
  rw [get?_ofList_filterMap_eq_some distinct change]
  constructor
  · rintro ⟨other, isOther, isChange⟩
    have same := List.inj_on_of_nodup_map distinct isOther member rfl
    rwa [(Prod.mk.inj same).2] at isChange
  · exact fun isChange => ⟨value, member, isChange⟩

/-- A list with increasing keys is the list of the map that is made of it. -/
theorem entries_ofList {entries : List (κ × α)}
    (sorted : entries.Pairwise fun a b => a.1 < b.1) : (ofList entries).entries = entries := by
  have same : ofList entries = ⟨entries, sorted⟩ := by
    apply ext_get?
    intro key
    apply Option.ext
    intro value
    rw [get?_ofList (List.pairwise_map.2 (sorted.imp ne_of_lt)), ← mem_entries_iff]
  rw [same]

/-- An entry is the first one with a property. -/
structure IsFirst (map : SortedMap κ α) (property : κ → α → Prop) (key : κ) (value : α) :
    Prop where
  isEntry : map.get? key = some value
  holds : property key value
  earlier : ∀ other value', other < key → map.get? other = some value' → ¬property other value'

/-- What precedes an entry in the list of a map is what has a smaller key. -/
theorem mem_front_iff {map : SortedMap κ α} {front back : List (κ × α)} {key other : κ}
    {value value' : α} (split : map.entries = front ++ (key, value) :: back) :
    (other, value') ∈ front ↔ other < key ∧ map.get? other = some value' := by
  have sorted := map.sorted
  rw [split, List.pairwise_append, List.pairwise_cons] at sorted
  rcases sorted with ⟨-, ⟨keyLess, -⟩, frontLess⟩
  rw [← mem_entries_iff, split]
  constructor
  · intro isBefore
    exact ⟨frontLess _ isBefore _ List.mem_cons_self, List.mem_append_left _ isBefore⟩
  · rintro ⟨less, member⟩
    rcases List.mem_append.1 member with isBefore | isAfter
    · exact isBefore
    · rcases List.mem_cons.1 isAfter with same | inBack
      · exact absurd (Prod.mk.inj same).1 (ne_of_lt less)
      · exact absurd (OrderedKey.lt_trans less (keyLess _ inBack)) (OrderedKey.lt_irrefl other)

theorem isFirst_iff {map : SortedMap κ α} {property : κ → α → Prop} {key : κ} {value : α} :
    map.IsFirst property key value ↔ ∃ front back, map.entries = front ++ (key, value) :: back ∧
      (∀ entry ∈ front, ¬property entry.1 entry.2) ∧ property key value := by
  constructor
  · rintro ⟨isEntry, holds, earlier⟩
    rcases List.append_of_mem (mem_entries_iff.2 isEntry) with ⟨front, back, split⟩
    refine ⟨front, back, split, fun entry isBefore => ?_, holds⟩
    rcases (mem_front_iff split).1 isBefore with ⟨less, isEntry'⟩
    exact earlier _ _ less isEntry'
  · rintro ⟨front, back, split, earlier, holds⟩
    refine ⟨mem_entries_iff.1 (by simp [split]), holds, fun other value' less isEntry => ?_⟩
    exact earlier _ ((mem_front_iff split).2 ⟨less, isEntry⟩)

/-- If any entry has a property, there is a first one. -/
theorem exists_isFirst {map : SortedMap κ α} (property : κ → α → Prop) {key : κ} {value : α}
    (isEntry : map.get? key = some value) (holds : property key value) :
    ∃ key value, map.IsFirst property key value := by
  classical
  have found : (map.entries.find? fun entry => property entry.1 entry.2).isSome := by
    rw [List.find?_isSome]
    exact ⟨_, mem_entries_iff.2 isEntry, by simpa using holds⟩
  rcases Option.isSome_iff_exists.1 found with ⟨⟨key', value'⟩, isFound⟩
  rcases List.find?_eq_some_iff_append.1 isFound with ⟨holds', front, back, split, earlier⟩
  refine ⟨key', value', isFirst_iff.2 ⟨front, back, split, ?_, by simpa using holds'⟩⟩
  intro entry isBefore
  simpa using earlier entry isBefore

end AvControl.SortedMap

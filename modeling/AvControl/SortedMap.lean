/-!
# Maps with sorted keys

A finite map is kept as the list of its entries in strictly increasing key order. One mapping then
has one representation, so maps are equal exactly when they answer every lookup alike, and whatever
walks a map meets the keys in order. The order of texts is the order of their code points.
-/

namespace AvControl

/-- A type whose values are linearly ordered by a decidable strict order. -/
class OrderedKey (κ : Type) extends LT κ where
  decidableLt : DecidableLT κ
  lt_irrefl (a : κ) : ¬a < a
  lt_trans {a b c : κ} : a < b → b < c → a < c
  lt_or_eq_or_lt (a b : κ) : a < b ∨ a = b ∨ b < a

instance OrderedKey.instDecidableLT {κ : Type} [OrderedKey κ] : DecidableLT κ :=
  OrderedKey.decidableLt

instance : OrderedKey String where
  decidableLt := inferInstance
  lt_irrefl := String.lt_irrefl
  lt_trans := String.lt_trans
  lt_or_eq_or_lt a b := by
    by_cases h : a < b
    · exact Or.inl h
    · by_cases h' : b < a
      · exact Or.inr (Or.inr h')
      · exact Or.inr (Or.inl (String.le_antisymm h' h))

/-- A finite map from `κ` to `α` with its entries in increasing key order. -/
structure SortedMap (κ : Type) [OrderedKey κ] (α : Type) where
  entries : List (κ × α)
  sorted : entries.Pairwise fun a b => a.1 < b.1 := by simp
deriving DecidableEq

namespace SortedMap

variable {κ α β : Type} [OrderedKey κ] [DecidableEq κ]

instance [Repr κ] [Repr α] : Repr (SortedMap κ α) where
  reprPrec map precedence := reprPrec map.entries precedence

/-- The map without entries. -/
def empty : SortedMap κ α := ⟨[], List.Pairwise.nil⟩

instance : Inhabited (SortedMap κ α) := ⟨empty⟩
instance : EmptyCollection (SortedMap κ α) := ⟨empty⟩

/-- Put one entry at its place in a sorted list, replacing the entry of the same key. -/
def insertEntry (key : κ) (value : α) : List (κ × α) → List (κ × α)
  | [] => [(key, value)]
  | entry :: rest =>
    if key < entry.1 then (key, value) :: entry :: rest
    else if key = entry.1 then (key, value) :: rest
    else entry :: insertEntry key value rest

omit [DecidableEq κ] in
theorem eq_or_mem_of_mem_insertEntry [DecidableEq κ] {key : κ} {value : α} {entry : κ × α}
    {entries : List (κ × α)} (member : entry ∈ insertEntry key value entries) :
    entry = (key, value) ∨ entry ∈ entries := by
  induction entries with
  | nil => simpa [insertEntry] using member
  | cons head rest ih =>
    grind [insertEntry]

theorem pairwise_insertEntry (key : κ) (value : α) {entries : List (κ × α)}
    (sorted : entries.Pairwise fun a b => a.1 < b.1) :
    (insertEntry key value entries).Pairwise fun a b => a.1 < b.1 := by
  induction entries with
  | nil => simp [insertEntry]
  | cons head rest ih =>
    obtain ⟨headLess, restSorted⟩ := List.pairwise_cons.1 sorted
    unfold insertEntry
    split
    · rename_i less
      refine List.pairwise_cons.2 ⟨fun entry member => ?_, sorted⟩
      rcases List.mem_cons.1 member with rfl | inRest
      · exact less
      · exact OrderedKey.lt_trans less (headLess entry inRest)
    · split
      · rename_i _ same
        exact List.pairwise_cons.2 ⟨fun entry member => same ▸ headLess entry member, restSorted⟩
      · rename_i notLess different
        refine List.pairwise_cons.2 ⟨fun entry member => ?_, ih restSorted⟩
        rcases eq_or_mem_of_mem_insertEntry member with rfl | inRest
        · rcases OrderedKey.lt_or_eq_or_lt key head.1 with less | same | greater
          · exact absurd less notLess
          · exact absurd same different
          · exact greater
        · exact headLess entry inRest

/-- The map with `value` at `key`, whatever was there before. -/
def insert (map : SortedMap κ α) (key : κ) (value : α) : SortedMap κ α :=
  ⟨insertEntry key value map.entries, pairwise_insertEntry key value map.sorted⟩

/-- The value of the first entry with the given key. -/
def findEntry (key : κ) : List (κ × α) → Option α
  | [] => none
  | entry :: rest => if entry.1 = key then some entry.2 else findEntry key rest

/-- The value at `key`, if there is one. -/
def get? (map : SortedMap κ α) (key : κ) : Option α :=
  findEntry key map.entries

/-- Whether there is a value at `key`. -/
def contains (map : SortedMap κ α) (key : κ) : Bool :=
  (map.get? key).isSome

/-- The map without `key`. -/
def erase (map : SortedMap κ α) (key : κ) : SortedMap κ α :=
  ⟨map.entries.filter fun entry => entry.1 ≠ key, map.sorted.filter _⟩

/-- The entries that satisfy a test. -/
def filter (keep : κ → α → Bool) (map : SortedMap κ α) : SortedMap κ α :=
  ⟨map.entries.filter fun entry => keep entry.1 entry.2, map.sorted.filter _⟩

/-- The map with every value changed and every key kept. -/
def mapValues (change : κ → α → β) (map : SortedMap κ α) : SortedMap κ β :=
  ⟨map.entries.map fun entry => (entry.1, change entry.1 entry.2),
    List.pairwise_map.2 map.sorted⟩

/-- The value at `key` changed, if there is one. -/
def modify (map : SortedMap κ α) (key : κ) (change : α → α) : SortedMap κ α :=
  map.mapValues fun other value => if other = key then change value else value

/-- The keys in increasing order. -/
def keys (map : SortedMap κ α) : List κ := map.entries.map (·.1)

/-- The number of entries. -/
def size (map : SortedMap κ α) : Nat := map.entries.length

/-- Whether there is no entry. -/
def isEmpty (map : SortedMap κ α) : Bool := map.entries.isEmpty

/-- The map of the entries of a list, where a later entry replaces an earlier one of its key. -/
def ofList (entries : List (κ × α)) : SortedMap κ α :=
  entries.foldl (fun map entry => map.insert entry.1 entry.2) empty

omit [DecidableEq κ] in
@[ext]
theorem ext {a b : SortedMap κ α} (same : a.entries = b.entries) : a = b := by
  cases a
  cases b
  simpa using same

@[simp]
theorem get?_empty (key : κ) : (empty : SortedMap κ α).get? key = none := rfl

theorem findEntry_insertEntry (key other : κ) (value : α) (entries : List (κ × α)) :
    findEntry other (insertEntry key value entries) =
      if other = key then some value else findEntry other entries := by
  induction entries with
  | nil => grind [insertEntry, findEntry]
  | cons head rest ih => grind [insertEntry, findEntry]

/-- A map after an insertion answers with the new value at its key and as before elsewhere. -/
@[simp]
theorem get?_insert (map : SortedMap κ α) (key other : κ) (value : α) :
    (map.insert key value).get? other = if other = key then some value else map.get? other :=
  findEntry_insertEntry key other value map.entries

end SortedMap

end AvControl

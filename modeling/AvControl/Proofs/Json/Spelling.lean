import AvControl.Proofs.Json.Reading
import AvControl.Proofs.SortedMap
import AvControl.Wire.State
import Mathlib.Data.List.Pairwise
import Mathlib.Data.List.Perm.Basic

/-!
# Spellings

A value may be written in more than one way: the members of a record may stand in any order and
between members that nobody knows, and what is absent may be left out or be written as null. A
spelling says which JSON values stand for a value. A decoder reads a spelling if it gets the value
back from all of them, no matter how the record that it fills in is represented meanwhile; it only
has to be known of each field what it is like once its member has been read.
-/

namespace AvControl.Json

variable {α β κ σ : Type}

/-- Which JSON values stand for a value. -/
abbrev Spelling (α : Type) := α → Json → Prop

/-- A field of a record, and how it may be written: as a member, or not at all. -/
structure Slot (α : Type) where
  name : String
  written : α → Option Json → Prop

namespace Slot

/-- A field that is always written. -/
def required (name : String) (get : α → β) (spelling : Spelling β) : Slot α where
  name := name
  written value json := ∃ content, json = some content ∧ spelling (get value) content

/-- A field that is left out or written as null if it is absent. -/
def optional (name : String) (get : α → Option β) (spelling : Spelling β) : Slot α where
  name := name
  written value json :=
    match get value with
    | some present => ∃ content, json = some content ∧ spelling present content
    | none => json = none ∨ json = some .null

/-- A field that may be left out if it is as it is without being written. -/
def defaulted (name : String) (get : α → β) (default : β) (spelling : Spelling β) : Slot α where
  name := name
  written value json :=
    (∃ content, json = some content ∧ spelling (get value) content) ∨
      json = none ∧ get value = default

end Slot

/-- The members that a value is written as, in the order of its fields. -/
inductive Written (value : α) : List (Slot α) → List (String × Json) → Prop
  | nil : Written value [] []
  | present {slot : Slot α} {slots : List (Slot α)} {content : Json}
      {members : List (String × Json)} (isWritten : slot.written value (some content))
      (others : Written value slots members) :
      Written value (slot :: slots) ((slot.name, content) :: members)
  | absent {slot : Slot α} {slots : List (Slot α)} {members : List (String × Json)}
      (isLeftOut : slot.written value none) (others : Written value slots members) :
      Written value (slot :: slots) members

namespace Spelling

/-- A text stands for itself. -/
def text : Spelling String := fun value json => json = .string value

/-- A truth value stands for itself. -/
def bool : Spelling Bool := fun value json => json = .bool value

/-- A list is written item by item. -/
def list (spelling : Spelling α) : Spelling (List α) := fun values json =>
  ∃ items, json = .array items ∧ List.Forall₂ spelling values items

/-- A map is written entry by entry, in any order. -/
def table [OrderedKey κ] (name : κ → String) (spelling : Spelling α) :
    Spelling (SortedMap κ α) := fun map json =>
  ∃ members listed, json = .object members ∧ members.Perm listed ∧
    List.Forall₂ (fun entry member => member.1 = name entry.1 ∧ spelling entry.2 member.2)
      map.entries listed

/-- A record is written field by field, in any order, among members with unknown names. -/
def record (slots : List (Slot α)) : Spelling α := fun value json =>
  ∃ members known unknown, json = .object members ∧ members.Perm (known ++ unknown) ∧
    Written value slots known ∧ ∀ member ∈ unknown, ∀ slot ∈ slots, member.1 ≠ slot.name

/-- No value stands for nothing. -/
def NeverNull (spelling : Spelling α) : Prop := ∀ value, ¬spelling value .null

theorem neverNull_text : NeverNull text := fun _ same => by cases same

theorem neverNull_bool : NeverNull bool := fun _ same => by cases same

theorem neverNull_table [OrderedKey κ] (name : κ → String) (spelling : Spelling α) :
    NeverNull (table name spelling) := by
  rintro map ⟨members, listed, same, -⟩
  cases same

end Spelling

open Document (reread rereadItems rereadMembers)

theorem reread_ne_null {json : Json} (notNull : json ≠ .null) : reread json ≠ .null := by
  cases json with
  | null => exact absurd rfl notNull
  | bool | number | string | array | object => simp [reread]

/-- A decoder reads a spelling if it gets every value back, given enough levels. -/
def Decoder.Reads (decoder : Decoder α) (levels : Nat) (spelling : Spelling α) : Prop :=
  ∀ value json depth, spelling value json → levels ≤ depth →
    decoder depth (reread json) = .ok value

namespace Decoder

theorem Reads.mono {decoder : Decoder α} {fewer levels : Nat} {spelling : Spelling α}
    (reads : decoder.Reads fewer spelling) (enough : fewer ≤ levels) :
    decoder.Reads levels spelling :=
  fun value json depth spelled deep => reads value json depth spelled (Nat.le_trans enough deep)

theorem reads_text : Decoder.text.Reads 0 .text := by
  rintro value _ depth rfl -
  rfl

theorem reads_bool : Decoder.bool.Reads 0 .bool := by
  rintro value _ depth rfl -
  rfl

theorem optional_of_ne_null (decoder : Decoder α) (depth : Nat) {document : Document}
    (notNull : document ≠ .null) :
    decoder.optional depth document = (decoder depth document).map some := by
  cases document with
  | null => exact absurd rfl notNull
  | bool | number | text | array | object | malformed => rfl

theorem Reads.list {decoder : Decoder α} {levels : Nat} {spelling : Spelling α}
    (reads : decoder.Reads levels spelling) : decoder.list.Reads (levels + 1) spelling.list := by
  rintro values _ depth ⟨items, rfl, areWritten⟩ enough
  obtain ⟨depth, rfl⟩ : ∃ less, depth = less + 1 := ⟨depth - 1, by omega⟩
  have read : (rereadItems items).mapM (decoder depth) = .ok values := by
    rw [rereadItems_eq_map]
    induction areWritten with
    | nil => rfl
    | cons isWritten _ ih =>
        rw [List.map_cons, List.mapM_cons, reads _ _ depth isWritten (by omega), ih]
        rfl
  simp only [reread, Decoder.list, read]
  rfl

/-- A map is what its entries make, in whatever order they come. -/
theorem ofList_of_perm [OrderedKey κ] [DecidableEq κ] {entries : List (κ × α)}
    {map : SortedMap κ α} (same : entries.Perm map.entries) : SortedMap.ofList entries = map := by
  have distinct : (entries.map Prod.fst).Nodup := (same.map Prod.fst).nodup_iff.2 map.nodup_keys
  refine SortedMap.ext_get? fun key => Option.ext fun value => ?_
  rw [SortedMap.get?_ofList distinct, same.mem_iff, SortedMap.mem_entries_iff]

theorem Reads.table [OrderedKey κ] [DecidableEq κ] {decoder : Decoder α} {levels : Nat}
    {spelling : Spelling α} {name : κ → String} {key : String → κ}
    (reads : decoder.Reads levels spelling) (inverse : ∀ k, key (name k) = k) :
    (Decoder.table key decoder).Reads (levels + 1) (Spelling.table name spelling) := by
  rintro map _ depth ⟨members, listed, rfl, reordered, areWritten⟩ enough
  obtain ⟨depth, rfl⟩ : ∃ less, depth = less + 1 := ⟨depth - 1, by omega⟩
  rcases List.perm_comp_forall₂ reordered areWritten.flip with ⟨entries, areEntries, same⟩
  have read : ∀ start : SortedMap κ α, (rereadMembers members).foldlM
      (fun map member => do
        let name ← Decoder.name member.1
        let value ← decoder depth member.2
        pure (map.insert (key name) value)) start =
      .ok (entries.foldl (fun map entry => map.insert entry.1 entry.2) start) := by
    rw [rereadMembers_eq_map]
    clear reordered same
    induction areEntries with
    | nil => exact fun _ => rfl
    | @cons member entry members entries isWritten _ ih =>
        intro start
        have isValue := reads _ _ depth isWritten.2 (by omega)
        have isKey : key member.1 = entry.1 := by rw [isWritten.1, inverse]
        simp only [List.map_cons, List.foldlM_cons, Decoder.name, isValue, List.foldl_cons, ← isKey]
        exact ih _
  simp only [reread, Decoder.table, read]
  exact congrArg Except.ok (ofList_of_perm same)

end Decoder

/-! ### Records -/

/--
A field of a record as the decoder fills it in and as it is written. What is filled in agrees with
what was written.
-/
structure Part (σ α : Type) (levels : Nat) where
  content : Type
  name : String
  look : σ → Option content
  put : σ → content → σ
  decoder : Decoder content
  written : α → Option Json → Prop
  agrees : α → Option content → Prop
  look_put : ∀ draft content, look (put draft content) = some content
  absent : ∀ value, written value none → agrees value none
  present : ∀ value json depth, written value (some json) → levels ≤ depth →
    ∃ content, decoder depth (reread json) = .ok content ∧ agrees value (some content)

namespace Part

variable {levels : Nat}

/-- The field that a decoder reads. -/
def field (part : Part σ α levels) : Decoder.FieldOf σ :=
  .of part.name part.look part.put part.decoder

/-- The field that is written. -/
def slot (part : Part σ α levels) : Slot α := ⟨part.name, part.written⟩

/-- A field that has to be there. -/
def required {name : String} {look : σ → Option β} {put : σ → β → σ} {decoder : Decoder β}
    {get : α → β} {spelling : Spelling β} (reads : decoder.Reads levels spelling)
    (look_put : ∀ draft content, look (put draft content) = some content := by intros; rfl) :
    Part σ α levels where
  content := β
  name := name
  look := look
  put := put
  decoder := decoder
  written := (Slot.required name get spelling).written
  agrees value content := content = some (get value)
  look_put := look_put
  absent value leftOut := by
    rcases leftOut with ⟨_, impossible, -⟩
    cases impossible
  present value json depth isWritten enough := by
    rcases isWritten with ⟨_, ⟨⟩, spelled⟩
    exact ⟨_, reads _ _ depth spelled enough, rfl⟩

/-- A field that may be absent. -/
def optional {name : String} {look : σ → Option (Option β)} {put : σ → Option β → σ}
    {decoder : Decoder β} {get : α → Option β} {spelling : Spelling β}
    (reads : decoder.Reads levels spelling) (neverNull : spelling.NeverNull)
    (look_put : ∀ draft content, look (put draft content) = some content := by intros; rfl) :
    Part σ α levels where
  content := Option β
  name := name
  look := look
  put := put
  decoder := decoder.optional
  written := (Slot.optional name get spelling).written
  agrees value content := content.join = get value
  look_put := look_put
  absent value leftOut := by
    simp only [Slot.optional] at leftOut
    split at leftOut
    · rcases leftOut with ⟨_, impossible, -⟩
      cases impossible
    · rename_i isAbsent
      exact isAbsent.symm
  present value json depth isWritten enough := by
    simp only [Slot.optional] at isWritten
    split at isWritten
    · rename_i present isPresent
      rcases isWritten with ⟨_, ⟨⟩, spelled⟩
      have notNull : json ≠ .null := by
        rintro rfl
        exact neverNull _ spelled
      refine ⟨some present, ?_, isPresent.symm⟩
      rw [Decoder.optional_of_ne_null decoder depth (reread_ne_null notNull),
        reads _ _ depth spelled enough]
      rfl
    · rename_i isAbsent
      rcases isWritten with impossible | ⟨⟨⟩⟩
      · cases impossible
      · exact ⟨none, rfl, isAbsent.symm⟩

/-- A field that may be left out. -/
def defaulted {name : String} {look : σ → Option β} {put : σ → β → σ} {decoder : Decoder β}
    {get : α → β} {default : β} {spelling : Spelling β} (reads : decoder.Reads levels spelling)
    (look_put : ∀ draft content, look (put draft content) = some content := by intros; rfl) :
    Part σ α levels where
  content := β
  name := name
  look := look
  put := put
  decoder := decoder
  written := (Slot.defaulted name get default spelling).written
  agrees value content := content.getD default = get value
  look_put := look_put
  absent value leftOut := by
    rcases leftOut with ⟨_, impossible, -⟩ | ⟨-, isDefault⟩
    · cases impossible
    · exact isDefault.symm
  present value json depth isWritten enough := by
    rcases isWritten with ⟨_, ⟨⟩, spelled⟩ | ⟨impossible, -⟩
    · exact ⟨_, reads _ _ depth spelled enough, rfl⟩
    · cases impossible

theorem name_field (part : Part σ α levels) : part.field.name = part.name := rfl

/-- Filling in the one field leaves the other as it is. -/
def Spares (part other : Part σ α levels) : Prop :=
  ∀ draft content, other.look (part.put draft content) = other.look draft

/--
What is still to come for a field: either one member that it is written as, or none, if it has been
filled in as it should be.
-/
def Awaits (part : Part σ α levels) (value : α) (members : List (String × Json)) (draft : σ) :
    Prop :=
  members.filter (fun member => member.1 = part.name) = [] ∧ part.agrees value (part.look draft) ∨
    ∃ json, members.filter (fun member => member.1 = part.name) = [(part.name, json)] ∧
      part.written value (some json) ∧ part.look draft = none

end Part

variable {levels : Nat} {parts : List (Part σ α levels)}

theorem readMember_some (fields : List (Decoder.FieldOf σ)) (depth : Nat) (draft : σ)
    (name : String) (document : Document) :
    Decoder.readMember fields depth draft (some name, document) =
      match fields.find? fun field => field.name = name with
      | none => if document.isComplete then .ok draft else .error .malformed
      | some field =>
        if field.filled draft then .error .mismatched else field.read depth document draft := rfl

/-- A member with an unknown name is passed over. -/
theorem readMember_unknown {name : String} (unknown : ∀ part ∈ parts, part.name ≠ name)
    (json : Json) (depth : Nat) (draft : σ) : Decoder.readMember (parts.map Part.field) depth draft
      (some name, reread json) = .ok draft := by
  have noField : (parts.map Part.field).find? (fun field => field.name = name) = none := by
    rw [List.find?_eq_none]
    intro field member
    rcases List.mem_map.1 member with ⟨part, isPart, rfl⟩
    simp [Part.name_field, unknown part isPart]
  rw [readMember_some, noField]
  simp [isComplete_reread]

/-- A field is found by its name. -/
theorem find?_field (distinct : (parts.map Part.name).Nodup) {part : Part σ α levels}
    (isPart : part ∈ parts) :
    (parts.map Part.field).find? (fun field => field.name = part.name) = some part.field := by
  rw [List.find?_map, Option.map_eq_some_iff]
  refine ⟨part, ?_, rfl⟩
  cases isFound : parts.find? ((fun field => field.name = part.name) ∘ Part.field) with
  | none =>
      rw [List.find?_eq_none] at isFound
      exact absurd (decide_eq_true rfl) (isFound part isPart)
  | some other =>
      have named : other.name = part.name := by
        have holds := List.find?_some isFound
        exact of_decide_eq_true holds
      rw [List.inj_on_of_nodup_map distinct (List.mem_of_find?_eq_some isFound) isPart named]

/-- A member is filled in that was written for a field. -/
theorem readMember_known (distinct : (parts.map Part.name).Nodup) {part : Part σ α levels}
    (isPart : part ∈ parts) {value : α} {json : Json} {depth : Nat} {draft : σ}
    (enough : levels ≤ depth) (isWritten : part.written value (some json))
    (fresh : part.look draft = none) :
    ∃ content, part.agrees value (some content) ∧
      Decoder.readMember (parts.map Part.field) depth draft (some part.name, reread json) =
        .ok (part.put draft content) := by
  rcases part.present value json depth isWritten enough with ⟨content, read, agrees⟩
  refine ⟨content, agrees, ?_⟩
  rw [readMember_some, find?_field distinct isPart]
  simp [fresh, Part.field, Decoder.FieldOf.read, Decoder.FieldOf.of, Decoder.map, read, Except.map]

/-- A record whose fields are written in some order is filled in as it should be. -/
theorem exists_filled (distinct : (parts.map Part.name).Nodup)
    (apart : parts.Pairwise fun part other => part.Spares other ∧ other.Spares part) {value : α}
    {depth : Nat} (enough : levels ≤ depth) (members : List (String × Json)) :
    ∀ draft, (∀ part ∈ parts, part.Awaits value members draft) →
      ∃ filled, (rereadMembers members).foldlM
          (Decoder.readMember (parts.map Part.field) depth) draft = .ok filled ∧
        ∀ part ∈ parts, part.agrees value (part.look filled) := by
  have symmetric : Std.Symm fun part other : Part σ α levels =>
      part.Spares other ∧ other.Spares part := ⟨fun _ _ both => both.symm⟩
  induction members with
  | nil =>
      intro draft awaits
      refine ⟨draft, rfl, fun part member => ?_⟩
      rcases awaits part member with ⟨-, agrees⟩ | ⟨json, impossible, -⟩
      · exact agrees
      · cases impossible
  | cons head members ih =>
      rcases head with ⟨name, json⟩
      intro draft awaits
      simp only [rereadMembers, List.foldlM_cons]
      by_cases known : ∃ part ∈ parts, part.name = name
      · rcases known with ⟨part, isPart, rfl⟩
        rcases awaits part isPart with ⟨impossible, -⟩ | ⟨content, isNext, isWritten, fresh⟩
        · simp at impossible
        · simp only [List.filter_cons, decide_true, if_true, List.cons.injEq, Prod.mk.injEq,
            true_and] at isNext
          rcases isNext with ⟨rfl, noMore⟩
          rcases readMember_known distinct isPart enough isWritten fresh with
            ⟨content, agrees, read⟩
          rw [read]
          refine ih _ fun other isOther => ?_
          by_cases same : other = part
          · subst same
            exact Or.inl ⟨noMore, by rwa [other.look_put]⟩
          · have differ : part.name ≠ other.name := fun named =>
              same (List.inj_on_of_nodup_map distinct isPart isOther named).symm
            have spared : other.look (part.put draft content) = other.look draft :=
              (apart.forall isPart isOther (Ne.symm same)).1 draft content
            have awaited := awaits other isOther
            simpa [Part.Awaits, List.filter_cons, differ, spared] using awaited
      · have unknown : ∀ part ∈ parts, part.name ≠ name := by
          intro part isPart named
          exact known ⟨part, isPart, named⟩
        rw [readMember_unknown unknown]
        refine ih draft fun part isPart => ?_
        have awaited := awaits part isPart
        simpa [Part.Awaits, List.filter_cons, Ne.symm (unknown part isPart)] using awaited

/-- Only fields are written. -/
theorem Written.filter_foreign {value : α} {slots : List (Slot α)} {known : List (String × Json)}
    (written : Written value slots known) {name : String} (foreign : name ∉ slots.map Slot.name) :
    known.filter (fun member => member.1 = name) = [] := by
  induction written with
  | nil => rfl
  | present _ _ ih =>
      rw [List.map_cons, List.mem_cons, not_or] at foreign
      simp [Ne.symm foreign.1, ih foreign.2]
  | absent _ _ ih =>
      rw [List.map_cons, List.mem_cons, not_or] at foreign
      exact ih foreign.2

/-- What is written for the fields is, for each of them, one member or none. -/
theorem Written.filter_eq {value : α} {slots : List (Slot α)} {known : List (String × Json)}
    (written : Written value slots known) (distinct : (slots.map Slot.name).Nodup) :
    ∀ slot ∈ slots, ∃ json, known.filter (fun member => member.1 = slot.name) =
      (json.map fun json => (slot.name, json)).toList ∧ slot.written value json := by
  induction written with
  | nil => simp
  | @present head slots json members isWritten others ih =>
      rcases List.nodup_cons.1 distinct with ⟨fresh, distinct⟩
      intro slot isSlot
      rcases List.mem_cons.1 isSlot with rfl | isOther
      · exact ⟨some json, by simp [others.filter_foreign fresh], isWritten⟩
      · have differ : head.name ≠ slot.name := fun same =>
          fresh (same ▸ List.mem_map_of_mem isOther)
        simpa [List.filter_cons, differ] using ih distinct slot isOther
  | @absent head slots members isLeftOut others ih =>
      rcases List.nodup_cons.1 distinct with ⟨fresh, distinct⟩
      intro slot isSlot
      rcases List.mem_cons.1 isSlot with rfl | isOther
      · exact ⟨none, by simp [others.filter_foreign fresh], isLeftOut⟩
      · exact ih distinct slot isOther

/-- At first everything is awaited that was written. -/
theorem awaits_of_written (distinct : (parts.map Part.name).Nodup) {value : α}
    {members known unknown : List (String × Json)} (reordered : members.Perm (known ++ unknown))
    (written : Written value (parts.map Part.slot) known)
    (areUnknown : ∀ member ∈ unknown, ∀ slot ∈ parts.map Part.slot, member.1 ≠ slot.name)
    {draft : σ} (fresh : ∀ part ∈ parts, part.look draft = none) :
    ∀ part ∈ parts, part.Awaits value members draft := by
  intro part isPart
  have isSlot : part.slot ∈ parts.map Part.slot := List.mem_map_of_mem isPart
  have names : (parts.map Part.slot).map Slot.name = parts.map Part.name := by
    rw [List.map_map]
    rfl
  rcases written.filter_eq (by rwa [names]) part.slot isSlot with ⟨json, isKnown, isWritten⟩
  have noUnknown : unknown.filter (fun member => member.1 = part.name) = [] := by
    rw [List.filter_eq_nil_iff]
    intro member isMember
    have differs : member.1 ≠ part.name := areUnknown member isMember part.slot isSlot
    simpa using differs
  have same := reordered.filter fun member => member.1 = part.name
  rw [List.filter_append, noUnknown, List.append_nil] at same
  have isKnown : known.filter (fun member => member.1 = part.name) =
    (json.map fun json => (part.name, json)).toList := isKnown
  rw [isKnown] at same
  cases json with
  | none =>
      refine Or.inl ⟨List.perm_nil.1 same, ?_⟩
      rw [fresh part isPart]
      exact part.absent value isWritten
  | some json => exact Or.inr ⟨json, List.perm_singleton.1 same, isWritten, fresh part isPart⟩

/-- A decoder of records reads what is written of the fields that it fills in. -/
theorem Decoder.Reads.record (parts : List (Part σ α levels))
    (distinct : (parts.map Part.name).Nodup)
    (apart : parts.Pairwise fun part other => part.Spares other ∧ other.Spares part) {start : σ}
    (fresh : ∀ part ∈ parts, part.look start = none) {finish : σ → Option α}
    (finishes : ∀ value filled, (∀ part ∈ parts, part.agrees value (part.look filled)) →
      finish filled = some value) :
    (Decoder.record (parts.map Part.field) start finish).Reads (levels + 1)
      (.record (parts.map Part.slot)) := by
  rintro value _ depth ⟨members, known, unknown, rfl, reordered, written, areUnknown⟩ enough
  obtain ⟨depth, rfl⟩ : ∃ less, depth = less + 1 := ⟨depth - 1, by omega⟩
  have awaits := awaits_of_written distinct reordered written areUnknown fresh
  rcases exists_filled distinct apart (Nat.le_of_succ_le_succ enough) members start awaits with
    ⟨filled, read, agree⟩
  simp only [reread, Decoder.record, read]
  change (match finish filled with
    | some value => Except.ok value
    | none => Except.error DecodeFault.mismatched) = .ok value
  rw [finishes value filled agree]

/-- A text in which a value is spelled is decoded as the value. -/
theorem Decoder.Reads.runText {decoder : Decoder α} {spelling : Spelling α}
    (reads : decoder.Reads levels spelling) (enough : levels ≤ maxDepth) {value : α} {json : Json}
    (spelled : spelling value json) : decoder.runText json.render = .ok value := by
  rw [Decoder.runText_render]
  exact reads value json maxDepth spelled enough

/--
Every value is spelled by what it is encoded as, and every text in which it is spelled is decoded as
the value.
-/
structure Decoder.ReadsBack (decoder : Decoder α) (encode : α → Json) (spelling : Spelling α) :
    Prop where
  spelled : ∀ value, spelling value (encode value)
  read : ∀ value json, spelling value json → decoder.runText json.render = .ok value

/-! ### The way that values are written -/

namespace Written

variable {value : α} {slots : List (Slot α)} {members more : List (String × Json)}
  {name : String}

theorem cons {slot : Slot α} (written : Written value [slot] members)
    (others : Written value slots more) : Written value (slot :: slots) (members ++ more) := by
  cases written with
  | present isWritten nothing =>
      cases nothing
      exact .present isWritten others
  | absent isLeftOut nothing =>
      cases nothing
      exact .absent isLeftOut others

theorem required {get : α → β} {spelling : Spelling β} {json : Json}
    (spelled : spelling (get value) json) (others : Written value slots members) :
    Written value (.required name get spelling :: slots) ((name, json) :: members) :=
  .present ⟨json, rfl, spelled⟩ others

theorem optional {get : α → Option β} {spelling : Spelling β} {encode : β → Json}
    (spelled : ∀ content, get value = some content → spelling content (encode content)) :
    Written value [.optional name get spelling] (Json.member name encode (get value)) := by
  cases isContent : get value with
  | none => exact .absent (by simp [Slot.optional, isContent]) .nil
  | some content =>
      have isWritten : (Slot.optional name get spelling).written value (some (encode content)) := by
        simp [Slot.optional, isContent, spelled content isContent]
      exact .present isWritten .nil

theorem defaulted {get : α → List β} {spelling : Spelling (List β)} {json : Json}
    (spelled : spelling (get value) json) : Written value [.defaulted name get [] spelling]
      (if (get value).isEmpty then [] else [(name, json)]) := by
  cases isEmpty : (get value).isEmpty with
  | true => exact .absent (Or.inr ⟨rfl, List.isEmpty_iff.1 isEmpty⟩) .nil
  | false => exact .present (Or.inl ⟨json, rfl, spelled⟩) .nil

theorem record (written : Written value slots members) :
    Spelling.record slots value (.object members) :=
  ⟨members, members, [], rfl, by simp, written, by simp⟩

/-- A field that was left out may be written as well. -/
theorem exists_more {slot : Slot α} {json : Json} (isWritten : slot.written value (some json))
    (written : Written value slots members) (isSlot : slot ∈ slots)
    (missing : slot.name ∉ members.map Prod.fst) :
    ∃ more, Written value slots more ∧ ((slot.name, json) :: members).Perm more := by
  induction written with
  | nil => cases isSlot
  | @present head slots content members headWritten others ih =>
      rw [List.map_cons, List.mem_cons, not_or] at missing
      rcases List.mem_cons.1 isSlot with rfl | isOther
      · exact absurd rfl missing.1
      · rcases ih isOther missing.2 with ⟨more, written, reordered⟩
        exact ⟨_, .present headWritten written, (List.Perm.swap _ _ _).trans (reordered.cons _)⟩
  | @absent head slots members isLeftOut others ih =>
      rcases List.mem_cons.1 isSlot with rfl | isOther
      · exact ⟨_, .present isWritten others, .refl _⟩
      · rcases ih isOther missing with ⟨more, written, reordered⟩
        exact ⟨more, .absent isLeftOut written, reordered⟩

end Written

namespace Spelling

variable {value : α} {slots : List (Slot α)} {members : List (String × Json)}

/-- The members of a record may be reordered. -/
theorem record_reordered {others : List (String × Json)} (reordered : others.Perm members)
    (spelled : record slots value (.object members)) : record slots value (.object others) := by
  rcases spelled with ⟨_, known, unknown, ⟨⟩, same, written, areUnknown⟩
  exact ⟨others, known, unknown, rfl, reordered.trans same, written, areUnknown⟩

/-- A member with an unknown name may be added. -/
theorem record_unknown {name : String} (isUnknown : ∀ slot ∈ slots, name ≠ slot.name) (json : Json)
    (spelled : record slots value (.object members)) :
    record slots value (.object ((name, json) :: members)) := by
  rcases spelled with ⟨_, known, unknown, ⟨⟩, same, written, areUnknown⟩
  refine ⟨_, known, (name, json) :: unknown, rfl, ?_, written, ?_⟩
  · exact (same.cons _).trans List.perm_middle.symm
  · exact List.forall_mem_cons.2 ⟨isUnknown, areUnknown⟩

/-- An absent field that was left out may be written as null. -/
theorem record_null {name : String} {get : α → Option β} {content : Spelling β}
    (isSlot : Slot.optional name get content ∈ slots) (isAbsent : get value = none)
    (missing : name ∉ members.map Prod.fst) (spelled : record slots value (.object members)) :
    record slots value (.object ((name, .null) :: members)) := by
  rcases spelled with ⟨_, known, unknown, ⟨⟩, same, written, areUnknown⟩
  have stillMissing : name ∉ known.map Prod.fst := fun present =>
    missing (((same.map Prod.fst).mem_iff).2 (by simp [present]))
  have isNull : (Slot.optional name get content).written value (some .null) := by
    simp [Slot.optional, isAbsent]
  rcases written.exists_more isNull isSlot stillMissing with ⟨more, written, reordered⟩
  refine ⟨_, more, unknown, rfl, ?_, written, areUnknown⟩
  exact (same.cons _).trans (reordered.append_right unknown)

theorem list_map {spelling : Spelling α} {encode : α → Json} {values : List α}
    (spelled : ∀ value ∈ values, spelling value (encode value)) :
    list spelling values (.array (values.map encode)) :=
  ⟨_, rfl, List.forall₂_map_right_iff.2 (List.forall₂_same.2 spelled)⟩

theorem table_ofTable [OrderedKey κ] {name : κ → String} {spelling : Spelling α}
    {encode : α → Json} (spelled : ∀ value, spelling value (encode value)) (map : SortedMap κ α) :
    table name spelling map (Json.ofTable name encode map) := by
  refine ⟨_, _, rfl, .refl _, List.forall₂_map_right_iff.2 (List.forall₂_same.2 ?_)⟩
  exact fun entry _ => ⟨rfl, spelled entry.2⟩

end Spelling

end AvControl.Json

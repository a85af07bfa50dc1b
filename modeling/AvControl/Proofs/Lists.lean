import Mathlib.Data.List.Forall2
import Mathlib.Data.List.TakeWhile

/-!
# Lists that go side by side

Sessions go on side by side with those that they were, tasks belong to targets, and answers to
requests. This file collects what is needed about such pairs of lists, and about lists that are cut
in two.
-/

namespace AvControl

theorem forall₂_trans {α β γ : Type} {R : α → β → Prop} {S : β → γ → Prop} {T : α → γ → Prop}
    {as : List α} {bs : List β} {cs : List γ} (earlier : List.Forall₂ R as bs)
    (later : List.Forall₂ S bs cs) (compose : ∀ a b c, R a b → S b c → T a c) :
    List.Forall₂ T as cs := by
  induction earlier generalizing cs with
  | nil =>
      cases later
      exact .nil
  | cons head _ ih =>
      cases later with
      | cons head' rest' => exact .cons (compose _ _ _ head head') (ih rest')

theorem forall₂_and_right {α β : Type} {R : α → β → Prop} {property : β → Prop} {as : List α}
    {bs : List β} (related : List.Forall₂ R as bs) (all : ∀ b ∈ bs, property b) :
    List.Forall₂ (fun a b => R a b ∧ property b) as bs := by
  induction related with
  | nil => exact .nil
  | cons head _ ih =>
      rcases List.forall_mem_cons.1 all with ⟨first, others⟩
      exact .cons ⟨head, first⟩ (ih others)

theorem mem_left_of_forall₂ {α β : Type} {R : α → β → Prop} {as : List α} {bs : List β}
    (related : List.Forall₂ R as bs) {a : α} (member : a ∈ as) : ∃ b ∈ bs, R a b := by
  induction related with
  | nil => simp at member
  | cons head _ ih =>
      rcases List.mem_cons.1 member with rfl | inRest
      · exact ⟨_, by simp, head⟩
      · rcases ih inRest with ⟨b, isB, related⟩
        exact ⟨b, List.mem_cons_of_mem _ isB, related⟩

theorem getElem?_of_forall₂ {α β : Type} {R : α → β → Prop} {as : List α} {bs : List β}
    (related : List.Forall₂ R as bs) {i : Nat} {a : α} {b : β} (isA : as[i]? = some a)
    (isB : bs[i]? = some b) : R a b := by
  rcases List.getElem?_eq_some_iff.1 isA with ⟨insideA, rfl⟩
  rcases List.getElem?_eq_some_iff.1 isB with ⟨insideB, rfl⟩
  exact (List.forall₂_iff_get.1 related).2 i insideA insideB

theorem mem_right_of_forall₂ {α β : Type} {R : α → β → Prop} {as : List α} {bs : List β}
    (related : List.Forall₂ R as bs) {b : β} (member : b ∈ bs) : ∃ a ∈ as, R a b :=
  mem_left_of_forall₂ related.flip member

theorem forall₂_concat_iff {α β : Type} {R : α → β → Prop} {as : List α} {bs : List β} {a : α}
    {b : β} : List.Forall₂ R (as ++ [a]) (bs ++ [b]) ↔ List.Forall₂ R as bs ∧ R a b := by
  rw [← List.forall₂_reverse_iff]
  simp [and_comm]

theorem countP_le_of_forall₂ {α β : Type} {R : α → β → Prop} {p : α → Bool} {q : β → Bool}
    {as : List α} {bs : List β} (related : List.Forall₂ R as bs)
    (implies : ∀ a b, R a b → q b = true → p a = true) : bs.countP q ≤ as.countP p := by
  induction related with
  | nil => rfl
  | @cons a b _ _ head _ ih =>
      have first := implies a b head
      rw [List.countP_cons, List.countP_cons]
      cases isQ : q b with
      | false => simp; omega
      | true => simp [first isQ]; omega

/-- A property that is not gained anywhere and lost somewhere is rarer. -/
theorem countP_lt_of_forall₂ {α β : Type} {R : α → β → Prop} {p : α → Bool} {q : β → Bool}
    {as : List α} {bs : List β} (related : List.Forall₂ R as bs)
    (implies : ∀ a b, R a b → q b = true → p a = true) {a : α} (member : a ∈ as)
    (isP : p a = true) (lost : ∀ b, R a b → q b = false) : bs.countP q < as.countP p := by
  induction related with
  | nil => cases member
  | @cons a' b as' bs' head rest ih =>
      have first := implies a' b head
      rw [List.countP_cons, List.countP_cons]
      rcases List.mem_cons.1 member with rfl | inRest
      · have fewer := countP_le_of_forall₂ rest implies
        simp [isP, lost b head]
        omega
      · have fewer := ih inRest
        cases isQ : q b with
        | false => simp; omega
        | true => simp [first isQ]; omega

theorem map_eq_of_forall₂ {α β γ : Type} {f : α → γ} {g : β → γ} {as : List α} {bs : List β}
    (related : List.Forall₂ (fun a b => g b = f a) as bs) : bs.map g = as.map f := by
  induction related with
  | nil => rfl
  | cons head _ ih => rw [List.map_cons, List.map_cons, head, ih]

theorem forall₂_of_mapM {α β ε : Type} {f : α → Except ε β} {as : List α} :
    ∀ {bs : List β}, as.mapM f = .ok bs → List.Forall₂ (fun a b => f a = .ok b) as bs := by
  induction as with
  | nil =>
      intro bs mapped
      obtain rfl : [] = bs := by simpa [pure, Except.pure] using mapped
      exact .nil
  | cons a rest ih =>
      intro bs mapped
      rw [List.mapM_cons] at mapped
      cases first : f a with
      | error error => simp [first, bind, Except.bind] at mapped
      | ok b =>
          cases others : rest.mapM f with
          | error error => simp [first, others, bind, Except.bind] at mapped
          | ok bs' =>
              simp only [first, others, bind, Except.bind, pure, Except.pure,
                Except.ok.injEq] at mapped
              subst mapped
              exact .cons first (ih others)

theorem forall₂_of_mapM_option {α β : Type} {f : α → Option β} {as : List α} :
    ∀ {bs : List β}, as.mapM f = some bs → List.Forall₂ (fun a b => f a = some b) as bs := by
  induction as with
  | nil =>
      intro bs mapped
      obtain rfl : [] = bs := by simpa using mapped
      exact .nil
  | cons a rest ih =>
      intro bs mapped
      simp only [List.mapM_cons, Option.bind_eq_bind, Option.bind_eq_some_iff, Option.pure_def,
        Option.some.injEq] at mapped
      rcases mapped with ⟨b, first, bs', others, rfl⟩
      exact .cons first (ih others)

theorem exists_of_mapM_eq_none {α β : Type} {f : α → Option β} {as : List α}
    (failed : as.mapM f = none) : ∃ a ∈ as, f a = none := by
  induction as with
  | nil => cases failed
  | cons a rest ih =>
      cases first : f a with
      | none => exact ⟨a, List.mem_cons_self, first⟩
      | some b =>
          have others : rest.mapM f = none := by
            cases others : rest.mapM f with
            | none => rfl
            | some bs => simp [List.mapM_cons, first, others] at failed
          rcases ih others with ⟨a', member, isNone⟩
          exact ⟨a', List.mem_cons_of_mem _ member, isNone⟩

theorem exists_mapM {α β ε : Type} {f : α → Except ε β} {as : List α}
    (all : ∀ a ∈ as, ∃ b, f a = .ok b) : ∃ bs, as.mapM f = .ok bs := by
  induction as with
  | nil => exact ⟨[], rfl⟩
  | cons a rest ih =>
      rcases List.forall_mem_cons.1 all with ⟨⟨b, first⟩, others⟩
      rcases ih others with ⟨bs, mapped⟩
      exact ⟨b :: bs, by rw [List.mapM_cons, first, mapped]; rfl⟩

/-- Taking a list through a check fails at the first entry that does not pass. -/
theorem mapM_eq_error_iff {α β ε : Type} {f : α → Except ε β} {as : List α} {error : ε} :
    as.mapM f = .error error ↔ ∃ front a back, as = front ++ a :: back ∧
      (∀ b ∈ front, ∃ c, f b = .ok c) ∧ f a = .error error := by
  induction as with
  | nil => simp [pure, Except.pure]
  | cons a rest ih =>
      rw [List.mapM_cons]
      cases first : f a with
      | error error' =>
          simp only [bind, Except.bind, Except.error.injEq]
          constructor
          · rintro rfl
            exact ⟨[], a, rest, rfl, by simp, first⟩
          · rintro ⟨_ | ⟨b, front⟩, a', back, same, passed, failed⟩
            · obtain ⟨rfl, rfl⟩ := List.cons.inj same
              exact Except.error.inj (first.symm.trans failed)
            · obtain ⟨rfl, -⟩ := List.cons.inj same
              rcases passed a List.mem_cons_self with ⟨c, isOk⟩
              cases first.symm.trans isOk
      | ok b =>
          have others : (do let bs ← rest.mapM f; pure (b :: bs) : Except ε (List β)) =
              .error error ↔ rest.mapM f = .error error := by
            cases rest.mapM f <;> simp [bind, Except.bind, pure, Except.pure]
          simp only [bind, Except.bind] at others ⊢
          rw [others, ih]
          constructor
          · rintro ⟨front, a', back, rfl, passed, failed⟩
            exact ⟨a :: front, a', back, rfl, List.forall_mem_cons.2 ⟨⟨b, first⟩, passed⟩, failed⟩
          · rintro ⟨_ | ⟨a', front⟩, a'', back, same, passed, failed⟩
            · obtain ⟨rfl, rfl⟩ := List.cons.inj same
              cases first.symm.trans failed
            · obtain ⟨rfl, rfl⟩ := List.cons.inj same
              exact ⟨front, a'', back, rfl, fun c isC => passed c (List.mem_cons_of_mem _ isC),
                failed⟩

theorem flatMap_of_mem {α β γ : Type} {entries : List (α × β)} {contribute : α × β → List γ}
    (distinct : (entries.map Prod.fst).Nodup) {entry : α × β} (member : entry ∈ entries)
    (silent : ∀ other ∈ entries, other.1 ≠ entry.1 → contribute other = []) :
    entries.flatMap contribute = contribute entry := by
  induction entries with
  | nil => simp at member
  | cons head rest ih =>
      rcases List.nodup_cons.1 distinct with ⟨fresh, others⟩
      rw [List.flatMap_cons]
      rcases List.mem_cons.1 member with rfl | inRest
      · have nothing : rest.flatMap contribute = [] := by
          apply List.flatMap_eq_nil_iff.2
          intro other inRest
          refine silent other (List.mem_cons_of_mem _ inRest) fun same => fresh ?_
          exact List.mem_map.2 ⟨other, inRest, same⟩
        rw [nothing, List.append_nil]
      · have headSilent : contribute head = [] := by
          refine silent head (by simp) fun same => fresh ?_
          exact List.mem_map.2 ⟨entry, inRest, same.symm⟩
        rw [headSilent, List.nil_append]
        exact ih others inRest fun other inRest => silent other (List.mem_cons_of_mem _ inRest)

theorem filter_eq_singleton {α κ : Type} [DecidableEq κ] (key : α → κ) {entries : List α}
    (distinct : (entries.map key).Nodup) {entry : α} (member : entry ∈ entries) :
    (entries.filter fun other => key other = key entry) = [entry] := by
  induction entries with
  | nil => simp at member
  | cons head rest ih =>
      rcases List.nodup_cons.1 distinct with ⟨fresh, others⟩
      rcases List.mem_cons.1 member with rfl | inRest
      · have nothing : (rest.filter fun other => key other = key entry) = [] := by
          refine List.filter_eq_nil_iff.2 fun other inRest same => fresh ?_
          exact List.mem_map.2 ⟨other, inRest, by simpa using same⟩
        simp [nothing]
      · have differs : key head ≠ key entry := fun same =>
          fresh (List.mem_map.2 ⟨entry, inRest, same.symm⟩)
        simp [differs, ih others inRest]

theorem getElem?_rel {α β : Type} {R : α → β → Prop} {as : List α} {bs : List β}
    (related : List.Forall₂ R as bs) (i : Nat) : Option.Rel R as[i]? bs[i]? := by
  induction related generalizing i with
  | nil => exact .none
  | cons head _ ih =>
      cases i with
      | zero => exact .some head
      | succ i => exact ih i

theorem forall₂_modify {α β : Type} {R : α → β → Prop} {f : α → α} {g : β → β} {as : List α}
    {bs : List β} (related : List.Forall₂ R as bs) (kept : ∀ a b, R a b → R (f a) (g b)) (i : Nat) :
    List.Forall₂ R (as.modify i f) (bs.modify i g) := by
  induction related generalizing i with
  | nil => simp
  | cons head rest ih =>
      cases i with
      | zero => exact .cons (kept _ _ head) rest
      | succ i => exact .cons head (ih i)

theorem forall₂_set {α β : Type} {R : α → β → Prop} {as : List α} {bs : List β} {a : α} {b : β}
    (related : List.Forall₂ R as bs) (new : R a b) (i : Nat) :
    List.Forall₂ R (as.set i a) (bs.set i b) := by
  induction related generalizing i with
  | nil => exact .nil
  | cons head rest ih =>
      cases i with
      | zero => exact .cons new rest
      | succ i => exact .cons head (ih i)

theorem flatMap_zipIdx_congr {α β γ : Type} {R : α → β → Prop} {as : List α} {bs : List β}
    (related : List.Forall₂ R as bs) {f : α × Nat → List γ} {g : β × Nat → List γ}
    (same : ∀ a b i, R a b → f (a, i) = g (b, i)) (first : Nat) :
    (as.zipIdx first).flatMap f = (bs.zipIdx first).flatMap g := by
  induction related generalizing first with
  | nil => rfl
  | cons head _ ih =>
      rw [List.zipIdx_cons, List.zipIdx_cons, List.flatMap_cons, List.flatMap_cons, same _ _ _ head,
        ih]

theorem any_congr {α β : Type} {R : α → β → Prop} {as : List α} {bs : List β}
    (related : List.Forall₂ R as bs) {f : α → Bool} {g : β → Bool}
    (same : ∀ a b, R a b → f a = g b) : as.any f = bs.any g := by
  induction related with
  | nil => rfl
  | cons head _ ih => rw [List.any_cons, List.any_cons, same _ _ head, ih]

theorem all_congr {α β : Type} {R : α → β → Prop} {as : List α} {bs : List β}
    (related : List.Forall₂ R as bs) {f : α → Bool} {g : β → Bool}
    (same : ∀ a b, R a b → f a = g b) : as.all f = bs.all g := by
  induction related with
  | nil => rfl
  | cons head _ ih => rw [List.all_cons, List.all_cons, same _ _ head, ih]

theorem mem_flatMap_congr {α β γ : Type} {R : α → β → Prop} {as : List α} {bs : List β}
    (related : List.Forall₂ R as bs) {f : α → List γ} {g : β → List γ} {c : γ}
    (same : ∀ a b, R a b → (c ∈ f a ↔ c ∈ g b)) : c ∈ as.flatMap f ↔ c ∈ bs.flatMap g := by
  induction related with
  | nil => simp
  | cons head _ ih => simp only [List.flatMap_cons, List.mem_append, same _ _ head, ih]

/-- When one entry is replaced, something holds of an entry as before, or because of the new one. -/
theorem exists_mem_set {α : Type} {before after : α → Prop} {gained : Prop} {entries : List α}
    {j : Nat} {old new : α} (isOld : entries[j]? = some old)
    (others : ∀ k entry, k ≠ j → entries[k]? = some entry → (after entry ↔ before entry))
    (here : after new ↔ before old ∨ gained) :
    (∃ entry ∈ entries.set j new, after entry) ↔ (∃ entry ∈ entries, before entry) ∨ gained := by
  induction entries generalizing j with
  | nil => cases isOld
  | cons head rest ih =>
      cases j with
      | zero =>
          obtain rfl := Option.some.inj isOld
          have sameRest : (∃ entry ∈ rest, after entry) ↔ ∃ entry ∈ rest, before entry := by
            refine exists_congr fun entry => and_congr_right fun member => ?_
            rcases List.mem_iff_getElem?.1 member with ⟨k, isEntry⟩
            exact others (k + 1) entry (Nat.succ_ne_zero k) isEntry
          rw [List.set_cons_zero, List.exists_mem_cons_iff, List.exists_mem_cons_iff, here,
            sameRest, or_right_comm]
      | succ j =>
          have inRest := ih isOld fun k entry differs isEntry =>
            others (k + 1) entry (fun same => differs (Nat.succ.inj same)) isEntry
          rw [List.set_cons_succ, List.exists_mem_cons_iff, List.exists_mem_cons_iff, inRest,
            others 0 head (Nat.succ_ne_zero j).symm rfl, or_assoc]

/-- Two lists have the same entries when they have the same keys and no key has two entries. -/
theorem perm_of_map_perm {α β : Type} {key : α → β} {as bs : List α}
    (same : (as.map key).Perm (bs.map key)) (unique : ∀ a ∈ as, ∀ b ∈ bs, key a = key b → a = b) :
    as.Perm bs := by
  induction as generalizing bs with
  | nil => exact List.Perm.of_eq (List.map_eq_nil_iff.1 (List.nil_perm.1 same)).symm
  | cons a rest ih =>
      rcases List.mem_map.1 (same.subset (List.mem_map.2 ⟨a, List.mem_cons_self, rfl⟩)) with
        ⟨b, member, sameKey⟩
      obtain rfl : a = b := unique a List.mem_cons_self b member sameKey.symm
      rcases List.append_of_mem member with ⟨front, back, rfl⟩
      have others : (rest.map key).Perm ((front ++ back).map key) := by
        refine List.Perm.cons_inv (same.trans ?_)
        simp
      refine ((ih others fun a' inRest b' inOthers => ?_).cons a).trans List.perm_middle.symm
      refine unique a' (List.mem_cons_of_mem _ inRest) b' ?_
      exact List.perm_middle.symm.subset (List.mem_cons_of_mem a inOthers)

/-! ### Cutting a list in two -/

theorem takeWhile_ne {α : Type} [DecidableEq α] {a : α} {before after : List α}
    (fresh : a ∉ before) : (before ++ a :: after).takeWhile (· ≠ a) = before := by
  rw [List.takeWhile_append_of_pos fun b isBefore => by
    simpa using ne_of_mem_of_not_mem isBefore fresh]
  simp

theorem dropWhile_ne {α : Type} [DecidableEq α] {a : α} {before after : List α}
    (fresh : a ∉ before) : (before ++ a :: after).dropWhile (· ≠ a) = a :: after := by
  rw [List.dropWhile_append_of_pos fun b isBefore => by
    simpa using ne_of_mem_of_not_mem isBefore fresh]
  simp

theorem takeWhile_ne_of_notMem {α : Type} [DecidableEq α] {a : α} {entries : List α}
    (fresh : a ∉ entries) : entries.takeWhile (· ≠ a) = entries := by
  apply List.takeWhile_eq_self_iff.2
  intro b isInside
  simpa using ne_of_mem_of_not_mem isInside fresh

theorem dropWhile_ne_of_notMem {α : Type} [DecidableEq α] {a : α} {entries : List α}
    (fresh : a ∉ entries) : entries.dropWhile (· ≠ a) = [] := by
  apply List.dropWhile_eq_nil_iff.2
  intro b isInside
  simpa using ne_of_mem_of_not_mem isInside fresh

/-- There is only one way to cut a list at the first entry of a kind. -/
theorem cut_first_inj {α : Type} [DecidableEq α] {a : α} {before before' after after' : List α}
    (fresh : a ∉ before) (fresh' : a ∉ before')
    (same : before ++ a :: after = before' ++ a :: after') : before = before' ∧ after = after' := by
  have sameBefore := congrArg (List.takeWhile (· ≠ a)) same
  have sameAfter := congrArg (List.dropWhile (· ≠ a)) same
  rw [takeWhile_ne fresh, takeWhile_ne fresh'] at sameBefore
  rw [dropWhile_ne fresh, dropWhile_ne fresh'] at sameAfter
  exact ⟨sameBefore, (List.cons.inj sameAfter).2⟩

/-- There is only one way to cut a list at the last entry of a kind. -/
theorem cut_last_inj {α : Type} [DecidableEq α] {a : α} {before before' after after' : List α}
    (fresh : a ∉ after) (fresh' : a ∉ after')
    (same : before ++ a :: after = before' ++ a :: after') : before = before' ∧ after = after' := by
  have turned := congrArg List.reverse same
  rw [List.reverse_append, List.reverse_append, List.reverse_cons, List.reverse_cons,
    List.append_assoc, List.append_assoc] at turned
  rcases cut_first_inj (by simpa using fresh) (by simpa using fresh') turned with
    ⟨sameAfter, sameBefore⟩
  exact ⟨List.reverse_injective sameBefore, List.reverse_injective sameAfter⟩

/-- Where a list that ends in an entry can be cut in front of one of its entries. -/
theorem concat_eq_append_cons_iff {α : Type} {entries front back : List α} {last a : α} :
    entries ++ [last] = front ++ a :: back ↔
      back = [] ∧ entries = front ∧ last = a ∨
        ∃ between, back = between ++ [last] ∧ entries = front ++ a :: between := by
  constructor
  · intro same
    rcases List.eq_nil_or_concat back with rfl | ⟨between, final, rfl⟩
    · rcases List.append_inj' same rfl with ⟨rfl, isLast⟩
      exact Or.inl ⟨rfl, rfl, (List.cons.inj isLast).1⟩
    · rw [List.concat_eq_append, ← List.cons_append, ← List.append_assoc] at same
      rcases List.append_inj' same rfl with ⟨rfl, isLast⟩
      rcases List.cons.inj isLast with ⟨rfl, -⟩
      exact Or.inr ⟨between, List.concat_eq_append, rfl⟩
  · rintro (⟨rfl, rfl, rfl⟩ | ⟨between, rfl, rfl⟩)
    · rfl
    · simp

end AvControl

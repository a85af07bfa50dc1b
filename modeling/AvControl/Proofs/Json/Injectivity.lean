import AvControl.Proofs.Json.Reading

/-!
# Values are told apart by their texts

Reading back what was written recovers everything of a value but its numbers, which may have been
rounded. Integers are written with all their digits, however many, so that values whose numbers are
integers have different texts as soon as they are different.
-/

namespace AvControl.Json

open Document (reread rereadItems rereadMembers)

mutual

/-- Every number inside the value is an integer. -/
def IsIntegral : Json → Prop
  | .number (.binary64 _) => False
  | .array items => ItemsIntegral items
  | .object members => MembersIntegral members
  | .null | .bool _ | .number (.integer _) | .string _ => True

/-- Every number inside the listed values is an integer. -/
def ItemsIntegral : List Json → Prop
  | [] => True
  | item :: rest => IsIntegral item ∧ ItemsIntegral rest

/-- Every number inside the values of the members is an integer. -/
def MembersIntegral : List (String × Json) → Prop
  | [] => True
  | (_, value) :: rest => IsIntegral value ∧ MembersIntegral rest

end

/-- The digits of an integer are those of no other one. -/
theorem toString_int_injective {a b : Int} (same : (toString a).toList = (toString b).toList) :
    a = b := by
  have read (value : Int) := readNumeral_append (wellFormed_ofInt value) follows_nil
  have numerals : Numeral.ofInt a = Numeral.ofInt b := by
    have reads := read a
    rw [text_ofInt, same, ← text_ofInt, read b] at reads
    exact (congrArg Prod.fst (Option.some.inj reads)).symm
  have sign : decide (a < 0) = decide (b < 0) := congrArg Numeral.negative numerals
  have digits : Nat.toDigits 10 a.natAbs = Nat.toDigits 10 b.natAbs :=
    congrArg Numeral.integer numerals
  have size : a.natAbs = b.natAbs := by
    rw [← digitsValue_toDigits a.natAbs, digits, digitsValue_toDigits]
  rw [decide_eq_decide] at sign
  omega

/-- No value has an empty text. -/
theorem render_ne_empty (value : Json) : value.render ≠ "" := by
  rcases exists_head_renderChars value with ⟨c, rest, isText, -⟩
  simp [render, isText]

/-- What follows a value in a text does not depend on how the text is cut. -/
theorem renderChars_append {a b : Json} {rest rest' : List Char} (follows : Follows rest)
    (follows' : Follows rest') (same : renderChars a ++ rest = renderChars b ++ rest') :
    renderChars a = renderChars b ∧ rest = rest' := by
  have read := readValue_renderChars a ((renderChars a).length + (renderChars b).length) rest
    (by omega) follows
  rw [same, readValue_renderChars b _ rest' (by omega) follows'] at read
  obtain rfl : rest' = rest := Option.some.inj (Prod.mk.inj read).2
  exact ⟨List.append_cancel_right same, rfl⟩

theorem reread_of_renderChars {a b : Json} (same : renderChars a = renderChars b) :
    reread a = reread b := by
  have read := readDocument_renderChars a
  rw [same, readDocument_renderChars b] at read
  exact (Prod.mk.inj read).1.symm

/-- A name is written in quotes, and so is told from what follows it. -/
theorem renderText_append_inj {a b : String} {rest rest' : List Char}
    (same : renderText a ++ rest = renderText b ++ rest') : a = b ∧ rest = rest' := by
  rw [renderText_append, renderText_append] at same
  have read := readText_renderText a rest
  rw [(List.cons.inj same).2, readText_renderText b rest'] at read
  have both := Prod.mk.inj (Option.some.inj read)
  exact ⟨(Option.some.inj both.1).symm, both.2.symm⟩

/-- Arrays with the same text have the same text from the first item on. -/
theorem renderItems_of_array {a b : List Json}
    (same : renderChars (.array a) = renderChars (.array b)) : renderItems a = renderItems b := by
  have read := reread_of_renderChars same
  cases a <;> cases b <;> simp_all [reread, rereadItems, renderChars, renderItems]

/-- Objects with the same text have the same text from the first member on. -/
theorem renderMembers_of_object {a b : List (String × Json)}
    (same : renderChars (.object a) = renderChars (.object b)) :
    renderMembers a = renderMembers b := by
  have read := reread_of_renderChars same
  cases a <;> cases b <;> simp_all [reread, rereadMembers, renderChars, renderMembers]

mutual

/-- Values with the same text are the same, if all their numbers are integers. -/
theorem renderChars_injective : ∀ {a b : Json}, IsIntegral a → IsIntegral b →
    renderChars a = renderChars b → a = b
  | .null, b, _, _, same => by
      have read := reread_of_renderChars same
      cases b <;> simp_all [reread]
  | .bool _, b, _, _, same => by
      have read := reread_of_renderChars same
      cases b <;> simp_all [reread]
  | .string _, b, _, _, same => by
      have read := reread_of_renderChars same
      cases b <;> simp_all [reread]
  | .number (.binary64 _), _, integral, _, _ => by simp [IsIntegral] at integral
  | .number (.integer value), b, _, integral, same => by
      have read := reread_of_renderChars same
      cases b with
      | number other =>
          cases other with
          | integer other => rw [@toString_int_injective value other same]
          | binary64 _ => simp [IsIntegral] at integral
      | null | bool _ | string _ | array _ | object _ => simp [reread] at read
  | .array items, b, integral, integral', same => by
      have read := reread_of_renderChars same
      cases b with
      | array items' =>
          rw [renderItems_injective integral integral' (renderItems_of_array same)]
      | null | bool _ | string _ | number _ | object _ => simp [reread] at read
  | .object members, b, integral, integral', same => by
      have read := reread_of_renderChars same
      cases b with
      | object members' =>
          rw [renderMembers_injective integral integral' (renderMembers_of_object same)]
      | null | bool _ | string _ | number _ | array _ => simp [reread] at read

theorem renderItems_injective : ∀ {a b : List Json}, ItemsIntegral a → ItemsIntegral b →
    renderItems a = renderItems b → a = b
  | [], [], _, _, _ => rfl
  | [], _ :: _, _, _, same => by simp [renderItems] at same
  | _ :: _, [], _, _, same => by simp [renderItems] at same
  | a :: as, b :: bs, ⟨integral, integrals⟩, ⟨integral', integrals'⟩, same => by
      simp only [renderItems, List.cons_append, List.cons.injEq, true_and] at same
      rw [← List.append_nil (renderItems as), ← List.append_nil (renderItems bs)] at same
      rcases renderChars_append (follows_renderItems as []) (follows_renderItems bs []) same with
        ⟨sameItem, sameRest⟩
      rw [renderChars_injective integral integral' sameItem,
        renderItems_injective integrals integrals' (List.append_cancel_right sameRest)]

theorem renderMembers_injective : ∀ {a b : List (String × Json)}, MembersIntegral a →
    MembersIntegral b → renderMembers a = renderMembers b → a = b
  | [], [], _, _, _ => rfl
  | [], (_, _) :: _, _, _, same => by simp [renderMembers] at same
  | (_, _) :: _, [], _, _, same => by simp [renderMembers] at same
  | (name, a) :: as, (name', b) :: bs, ⟨integral, integrals⟩, ⟨integral', integrals'⟩, same => by
      simp only [renderMembers, List.cons_append, List.append_assoc, List.cons.injEq,
        true_and] at same
      rcases renderText_append_inj same with ⟨rfl, behind⟩
      simp only [List.cons.injEq, true_and] at behind
      rw [← List.append_nil (renderMembers as), ← List.append_nil (renderMembers bs)] at behind
      rcases renderChars_append (follows_renderMembers as []) (follows_renderMembers bs [])
        behind with ⟨sameValue, sameRest⟩
      rw [renderChars_injective integral integral' sameValue,
        renderMembers_injective integrals integrals' (List.append_cancel_right sameRest)]

end

/-- The text of a value is that of no other one, if all its numbers are integers. -/
theorem render_injective {a b : Json} (integral : IsIntegral a) (integral' : IsIntegral b)
    (same : a.render = b.render) : a = b := by
  have chars : renderChars a = renderChars b := by
    simpa [render] using congrArg String.toList same
  exact renderChars_injective integral integral' chars

end AvControl.Json

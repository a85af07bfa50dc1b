import AvControl.Json.Decode
import AvControl.Proofs.Json.Numerals

/-!
# Reading what was written

The text of a value is read to its end, and what is read of it is the value, except that a number
becomes what its numeral says. So of a value whose numbers are integers of 64 bits nothing is lost.
-/

namespace AvControl.Json

/-! ### Texts -/

/-- The escape of a control character names the character. -/
theorem unicodeEscape_eq : ∀ n < 32, ∃ d e, unicodeEscape (Char.ofNat n) =
    ['\\', 'u', '0', '0', d, e] ∧ hexUnit? '0' '0' d e = some n := by
  intro n control
  interval_cases n <;> exact ⟨_, _, rfl, rfl⟩

theorem readText_unicodeEscape {c : Char} (control : c.toNat < 32) (content tail : List Char) :
    readText ⟨some content, none⟩ (unicodeEscape c ++ tail) =
      readText ⟨some (c :: content), none⟩ tail := by
  rcases unicodeEscape_eq c.toNat control with ⟨d, e, isEscape, isUnit⟩
  rw [Char.ofNat_toNat] at isEscape
  have noHigh : ¬(0xD800 ≤ c.toNat ∧ c.toNat ≤ 0xDBFF) := by omega
  have noLow : ¬(0xDC00 ≤ c.toNat ∧ c.toNat ≤ 0xDFFF) := by omega
  simp only [isEscape, List.cons_append, List.nil_append, readText, isUnit, TextSoFar.pushUnit,
    if_neg noHigh, if_neg noLow, Char.ofNat_toNat, Option.map_some]

theorem readText_renderChar (c : Char) (content tail : List Char) :
    readText ⟨some content, none⟩ (renderChar c ++ tail) =
      readText ⟨some (c :: content), none⟩ tail := by
  unfold renderChar
  split
  case h_8 noQuote noBackslash _ _ _ _ _ =>
    split
    · rename_i control
      exact readText_unicodeEscape control content tail
    · rename_i visible
      have plain : ¬(c.toNat < 32 ∨ c = '\\') := by
        rintro (control | isBackslash)
        · exact visible control
        · exact noBackslash isBackslash
      rw [List.singleton_append, readText]
      · rw [if_neg plain]
        rfl
      · exact noQuote
      · exact fun _ _ _ _ _ isBackslash _ => noBackslash isBackslash
      · exact fun _ _ isBackslash _ => noBackslash isBackslash
  all_goals rfl

/-- A text is read as it was written. -/
theorem readText_renderText (text : String) (rest : List Char) :
    readText ⟨some [], none⟩ (text.toList.flatMap renderChar ++ '"' :: rest) =
      some (some text, rest) := by
  have read : ∀ chars content : List Char,
      readText ⟨some content, none⟩ (chars.flatMap renderChar ++ '"' :: rest) =
        some (some (String.ofList (content.reverse ++ chars)), rest) := by
    intro chars
    induction chars with
    | nil =>
        intro content
        simp [readText, TextSoFar.finish]
    | cons c chars ih =>
        intro content
        rw [List.flatMap_cons, List.append_assoc, readText_renderChar, ih]
        simp
  have whole := read text.toList []
  rwa [List.reverse_nil, List.nil_append, String.ofList_toList] at whole

/-! ### Values -/

namespace Document

mutual

/-- What the text of a value is read as. -/
def reread : Json → Document
  | .null => null
  | .bool value => bool value
  | .number value => number (rereadNumber value)
  | .string value => text (some value)
  | .array items => array (rereadItems items) .closed
  | .object members => object (rereadMembers members) .closed

/-- What the texts of some values are read as. -/
def rereadItems : List Json → List Document
  | [] => []
  | item :: rest => reread item :: rereadItems rest

/-- What the texts of some members are read as. -/
def rereadMembers : List (String × Json) → List (Option String × Document)
  | [] => []
  | (name, value) :: rest => (some name, reread value) :: rereadMembers rest

end

end Document

theorem skipBlanks_cons {c : Char} (notBlank : isBlank c = false) (rest : List Char) :
    skipBlanks (c :: rest) = c :: rest := by
  simp [skipBlanks, notBlank]

theorem readWord_append (word : List Char) (value : Document) (rest : List Char) :
    readWord word value (word ++ rest) = (value, some rest) := by
  have dropped : dropWord? word (word ++ rest) = some rest := by
    induction word with
    | nil => rfl
    | cons c word ih => simpa [dropWord?] using ih
  rw [readWord, dropped]

/-- A character that begins a numeral and nothing else. -/
def BeginsNumeral (c : Char) : Prop := c = '-' ∨ c.isDigit = true

theorem BeginsNumeral.ne {c d : Char} (begins : BeginsNumeral c) (isOther : d ≠ '-')
    (noDigit : d.isDigit = false) : c ≠ d := by
  rintro rfl
  rcases begins with isMinus | isDigit
  · exact isOther isMinus
  · rw [noDigit] at isDigit
    cases isDigit

theorem BeginsNumeral.not_blank {c : Char} (begins : BeginsNumeral c) : isBlank c = false := by
  simp [isBlank, begins.ne]

theorem exists_head_renderNumber (number : JsonNumber) :
    ∃ c rest, renderNumber number = c :: rest ∧ BeginsNumeral c := by
  rcases exists_numeral number with ⟨numeral, wellFormed, isText⟩
  rcases List.exists_cons_of_ne_nil wellFormed.integer.notEmpty with ⟨digit, digits, same⟩
  rw [← isText, Numeral.text, same]
  cases numeral.negative with
  | true => exact ⟨_, _, rfl, Or.inl rfl⟩
  | false =>
      refine ⟨_, _, rfl, Or.inr ?_⟩
      exact wellFormed.integer.areDigits digit (by simp [same])

theorem readValue_renderNumber (number : JsonNumber) (bound : Nat) {rest : List Char}
    (follows : Follows rest) : readValue (bound + 1) (renderNumber number ++ rest) =
      (.number (rereadNumber number), some rest) := by
  rcases readNumeral_renderNumber number follows with ⟨numeral, read, isValue⟩
  rcases exists_head_renderNumber number with ⟨c, tail, isText, begins⟩
  rw [isText, List.cons_append] at read ⊢
  rw [readValue, skipBlanks_cons begins.not_blank]
  split
  case h_7 => rw [read, ← isValue]
  all_goals
    rename_i same
    exact absurd (List.cons.inj same).1 (begins.ne (by decide) (by decide))

/-- No value begins with a blank or a closing bracket. -/
theorem exists_head_renderChars (value : Json) :
    ∃ c rest, renderChars value = c :: rest ∧ isBlank c = false ∧ c ≠ ']' := by
  cases value with
  | null => exact ⟨_, _, rfl, rfl, by decide⟩
  | bool value => cases value <;> exact ⟨_, _, rfl, rfl, by decide⟩
  | number number =>
      rcases exists_head_renderNumber number with ⟨c, rest, isText, begins⟩
      exact ⟨c, rest, isText, begins.not_blank, begins.ne (by decide) (by decide)⟩
  | string text => exact ⟨_, _, rfl, rfl, by decide⟩
  | array items => cases items <;> exact ⟨_, _, rfl, rfl, by decide⟩
  | object members => cases members <;> exact ⟨_, _, rfl, rfl, by decide⟩

theorem follows_renderItems (items : List Json) (rest : List Char) :
    Follows (renderItems items ++ rest) := by
  cases items <;> simp [renderItems, Follows]

theorem follows_renderMembers (members : List (String × Json)) (rest : List Char) :
    Follows (renderMembers members ++ rest) := by
  cases members with
  | nil => simp [renderMembers, Follows]
  | cons member members =>
      rcases member with ⟨name, value⟩
      simp [renderMembers, Follows]

theorem renderText_append (text : String) (rest : List Char) :
    renderText text ++ rest = '"' :: (text.toList.flatMap renderChar ++ '"' :: rest) := by
  simp [renderText]

open Document (reread rereadItems rereadMembers)

mutual

/-- A value is read to the end of its text. -/
theorem readValue_renderChars : ∀ (value : Json) (bound : Nat) (rest : List Char),
    (renderChars value).length ≤ bound → Follows rest →
      readValue (bound + 1) (renderChars value ++ rest) = (reread value, some rest)
  | .null, bound, rest, _, _ => by
      simp only [renderChars, List.cons_append, readValue,
        skipBlanks_cons (show isBlank 'n' = false by rfl)]
      exact readWord_append ['u', 'l', 'l'] _ rest
  | .bool true, bound, rest, _, _ => by
      simp only [renderChars, List.cons_append, readValue,
        skipBlanks_cons (show isBlank 't' = false by rfl)]
      exact readWord_append ['r', 'u', 'e'] _ rest
  | .bool false, bound, rest, _, _ => by
      simp only [renderChars, List.cons_append, readValue,
        skipBlanks_cons (show isBlank 'f' = false by rfl)]
      exact readWord_append ['a', 'l', 's', 'e'] _ rest
  | .number n, bound, rest, _, follows => by
      rw [renderChars, readValue_renderNumber n bound follows, reread]
  | .string text, bound, rest, _, _ => by
      simp only [renderChars, renderText, List.cons_append, List.append_assoc, List.nil_append,
        readValue, skipBlanks_cons (show isBlank '"' = false by rfl), readText_renderText, reread]
  | .array [], bound, rest, _, _ => by
      simp [renderChars, readValue, skipBlanks, isBlank, reread, rereadItems]
  | .array (item :: items), bound, rest, enough, _ => by
      rcases exists_head_renderChars item with ⟨c, tail, isText, notBlank, notClosing⟩
      have read := readItems_renderItems item items bound rest (by
        simp only [renderChars, List.cons_append, List.length_cons] at enough
        exact enough)
      rw [isText, List.cons_append] at read
      simp only [renderChars, List.cons_append, List.append_assoc, readValue,
        skipBlanks_cons (show isBlank '[' = false by rfl), isText, skipBlanks_cons notBlank]
      split
      · rename_i closing
        exact absurd (List.cons.inj closing).1 notClosing
      · simp only [read, reread, rereadItems, Ending.ofRest, Option.isSome_some, if_true]
  | .object [], bound, rest, _, _ => by
      simp [renderChars, readValue, skipBlanks, isBlank, reread, rereadMembers]
  | .object ((name, value) :: members), bound, rest, enough, _ => by
      have read := readMembers_renderMembers name value members bound rest (by
        simp only [renderChars, List.cons_append, List.length_cons] at enough
        exact enough)
      rw [renderText_append] at read
      simp only [renderChars, renderText_append, List.cons_append, List.append_assoc, readValue,
        skipBlanks_cons (show isBlank '\x7b' = false by rfl),
        skipBlanks_cons (show isBlank '"' = false by rfl)]
      split
      · rename_i closing
        cases (List.cons.inj closing).1
      · simp only [read, reread, rereadMembers, Ending.ofRest, Option.isSome_some, if_true]
termination_by value => sizeOf value

/-- The items of an array are read up to its closing bracket. -/
theorem readItems_renderItems : ∀ (item : Json) (items : List Json) (bound : Nat)
    (rest : List Char), (renderChars item ++ renderItems items).length < bound →
      readItems bound (renderChars item ++ (renderItems items ++ rest)) =
        (reread item :: rereadItems items, some rest)
  | item, [], bound, rest, enough => by
      simp only [renderItems, List.length_append, List.length_singleton] at enough
      obtain ⟨bound, rfl⟩ : ∃ smaller, bound = smaller + 2 := ⟨bound - 2, by omega⟩
      have read := readValue_renderChars item bound (renderItems [] ++ rest) (by omega)
        (follows_renderItems [] rest)
      rw [readItems, read]
      simp [renderItems, skipBlanks, isBlank, rereadItems]
  | item, next :: others, bound, rest, enough => by
      simp only [renderItems, List.length_append, List.length_cons] at enough
      obtain ⟨bound, rfl⟩ : ∃ smaller, bound = smaller + 2 := ⟨bound - 2, by omega⟩
      have read := readValue_renderChars item bound (renderItems (next :: others) ++ rest)
        (by omega) (follows_renderItems (next :: others) rest)
      have goesOn := readItems_renderItems next others (bound + 1) rest (by
        rw [List.length_append]
        omega)
      rw [readItems, read]
      simp only [renderItems, List.cons_append, List.append_assoc,
        skipBlanks_cons (show isBlank ',' = false by rfl), goesOn, rereadItems]
termination_by item items => 1 + sizeOf item + sizeOf items

/-- The members of an object are read up to its closing brace. -/
theorem readMembers_renderMembers : ∀ (name : String) (value : Json)
    (members : List (String × Json)) (bound : Nat) (rest : List Char),
    (renderText name ++ ':' :: renderChars value ++ renderMembers members).length < bound →
      readMembers bound
          (renderText name ++ ':' :: (renderChars value ++ (renderMembers members ++ rest))) =
        ((some name, reread value) :: rereadMembers members, some rest)
  | name, value, [], bound, rest, enough => by
      simp only [renderMembers, List.length_append, List.length_cons] at enough
      obtain ⟨bound, rfl⟩ : ∃ smaller, bound = smaller + 2 := ⟨bound - 2, by omega⟩
      have read := readValue_renderChars value bound (renderMembers [] ++ rest) (by omega)
        (follows_renderMembers [] rest)
      rw [readMembers, renderText_append, skipBlanks_cons (show isBlank '"' = false by rfl)]
      simp only [readText_renderText, skipBlanks_cons (show isBlank ':' = false by rfl), read]
      simp [renderMembers, skipBlanks, isBlank, rereadMembers]
  | name, value, (next, nextValue) :: others, bound, rest, enough => by
      simp only [renderMembers, List.length_append, List.length_cons] at enough
      obtain ⟨bound, rfl⟩ : ∃ smaller, bound = smaller + 2 := ⟨bound - 2, by omega⟩
      have read := readValue_renderChars value bound
        (renderMembers ((next, nextValue) :: others) ++ rest) (by omega)
        (follows_renderMembers ((next, nextValue) :: others) rest)
      have goesOn := readMembers_renderMembers next nextValue others (bound + 1) rest (by
        rw [List.length_append, List.length_append, List.length_cons]
        omega)
      rw [readMembers, renderText_append, skipBlanks_cons (show isBlank '"' = false by rfl)]
      simp only [readText_renderText, skipBlanks_cons (show isBlank ':' = false by rfl), read]
      simp only [renderMembers, List.cons_append, List.append_assoc,
        skipBlanks_cons (show isBlank ',' = false by rfl), goesOn, rereadMembers]
termination_by _ value members => 1 + sizeOf value + sizeOf members

end

/-- The text of a value is read to its end. -/
theorem readDocument_renderChars (value : Json) :
    readDocument (renderChars value) = (reread value, true) := by
  have read := readValue_renderChars value (2 * (renderChars value).length + 1) [] (by omega)
    follows_nil
  rw [List.append_nil] at read
  rw [readDocument, read]
  rfl

/-- A decoder of a text that was written gets to see the value. -/
theorem Decoder.runText_render {α : Type} (decoder : Decoder α) (value : Json) :
    decoder.runText value.render = decoder.run (reread value) := by
  have text : value.render.toList = renderChars value := String.toList_ofList
  simp only [Decoder.runText, text, readDocument_renderChars, if_true]
  cases decoder.run (reread value) <;> rfl

mutual

/-- Nothing breaks off in what was written, whatever it is. -/
theorem isComplete_reread : ∀ value : Json, (reread value).isComplete = true
  | .null | .bool _ | .number _ | .string _ => rfl
  | .array items => by simp [reread, Document.isComplete, itemsComplete_reread items]
  | .object members => by simp [reread, Document.isComplete, membersComplete_reread members]

theorem itemsComplete_reread : ∀ items : List Json,
    Document.itemsComplete (rereadItems items) = true
  | [] => rfl
  | item :: rest => by
      simp [rereadItems, Document.itemsComplete, isComplete_reread item, itemsComplete_reread rest]

theorem membersComplete_reread : ∀ members : List (String × Json),
    Document.membersComplete (rereadMembers members) = true
  | [] => rfl
  | (_, value) :: rest => by
      simp [rereadMembers, Document.membersComplete, isComplete_reread value,
        membersComplete_reread rest]

end

theorem rereadItems_eq_map (items : List Json) : rereadItems items = items.map reread := by
  induction items with
  | nil => rfl
  | cons item rest ih => rw [rereadItems, ih, List.map_cons]

theorem rereadMembers_eq_map (members : List (String × Json)) :
    rereadMembers members = members.map fun member => (some member.1, reread member.2) := by
  induction members with
  | nil => rfl
  | cons member rest ih => rw [rereadMembers, ih, List.map_cons]

end AvControl.Json

import AvControl.Identifier
import AvControl.Proofs.Lists

/-!
# Identifiers of rooms

The parts of an identifier are cut out at its first hyphen. An identifier is well formed exactly
when it is the name of a building and the name of a room with one hyphen between them, neither of
them empty and neither with a hyphen of its own; the parts are then these two names.

An identifier that was never checked has parts, too. They are not names then, but nothing of the
identifier is lost in them: all that they do not tell is whether there is a hyphen at all, since an
empty part behind a hyphen looks like no part.
-/

namespace AvControl

namespace RoomId

/-! ### Cutting at the first hyphen -/

variable {id : RoomId}

theorem building_of_cut {before after : String} (plain : '-' ∉ before.toList)
    (cut : id.text = before ++ "-" ++ after) : id.building = before := by
  have letters : id.text.toList = before.toList ++ '-' :: after.toList := by simp [cut]
  simp only [building, letters, takeWhile_ne plain, String.ofList_toList]

theorem room_of_cut {before after : String} (plain : '-' ∉ before.toList)
    (cut : id.text = before ++ "-" ++ after) : id.room = after := by
  have letters : id.text.toList = before.toList ++ '-' :: after.toList := by simp [cut]
  simp only [room, letters, dropWhile_ne plain, List.drop_succ_cons, List.drop_zero,
    String.ofList_toList]

/-- A text without a hyphen names a building only. -/
theorem building_of_plain (plain : '-' ∉ id.text.toList) : id.building = id.text := by
  rw [building, takeWhile_ne_of_notMem plain, String.ofList_toList]

/-- A text without a hyphen names no room. -/
theorem room_of_plain (plain : '-' ∉ id.text.toList) : id.room = "" := by
  rw [room, dropWhile_ne_of_notMem plain]
  rfl

/-- The first hyphen stands between the parts. -/
theorem cut_of_hyphenated (hyphenated : '-' ∈ id.text.toList) :
    '-' ∉ id.building.toList ∧ id.text = id.building ++ "-" ++ id.room := by
  rcases List.eq_append_cons_of_mem hyphenated with ⟨before, after, split, plain⟩
  have cut : id.text = String.ofList before ++ "-" ++ String.ofList after := by
    apply String.toList_inj.1
    simp [split]
  have plain' : '-' ∉ (String.ofList before).toList := by simpa using plain
  rw [building_of_cut plain' cut, room_of_cut plain' cut]
  exact ⟨plain', cut⟩

/-! ### Names of rooms -/

/-- A text names a building and a room in it. -/
structure Names (text building room : String) : Prop where
  building_ne : building ≠ ""
  room_ne : room ≠ ""
  building_plain : '-' ∉ building.toList
  room_plain : '-' ∉ room.toList
  text_eq : text = building ++ "-" ++ room

variable {text : String}

/-- The names in an identifier are its parts. -/
theorem Names.parts {building room : String} (names : Names text building room) :
    RoomId.building ⟨text⟩ = building ∧ RoomId.room ⟨text⟩ = room :=
  ⟨building_of_cut names.building_plain names.text_eq,
    room_of_cut names.building_plain names.text_eq⟩

theorem names_of_wellFormed (wellFormed : WellFormed ⟨text⟩) :
    Names text (RoomId.building ⟨text⟩) (RoomId.room ⟨text⟩) := by
  rcases wellFormed with ⟨building_ne, room_ne, room_plain⟩
  have hyphenated : '-' ∈ text.toList := by
    by_contra plain
    exact room_ne (room_of_plain plain)
  rcases cut_of_hyphenated hyphenated with ⟨building_plain, text_eq⟩
  exact ⟨building_ne, room_ne, building_plain, room_plain, text_eq⟩

/-- The well-formed identifiers are the names of a building and a room. -/
theorem wellFormed_iff : WellFormed ⟨text⟩ ↔ ∃ building room, Names text building room := by
  constructor
  · exact fun wellFormed => ⟨_, _, names_of_wellFormed wellFormed⟩
  · rintro ⟨building, room, names⟩
    rcases names.parts with ⟨isBuilding, isRoom⟩
    rw [WellFormed, isBuilding, isRoom]
    exact ⟨names.building_ne, names.room_ne, names.room_plain⟩

theorem parse_of_named (named : ∃ building room, Names text building room) :
    parse text = .ok ⟨text⟩ := if_pos (wellFormed_iff.2 named)

theorem parse_of_unnamed (unnamed : ¬∃ building room, Names text building room) :
    parse text = .error (.malformedRoomId text) :=
  if_neg fun wellFormed => unnamed (wellFormed_iff.1 wellFormed)

/-- An identifier that was read from a text is this text, which names a building and a room. -/
theorem parse_eq_ok : parse text = .ok id ↔
    id = ⟨text⟩ ∧ ∃ building room, Names text building room := by
  constructor
  · intro isId
    by_cases named : ∃ building room, Names text building room
    · rw [parse_of_named named] at isId
      exact ⟨(Except.ok.inj isId).symm, named⟩
    · rw [parse_of_unnamed named] at isId
      cases isId
  · rintro ⟨rfl, named⟩
    exact parse_of_named named

/-- What comes of a text that somebody types in as an identifier. -/
structure Legible (text : String) : Prop where
  /-- It is accepted when it names a building and a room. -/
  accepted : (∃ id, parse text = .ok id) ↔ ∃ building room, Names text building room
  /-- Otherwise it is refused, and shown as it is. -/
  refused : (¬∃ building room, Names text building room) →
    parse text = .error (.malformedRoomId text)
  /-- There is only one way in which it can name a building and a room. -/
  unambiguous (building room building' room' : String) : Names text building room →
    Names text building' room' → building = building' ∧ room = room'
  /-- The identifier has the two names for its parts. -/
  parted (id : RoomId) (building room : String) : parse text = .ok id →
    Names text building room → id.building = building ∧ id.room = room
  /-- The identifier is shown as it was typed in, and can be read again. -/
  reread (id : RoomId) : parse text = .ok id → id.text = text ∧ parse id.text = .ok id

/-- The parts of an identifier, whether it was checked or not. -/
structure Parted (id : RoomId) : Prop where
  /-- They are what stands before and after the first hyphen. -/
  hyphenated : '-' ∈ id.text.toList →
    '-' ∉ id.building.toList ∧ id.text = id.building ++ "-" ++ id.room
  /-- Without a hyphen there is only the first part. -/
  plain : '-' ∉ id.text.toList → id.building = id.text ∧ id.room = ""
  /-- With the hyphen, if there is one, they make up the identifier. -/
  recovered : id.text = id.building ++ if '-' ∈ id.text.toList then "-" ++ id.room else ""

/-- Exactly the names of a building and a room are read as identifiers, and no identifier loses
anything in its parts. -/
theorem obeys_grammar : (∀ text, Legible text) ∧ ∀ id : RoomId, id.Parted := by
  constructor
  · intro text
    constructor
    case accepted => simp only [parse_eq_ok, exists_eq_left]
    case refused => exact parse_of_unnamed
    case unambiguous =>
      intro building room building' room' names names'
      exact ⟨names.parts.1.symm.trans names'.parts.1, names.parts.2.symm.trans names'.parts.2⟩
    case parted =>
      intro id building room isId names
      obtain ⟨rfl, -⟩ := parse_eq_ok.1 isId
      exact names.parts
    case reread =>
      intro id isId
      obtain ⟨rfl, -⟩ := parse_eq_ok.1 isId
      exact ⟨rfl, isId⟩
  · intro id
    constructor
    case hyphenated => exact cut_of_hyphenated
    case plain => exact fun plain => ⟨building_of_plain plain, room_of_plain plain⟩
    case recovered =>
      split
      · rename_i hyphenated
        rw [← String.append_assoc]
        exact (cut_of_hyphenated hyphenated).2
      · rename_i plain
        rw [building_of_plain plain, String.append_empty]

end RoomId

end AvControl

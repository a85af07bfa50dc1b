import AvControl.Http.Body

/-!
# Bodies that are text

The body that encodes a text is read as that text, character after character: at every place where
a character begins, the decoder finds it.
-/

namespace AvControl.Http

/-- From a place between two characters on, the characters behind it are read. -/
theorem charactersFrom_utf8Encode (chars : List Char) : ∀ before : List Char,
    charactersFrom (before ++ chars).utf8Encode before.utf8Encode.size = chars := by
  induction chars with
  | nil =>
      intro before
      rw [charactersFrom]
      simp
  | cons c rest ih =>
      intro before
      have split : before ++ c :: rest = (before ++ [c]) ++ rest := by simp
      have isChar : (before ++ c :: rest).utf8Encode.utf8DecodeChar? before.utf8Encode.size =
          some c := by
        rw [ByteArray.utf8DecodeChar?_eq_utf8DecodeChar?_extract, List.utf8Encode_append,
          ByteArray.extract_append_eq_right rfl (by simp)]
        exact List.utf8DecodeChar?_utf8Encode_cons
      have next : before.utf8Encode.size + c.utf8Size = (before ++ [c]).utf8Encode.size := by
        simp [List.utf8Encode_append, List.utf8Encode_singleton]
      have ahead : before.utf8Encode.size < (before ++ c :: rest).utf8Encode.size := by
        have positive := c.utf8Size_pos
        rw [split, List.utf8Encode_append, ByteArray.size_append]
        omega
      rw [charactersFrom, if_pos ahead, isChar]
      simp only [next]
      rw [split, ih]

theorem bodyText_toUTF8 (text : String) : bodyText text.toUTF8 = text := by
  have read := charactersFrom_utf8Encode text.toList []
  rw [List.nil_append, String.utf8Encode_toList] at read
  have start : ([] : List Char).utf8Encode.size = 0 := rfl
  rw [start] at read
  exact (congrArg String.ofList read).trans String.ofList_toList

/-- A body that encodes a text is decoded as the text is. -/
theorem readStateRequest_toUTF8 (text : String) :
    readStateRequest text.toUTF8 = StateRequest.decoder.runText text := by
  rw [readStateRequest, bodyText_toUTF8]

end AvControl.Http

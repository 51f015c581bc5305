/-!
# Bytes and text

Text as bytes in UTF-8, and line ends made uniform.
-/

namespace ControlPlane.Text

/-- The characters of a run of bytes; none if the bytes are not UTF-8. -/
def decodeUtf8? (bytes : List UInt8) : Option (List Char) :=
  (String.fromUTF8? ⟨bytes.toArray⟩).map String.toList

/-- The bytes of a text. -/
def encodeUtf8 (s : String) : List UInt8 := s.toUTF8.data.toList

/-- A text is read back from its bytes. -/
theorem decodeUtf8?_encodeUtf8 (s : String) : decodeUtf8? (encodeUtf8 s) = some s.toList := by
  have hback : String.fromUTF8? s.toUTF8 = some s := by
    unfold String.fromUTF8?
    rw [String.toUTF8_eq_toByteArray, dif_pos s.isValidUTF8]
    rfl
  rw [decodeUtf8?, encodeUtf8, Array.toArray_toList, hback, Option.map_some]

/-- So no two texts have the same bytes. -/
theorem encodeUtf8_inj {s t : String} : encodeUtf8 s = encodeUtf8 t ↔ s = t := by
  constructor
  · intro h
    have hlists : some s.toList = some t.toList := by
      rw [← decodeUtf8?_encodeUtf8 s, ← decodeUtf8?_encodeUtf8 t, h]
    exact String.toList_inj.mp (Option.some.inj hlists)
  · rintro rfl
    rfl

/-- A text in which every line ends in a line feed: returns stand for one, with a line feed behind
them or without. -/
def uniformLines : List Char → List Char
  | [] => []
  | '\r' :: '\n' :: rest => '\n' :: uniformLines rest
  | '\r' :: rest => '\n' :: uniformLines rest
  | c :: rest => c :: uniformLines rest

end ControlPlane.Text

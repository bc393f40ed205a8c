-- Texts as bytes: the UTF-8 form, and the way back.
namespace ConfigFanout.Text

/-- A run of bytes. -/
abbrev Bytes := List UInt8

/-- The UTF-8 form of a text. -/
def utf8 (text : String) : Bytes :=
  text.toByteArray.data.toList

/-- The text with the given UTF-8 form, if the bytes are one. -/
def ofUtf8? (bytes : Bytes) : Option String :=
  String.fromUTF8? ⟨bytes.toArray⟩

@[simp] theorem ofUtf8?_utf8 (text : String) : ofUtf8? (utf8 text) = some text := by
  have valid : String.fromUTF8? text.toByteArray = some text := by
    rw [String.fromUTF8?, dif_pos text.isValidUTF8]
    rfl
  simpa [ofUtf8?, utf8] using valid

theorem utf8_injective {s t : String} (h : utf8 s = utf8 t) : s = t := by
  have := congrArg ofUtf8? h
  simpa using this

end ConfigFanout.Text

import Resumption.Wire.Octets

/-!
Text in files. A text is kept in its UTF-8 encoding, and bytes that are no such encoding hold no
text; what was written reads back.
-/

namespace Resumption.Bytes

/-- The encoding of a text. -/
def ofText (text : String) : Bytes :=
  text.toUTF8.data.toList

/-- The text that bytes encode, if there is one. -/
def text? (bytes : Bytes) : Option String :=
  String.fromUTF8? ⟨bytes.toArray⟩

theorem text?_ofText (text : String) : (ofText text).text? = some text := by
  simp only [ofText, text?, String.fromUTF8?, Array.toArray_toList]
  exact dif_pos text.isValidUTF8

end Resumption.Bytes

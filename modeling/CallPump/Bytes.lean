/-
  CallPump.Bytes — bytes, and texts as bytes.
-/

namespace CallPump

abbrev Bytes := List UInt8

namespace Bytes

/-- A text in UTF-8. -/
def ofText (s : String) : Bytes := s.toByteArray.data.toList

/-- The text that the bytes are in UTF-8, if they are one. -/
def text? (bs : Bytes) : Option String := String.fromUTF8? ⟨bs.toArray⟩

theorem text?_ofText (s : String) : text? (ofText s) = some s := by
  have h : (⟨(ofText s).toArray⟩ : ByteArray) = s.toByteArray := by simp [ofText]
  simp only [text?, h, String.fromUTF8?, dif_pos s.isValidUTF8]
  rfl

end Bytes

end CallPump

/-!
# Text as bytes

A text is its UTF-8 bytes, and bytes are a text when they are valid UTF-8: `ofUtf8?_utf8` and
`utf8_of_ofUtf8?`.
-/

namespace Giro.Text

def utf8 (s : String) : List UInt8 := s.toByteArray.data.toList

def ofUtf8? (bytes : List UInt8) : Option String := String.fromUTF8? ⟨bytes.toArray⟩

@[simp] theorem ofUtf8?_utf8 (s : String) : ofUtf8? (utf8 s) = some s := by
  have h : (⟨(utf8 s).toArray⟩ : ByteArray) = s.toByteArray := by simp [utf8]
  rw [ofUtf8?, h, String.fromUTF8?]
  split
  · rfl
  · rename_i hn
    exact absurd s.isValidUTF8 (by simpa using hn)

theorem utf8_of_ofUtf8? {bytes : List UInt8} {s : String} (h : ofUtf8? bytes = some s) :
    utf8 s = bytes := by
  unfold ofUtf8? String.fromUTF8? at h
  split at h
  · cases h; simp [utf8, String.fromUTF8]
  · cases h

end Giro.Text

import Gatehouse.Bytes

namespace Gatehouse.Bytes

/-!
# Texts as byte strings

A text and its UTF-8 form determine each other, and exactly the valid byte
strings spell a text.
-/

@[simp]
theorem length_ofText (text : String) : (ofText text).length = text.utf8ByteSize := by
  simp [ofText, String.toUTF8]

/-- A byte string spells a text exactly if it is the UTF-8 form of the text. -/
theorem toText?_eq_some {bytes : Bytes} {text : String} :
    toText? bytes = some text ↔ ofText text = bytes := by
  unfold toText? String.fromUTF8?
  constructor
  · intro spelled
    split at spelled
    next valid =>
      cases spelled
      rfl
    next invalid =>
      cases spelled
  · rintro rfl
    have same : ByteArray.mk (ofText text).toArray = text.toByteArray := rfl
    have valid : (ByteArray.mk (ofText text).toArray).IsValidUTF8 := by
      rw [same]
      exact text.isValidUTF8
    rw [dif_pos valid]
    rfl

@[simp]
theorem toText?_ofText (text : String) : toText? (ofText text) = some text :=
  toText?_eq_some.mpr rfl

end Gatehouse.Bytes

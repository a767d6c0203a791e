import Mathlib.Data.List.Basic

namespace SongPattern.Text

/-- A text as it is stored, in UTF-8. -/
def bytes (s : String) : List UInt8 := s.toByteArray.data.toList

theorem toByteArray_bytes (s : String) : (bytes s).toByteArray = s.toByteArray := by
  apply ByteArray.ext
  rw [List.data_toByteArray, bytes, Array.toArray_toList]

theorem bytes_eq (s : String) : bytes s = s.toList.flatMap String.utf8EncodeChar := by
  apply List.toByteArray_inj.mp
  have stored := @String.toByteArray_ofList s.toList
  rw [String.ofList_toList] at stored
  rw [toByteArray_bytes, stored, List.utf8Encode]

theorem bytes_append (s t : String) : bytes (s ++ t) = bytes s ++ bytes t := by
  simp [bytes_eq]

/-- A text is found again in its bytes. -/
theorem fromUTF8?_bytes (s : String) : String.fromUTF8? (bytes s).toByteArray = some s := by
  rw [toByteArray_bytes, String.fromUTF8?, dif_pos s.isValidUTF8]
  rfl

theorem utf8EncodeChar_ascii {c : Char} (h : c.toNat < 128) :
    String.utf8EncodeChar c = [UInt8.ofNat c.toNat] := by
  have size : c.utf8Size = 1 := Char.utf8Size_eq_one_iff.mpr (by
    have : c.val.toNat ≤ 127 := Nat.le_of_lt_succ h
    exact this)
  have byte := String.utf8EncodeChar_eq_singleton size
  rw [byte]
  rfl

end SongPattern.Text

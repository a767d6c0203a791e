import Mathlib.Data.List.Basic
import SongPattern.Policy.Url

namespace SongPattern.Policy

theorem quotePlus_append (s t : String) : quotePlus (s ++ t) = quotePlus s ++ quotePlus t := by
  rw [quotePlus, String.toList_append, List.flatMap_append, String.ofList_append]
  rfl

theorem quoteByte_ne_nil (b : UInt8) : quoteByte b ≠ [] := by
  rw [quoteByte]
  split
  · exact List.cons_ne_nil _ []
  · split
    · decide
    · exact List.cons_ne_nil '%' _

theorem quotePlus_eq_empty_iff {s : String} : quotePlus s = "" ↔ s = "" := by
  rw [quotePlus, String.ofList_eq_empty_iff, List.flatMap_eq_nil_iff, ← String.toList_eq_nil_iff]
  constructor
  · intro h
    refine List.eq_nil_iff_forall_not_mem.mpr fun c hc => ?_
    obtain ⟨b, hb⟩ := List.exists_mem_of_ne_nil _ String.utf8EncodeChar_ne_nil
    exact quoteByte_ne_nil b (List.flatMap_eq_nil_iff.mp (h c hc) b hb)
  · intro h
    rw [h]
    exact nofun

end SongPattern.Policy

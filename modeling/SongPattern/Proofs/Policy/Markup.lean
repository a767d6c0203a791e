import Mathlib.Data.List.Basic
import SongPattern.Policy.Markup

namespace SongPattern.Policy

theorem escapeMarkup_append (s t : String) :
    escapeMarkup (s ++ t) = escapeMarkup s ++ escapeMarkup t := by
  rw [escapeMarkup, String.toList_append, List.flatMap_append, String.ofList_append]
  rfl

theorem escapeMarkupChar_ne_nil (c : Char) : escapeMarkupChar c ≠ [] := by
  rw [escapeMarkupChar]
  split
  · decide
  · split
    · decide
    · split
      · decide
      · exact List.cons_ne_nil c []

theorem escapeMarkup_eq_empty_iff {s : String} : escapeMarkup s = "" ↔ s = "" := by
  rw [escapeMarkup, String.ofList_eq_empty_iff, List.flatMap_eq_nil_iff,
    ← String.toList_eq_nil_iff]
  constructor
  · exact fun h => List.eq_nil_iff_forall_not_mem.mpr fun c hc => escapeMarkupChar_ne_nil c (h c hc)
  · intro h
    rw [h]
    exact nofun

theorem bracket_ne_nil (slashes : Nat) (body : List Char) : bracket slashes body ≠ [] := by
  rw [bracket]
  split <;> simp

/-- Backslashes that are held back are put out at last, and so is any character that belongs to no
bracket before. -/
theorem expand_ne_nil (body? : List Char → Option (List Char)) {slashes : Nat} {cs : List Char}
    (h : 0 < slashes ∨ cs ≠ []) : expand body? 0 slashes cs ≠ [] := by
  induction cs generalizing slashes with
  | nil =>
    rw [expand, Ne, List.replicate_eq_nil_iff]
    exact Nat.ne_of_gt (h.resolve_right fun some => some rfl)
  | cons c cs ih =>
    rw [expand]
    split
    · exact ih (.inl (Nat.succ_pos slashes))
    · split
      · exact List.append_ne_nil_of_left_ne_nil (bracket_ne_nil _ _) _
      · exact List.append_ne_nil_of_right_ne_nil _ (List.cons_ne_nil c _)

theorem expand_eq_nil_iff (body? : List Char → Option (List Char)) {cs : List Char} :
    expand body? 0 0 cs = [] ↔ cs = [] := by
  constructor
  · exact fun h => not_not.mp fun some => expand_ne_nil body? (.inr some) h
  · rintro rfl
    rfl

theorem expandShorthand_eq_empty_iff {s : String} : expandShorthand s = "" ↔ s = "" := by
  rw [expandShorthand, String.ofList_eq_empty_iff, expand_eq_nil_iff, expand_eq_nil_iff,
    String.toList_eq_nil_iff]

end SongPattern.Policy

import SongPattern.Policy.FilePath
import SongPattern.Proofs.Song.Value

namespace SongPattern.FilePath

open Text (shows)

/-- A number that is padded shows digits. -/
theorem shows_padNumber {key value : String} (h : shows value = true) :
    shows (padNumber key value) = true := by
  have number (width : Nat) (n : Int) : shows (Number.padded width n) = true :=
    (Number.solid_padded width n).shows
  rw [padNumber]
  split
  · exact h
  · split
    · exact number _ _
    · split
      · exact number _ _
      · exact h

theorem padNumber_empty (key : String) : padNumber key "" = "" := rfl

/-- What replaces a separator is no blank, so only values of blanks alone are cleaned away. -/
theorem cleanValue_eq_empty_iff {p : Platform} {key value : String}
    (h : value ≠ "" → shows value = true) : cleanValue p key value = "" ↔ value = "" := by
  constructor
  · intro cleaned
    by_contra full
    have padded : shows (padNumber key value) = true := shows_padNumber (h full)
    obtain ⟨c, hc, solid⟩ := Text.shows_iff.mp padded
    refine Text.trim_ne_empty_iff.mpr (Text.shows_iff.mpr ?_) cleaned
    rw [String.toList_ofList]
    refine ⟨_, List.mem_map_of_mem hc, ?_⟩
    split
    · decide
    · exact solid
  · rintro rfl
    rw [cleanValue, padNumber_empty]
    rfl

end SongPattern.FilePath

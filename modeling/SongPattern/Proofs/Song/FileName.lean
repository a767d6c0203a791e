import Mathlib.Data.List.DropRight
import SongPattern.Proofs.Text.Pieces
import SongPattern.Song.FileName

namespace SongPattern.FileName

theorem anchor_start (path : List Char) : anchor path <+: path := by
  fun_cases anchor path with
  | case1 rest => exact ⟨rest, rfl⟩
  | case2 => exact List.prefix_refl _
  | case3 rest => exact ⟨'/' :: rest, rfl⟩
  | case4 => exact List.nil_prefix

theorem dropIdleEnd_start (pieces : List (List Char)) : dropIdleEnd pieces <+: pieces :=
  List.rdropWhile_prefix isIdle pieces

/-- A directory is written at the start of the path. -/
theorem directory?_start {path directory : List Char} (h : directory? path = some directory) :
    directory <+: path := by
  have components_start :
      components path <+: Text.splitChars '/' (path.drop (anchor path).length) :=
    dropIdleEnd_start _
  rw [directory?.eq_def] at h
  split at h
  · cases h
  next pieces head tail hp =>
    rw [← hp] at h
    cases h
    have kept := ((dropIdleEnd_start _).trans (List.dropLast_prefix _)).trans components_start
    have behind := @Text.intercalate_prefix '/' _ _ kept
    rw [Text.intercalate_splitChars] at behind
    have whole := List.prefix_iff_eq_append.mp (anchor_start path)
    have both := (List.prefix_append_right_inj (anchor path)).mpr behind
    rwa [whole] at both

end SongPattern.FileName

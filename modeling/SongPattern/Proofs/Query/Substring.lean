import SongPattern.Proofs.Query.Writing
import SongPattern.Proofs.Text.Sigma
import SongPattern.Song.TagTable

namespace SongPattern.Query

open Text (AtSigmas SameForm Steady)

variable (engine : RegexEngine) {tag v : String}

/-- A bare value is looked for in lower case. -/
theorem read?_bare (named : isTagName tag.toList = true) (full : v ≠ "")
    (bare : ¬ Enclosed v.toList) :
    read? engine (tag ++ "=" ++ v) = some (.contains tag (Text.lower v)) := by
  have operand : (Operand.bare v.toList).Means engine (.ofList tag.toList) _ :=
    .contains (mt String.toList_eq_nil_iff.mp full) bare
  have read := read?_chars (.tagged named operand)
  have whole : (Writing.tagged tag.toList (.bare v.toList)).chars = (tag ++ "=" ++ v).toList := by
    rw [String.toList_append, String.toList_append, List.append_assoc]
    rfl
  rw [whole] at read
  simpa only [String.ofList_toList] using read

theorem holds_contains_iff {needle : String} {song : Song} :
    (contains tag needle).holds song = true ↔
      needle.toList <:+: (Text.lower (song.textOf tag)).toList := by
  rw [holds, Text.occursIn_iff]

/-- A bare value is found where its capital sigmas have the forms that they have in the value by
itself. It is found in all texts that it is a part of exactly if it settles these forms. -/
theorem read?_bare_finds (named : isTagName tag.toList = true) (full : v ≠ "")
    (bare : ¬ Enclosed v.toList) :
    ∃ q, read? engine (tag ++ "=" ++ v) = some q ∧
      (∀ song pre post, (song.textOf tag).toList = pre ++ v.toList ++ post →
        AtSigmas (SameForm [] [] pre.reverse post) [] v.toList → q.holds song = true) ∧
      ((∀ song, v.toList <:+: (song.textOf tag).toList → q.holds song = true) ↔
        Steady v.toList) := by
  refine ⟨_, read?_bare engine named full bare, ?_, ?_, ?_⟩
  · intro song pre post place forms
    exact holds_contains_iff.mpr (Text.lower_infix place forms)
  · intro always
    by_contra shaky
    obtain ⟨whole, part, missed⟩ := Text.exists_of_not_steady shaky
    let song : Song := ⟨fun _ => some (.text (.ofList whole)), fun _ => .text "", fun _ => []⟩
    have text : (song.textOf tag).toList = whole := String.toList_ofList
    have found := holds_contains_iff.mp (always song (text ▸ part))
    rw [Text.lower_eq_lowerBetween, Text.lower_eq_lowerBetween, text] at found
    exact missed found
  · rintro steady song ⟨pre, post, place⟩
    exact holds_contains_iff.mpr (Text.lower_infix place.symm (steady.sameForm _ _))

/-- The sigma ends a word here, as it does in the value. In other texts it does not. -/
theorem read?_bare_finds_word :
    let song := (TagTable.ofList [("title", .text "ο ΟΔΥΣ!")]).song
    isTagName "title".toList = true ∧ "ΟΔΥΣ" ≠ "" ∧ ¬ Enclosed "ΟΔΥΣ".toList ∧
      ∃ q, read? Regex.engine "title=ΟΔΥΣ" = some q ∧ q.holds song = true ∧
        ¬ ∀ song, "ΟΔΥΣ".toList <:+: (song.textOf "title").toList → q.holds song = true := by
  intro song
  have named : isTagName "title".toList = true := by decide
  have full : "ΟΔΥΣ" ≠ "" := by decide
  have bare : ¬ Enclosed "ΟΔΥΣ".toList := by decide
  obtain ⟨q, read, finds, always⟩ := read?_bare_finds Regex.engine named full bare
  have shaky : ¬ Steady "ΟΔΥΣ".toList := by decide +kernel
  exact ⟨named, full, bare, q, read,
    finds song "ο ".toList "!".toList (by decide +kernel) (by decide +kernel), mt always.mp shaky⟩

/-- The first letters of a word are not found in it, in the same capitals. -/
theorem read?_bare_misses_beginning :
    let song := (TagTable.ofList [("title", .text "ΟΔΥΣΣΕΙΑ")]).song
    isTagName "title".toList = true ∧ "ΟΔΥΣ" ≠ "" ∧ ¬ Enclosed "ΟΔΥΣ".toList ∧
      "ΟΔΥΣ".toList <:+: (song.textOf "title").toList ∧
      (read? Regex.engine "title=ΟΔΥΣ").map (·.holds song) = some false := by
  decide +kernel

end SongPattern.Query

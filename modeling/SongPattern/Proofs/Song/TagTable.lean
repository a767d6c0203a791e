import SongPattern.Proofs.Pattern.TagName
import SongPattern.Proofs.Song.FileName
import SongPattern.Proofs.Song.Value
import SongPattern.Song.TagTable

namespace SongPattern.TagTable

open Pattern (tagParts)
open Text (hasLine shows Tight)

variable {t : TagTable} {name part : String}

theorem isTied_eq_false (h : '~' ∉ name.toList.drop 1) : isTied name = false := by
  rw [isTied.eq_def]
  split
  next cs hn =>
    rw [hn] at h
    simpa using h
  · rfl

theorem atom?_of_plain (plain : '~' ∉ name.toList) : t.atom? name = t.raw? name := by
  rw [atom?.eq_def]
  split
  all_goals first | rfl | exact absurd (by decide) plain

theorem get?_of_untied (untied : isTied name = false) : t.get? name = t.atom? name := by
  rw [get?, untied]
  rfl

/-- Nothing is made up for a name without a tilde, so the two ways of a look-up agree. -/
theorem through_eq {get : String → Option Value}
    (plain : '~' ∉ name.toList → get name = t.atom? name) : t.through get name = get name := by
  rw [through]
  split
  · rfl
  next outside =>
    rw [not_or] at outside
    rw [plain outside.1, atom?_of_plain outside.1]

@[simp]
theorem through_atom? : t.through t.atom? name = t.atom? name := through_eq fun _ => rfl

@[simp]
theorem through_get? : t.through t.get? name = t.get? name :=
  through_eq fun plain => get?_of_untied (isTied_eq_false (mt List.mem_of_mem_drop plain))

theorem exists_mem_split_iff {c : Char} {s : String} :
    (∃ line ∈ Text.split '\n' s, c ∈ line.toList) ↔ c ∈ s.toList ∧ c ≠ '\n' := by
  rw [← Text.exists_mem_splitChars_iff, Text.split]
  simp

/-- Each character but the line breaks stands in a line. -/
theorem exists_line {v : Option Value} {c : Char} (hc : c ∈ (v.elim "" Value.display).toList)
    (hn : c ≠ '\n') : ∃ line ∈ linesOf v, c ∈ line.toList := by
  cases v with
  | none => cases hc
  | some v =>
    cases v with
    | text s =>
      obtain ⟨line, hl, hc⟩ := exists_mem_split_iff.mpr ⟨hc, hn⟩
      refine ⟨line, List.mem_filter.mpr ⟨hl, ?_⟩, hc⟩
      rw [decide_eq_true_iff]
      rintro rfl
      cases hc
    | int n => exact ⟨_, List.mem_singleton_self _, hc⟩
    | float f => exact ⟨_, List.mem_singleton_self _, hc⟩

theorem hasLine_of_mem_linesOf {v : Option Value} {line : String} (h : line ∈ linesOf v) :
    line ≠ "" ∧ hasLine (v.elim "" Value.display) = true := by
  have number {v : Value} (solid : Number.Solid v.display.toList) :
      v.display ≠ "" ∧ hasLine v.display = true := by
    have line := Text.hasLine_of_shows solid.shows
    exact ⟨Text.ne_empty_of_hasLine line, line⟩
  cases v with
  | none => cases h
  | some v =>
    cases v with
    | text s =>
      obtain ⟨hl, full⟩ := List.mem_filter.mp h
      rw [decide_eq_true_iff] at full
      obtain ⟨c, hc⟩ := List.exists_mem_of_ne_nil _ (mt String.toList_eq_nil_iff.mp full)
      have split := exists_mem_split_iff.mp ⟨line, hl, hc⟩
      exact ⟨full, Text.hasLine_iff.mpr ⟨c, split⟩⟩
    | int n =>
      rw [List.mem_singleton.mp h]
      exact number (Value.solid_int n)
    | float f =>
      rw [List.mem_singleton.mp h]
      exact number (Value.solid_float f)

theorem linesOf_ne_nil_iff {v : Option Value} :
    linesOf v ≠ [] ↔ hasLine (v.elim "" Value.display) = true := by
  constructor
  · intro h
    obtain ⟨line, hl⟩ := List.exists_mem_of_ne_nil _ h
    exact (hasLine_of_mem_linesOf hl).2
  · intro h
    obtain ⟨c, hc, hn⟩ := Text.hasLine_iff.mp h
    obtain ⟨line, hl, _⟩ := exists_line hc hn
    exact List.ne_nil_of_mem hl

/-- A number is a line of its own. -/
theorem linesOf_eq (v : Option Value) :
    linesOf v = (Text.split '\n' (v.elim "" Value.display)).filter (· ≠ "") := by
  have number {v : Value} (solid : Number.Solid v.display.toList) :
      [v.display] = (Text.split '\n' v.display).filter (· ≠ "") := by
    have one : '\n' ∉ v.display.toList := fun h => Text.ne_line_break (solid.2 _ h) rfl
    have full : v.display ≠ "" := mt String.toList_eq_nil_iff.mpr solid.1
    rw [Text.split, Text.splitChars_of_not_mem one, List.map_singleton, String.ofList_toList,
      List.filter_singleton, decide_eq_true full]
    rfl
  cases v with
  | none => rfl
  | some v =>
    cases v with
    | text s => rfl
    | int n => exact number (Value.solid_int n)
    | float f => exact number (Value.solid_float f)

theorem pairUp_ne_nil_iff {values sorts : List String} :
    pairUp values sorts ≠ [] ↔ ∃ value ∈ values, value ≠ "" := by
  induction values generalizing sorts with
  | nil => simp [pairUp]
  | cons value values ih =>
    rw [pairUp, List.exists_mem_cons_iff]
    by_cases empty : value = ""
    · rw [if_pos empty, ih]
      exact (or_iff_right (fun h => h empty)).symm
    · rw [if_neg empty]
      exact iff_of_true (List.cons_ne_nil _ _) (.inl empty)

theorem exists_allLines_iff {s : String} :
    (∃ line ∈ allLines s, line ≠ "") ↔ hasLine s = true := by
  rw [Text.hasLine_iff]
  constructor
  · rintro ⟨line, hl, full⟩
    rw [allLines] at hl
    split at hl
    · cases hl
    · obtain ⟨c, hc⟩ := List.exists_mem_of_ne_nil _ (mt String.toList_eq_nil_iff.mp full)
      exact ⟨c, exists_mem_split_iff.mp ⟨line, hl, hc⟩⟩
  · rintro ⟨c, hc, hn⟩
    obtain ⟨line, hl, hc'⟩ := exists_mem_split_iff.mpr ⟨hc, hn⟩
    refine ⟨line, ?_, ?_⟩
    · rw [allLines, if_neg]
      · exact hl
      · rintro rfl
        cases hc
    · rintro rfl
      cases hc'

theorem sortPairs_ne_nil_iff : t.sortPairs name ≠ [] ↔ hasLine (t.textOf name) = true := by
  rw [sortPairs, pairUp_ne_nil_iff, exists_allLines_iff]

theorem get?_part (h : part ∈ tagParts name) : t.get? part = t.atom? part :=
  get?_of_untied (isTied_eq_false (Pattern.tagParts_tilde h))

/-- The text that a part gives to a tied tag. -/
def partText (t : TagTable) (joiner part : String) : String :=
  Text.joinWith joiner (linesOf (t.atom? part))

theorem textOf_of_tied (h : isTied name = true) :
    t.textOf name = Text.joinWith " - " (((tagParts name).map
      (t.partText (if 1 < (tagParts name).length then ", " else "\n"))).filter (· ≠ "")) := by
  rw [textOf, get?, if_pos h]
  have unfolded (joiner : String) : t.partText joiner =
      fun part => Text.joinWith joiner (linesOf (t.atom? part)) := rfl
  simp only [tied?, through_atom?, unfolded]
  generalize ((tagParts name).map _).filter _ = texts
  cases texts with
  | nil => rfl
  | cons s rest => rfl

theorem textOf_tied (h : isTied name = true) :
    ∃ joiner, t.textOf name =
      Text.joinWith " - " (((tagParts name).map (t.partText joiner)).filter (· ≠ "")) :=
  ⟨_, textOf_of_tied h⟩

theorem mem_textOf_tied {c : Char} (h : isTied name = true) (hp : part ∈ tagParts name)
    (hc : c ∈ (t.textOf part).toList) (hn : c ≠ '\n') : c ∈ (t.textOf name).toList := by
  rw [textOf, get?_part hp] at hc
  obtain ⟨line, hl, hc⟩ := exists_line hc hn
  obtain ⟨joiner, whole⟩ := textOf_tied (t := t) h
  have inPart : c ∈ (t.partText joiner part).toList := Text.mem_joinWith hl hc
  rw [whole]
  refine Text.mem_joinWith (List.mem_filter.mpr ⟨List.mem_map_of_mem hp, ?_⟩) inPart
  rw [decide_eq_true_iff]
  intro empty
  rw [empty] at inPart
  cases inPart

theorem hasLine_textOf_tied (h : isTied name = true) :
    hasLine (t.textOf name) = true ↔ ∃ part ∈ tagParts name, hasLine (t.textOf part) = true := by
  constructor
  · intro line
    obtain ⟨joiner, whole⟩ := textOf_tied (t := t) h
    have full := Text.ne_empty_of_hasLine line
    rw [whole] at full
    have some : ((tagParts name).map (t.partText joiner)).filter (· ≠ "") ≠ [] := by
      intro none
      rw [none] at full
      exact full rfl
    obtain ⟨s, hs⟩ := List.exists_mem_of_ne_nil _ some
    obtain ⟨hm, hs⟩ := List.mem_filter.mp hs
    obtain ⟨part, hp, rfl⟩ := List.mem_map.mp hm
    refine ⟨part, hp, ?_⟩
    rw [textOf, get?_part hp, ← linesOf_ne_nil_iff]
    intro none
    rw [partText, none] at hs
    cases hs
  · rintro ⟨part, hp, line⟩
    obtain ⟨c, hc, hn⟩ := Text.hasLine_iff.mp line
    exact Text.hasLine_iff.mpr ⟨c, mem_textOf_tied h hp hc hn, hn⟩

theorem pairs_ne_nil_iff : t.pairs name ≠ [] ↔ hasLine (t.textOf name) = true := by
  rw [pairs]
  split
  next tied =>
    rw [hasLine_textOf_tied tied, Ne, List.flatMap_eq_nil_iff]
    simp only [not_forall, exists_prop]
    exact exists_congr fun part => and_congr_right fun _ => sortPairs_ne_nil_iff
  · exact sortPairs_ne_nil_iff

theorem joinLines_eq_nil_iff {cs : List Char} : joinLines false cs = [] ↔ cs = [] := by
  cases cs with
  | nil => exact iff_of_true rfl rfl
  | cons c cs =>
    refine iff_of_false ?_ (List.cons_ne_nil c cs)
    rw [joinLines]
    split <;> exact List.cons_ne_nil _ _

theorem joined_ne_empty_iff : (t.joined name).display ≠ "" ↔ shows (t.textOf name) = true := by
  have number {v : Value} (solid : Number.Solid v.display.toList) :
      v.display ≠ "" ↔ shows v.display = true :=
    iff_of_true (mt String.toList_eq_nil_iff.mpr solid.1) solid.shows
  rw [joined, through_get?, textOf]
  cases t.get? name with
  | none => exact iff_of_false (fun h => h rfl) (by decide)
  | some v =>
    cases v with
    | text s =>
      have display : (Value.text (.ofList (joinLines false (Text.trim s).toList))).display =
          .ofList (joinLines false (Text.trim s).toList) := rfl
      simp only [display]
      rw [Ne, String.ofList_eq_empty_iff, joinLines_eq_nil_iff, String.toList_eq_nil_iff]
      exact Text.trim_ne_empty_iff
    | int n => exact number (Value.solid_int n)
    | float f => exact number (Value.solid_float f)

theorem tight_joinLines {cs : List Char} (h : Tight cs) : Tight (joinLines false cs) := by
  cases cs with
  | nil => exact nofun
  | cons c cs =>
    rw [joinLines, if_neg (Text.ne_line_break (h c rfl))]
    exact h

/-- The text of a tag is trimmed before its lines are joined, so it is never of blanks alone. -/
theorem shows_joined (full : (t.joined name).display ≠ "") :
    shows (t.joined name).display = true := by
  rw [joined, through_get?] at full ⊢
  cases hv : t.get? name with
  | none =>
    rw [hv] at full
    exact absurd rfl full
  | some v =>
    rw [hv] at full
    cases v with
    | text s =>
      have tight : Tight (joinLines false (Text.trim s).toList) :=
        tight_joinLines (Text.tight_trim s)
      rw [← String.toList_ofList (l := joinLines false (Text.trim s).toList)] at tight
      exact tight.shows full
    | int n => exact (Value.solid_int n).shows
    | float f => exact (Value.solid_float f).shows

/-- No stored text starts or ends with a blank. -/
def Trimmed (t : TagTable) : Prop := ∀ name s, t.raw? name = some (.text s) → Text.trim s = s

theorem Trimmed.tight_raw {v : Value} (h : t.Trimmed) (hv : t.raw? name = some v) :
    Tight v.display.toList := by
  cases v with
  | text s => exact Text.tight_of_trim (h name s hv)
  | int n => exact (Value.solid_int n).tight
  | float f => exact (Value.solid_float f).tight

theorem tight_numberPart {index : Nat} {v : Value} (hv : t.numberPart? name index = some v) :
    Tight v.display.toList := by
  obtain ⟨text, _, hv⟩ := Option.bind_eq_some_iff.mp hv
  obtain ⟨part, _, hv⟩ := Option.bind_eq_some_iff.mp hv
  obtain ⟨n, _, hv⟩ := Option.bind_eq_some_iff.mp hv
  cases hv
  exact (Value.solid_int n).tight

theorem tight_year {year : String} (h : t.year? = some year) : Tight year.toList := by
  obtain ⟨date, _, h⟩ := Option.bind_eq_some_iff.mp h
  simp only at h
  split at h
  · cases h
  · cases h
    intro c hc
    rw [String.toList_ofList] at hc
    exact Number.isBlank_of_isDigit (List.mem_takeWhile_imp (List.mem_of_mem_head? hc))

/-- A part of the file name that is written at its start. -/
theorem Trimmed.tight_fileNamePart {part? : List Char → Option (List Char)} {v : Value}
    (h : t.Trimmed) (start : ∀ path part, part? path = some part → part <+: path)
    (hv : t.fileNamePart? part? = some v) : Tight v.display.toList := by
  obtain ⟨path, hp, rfl⟩ := Option.map_eq_some_iff.mp hv
  obtain ⟨stored, hs, rfl⟩ := Option.map_eq_some_iff.mp hp
  have tight := h.tight_raw hs
  cases hpart : (part? stored.display.toList).filter (!·.isEmpty) with
  | none => exact tight
  | some part =>
    have found := (Option.filter_eq_some_iff.mp hpart).1
    have begins := tight.of_start (start _ _ found)
    rw [← String.toList_ofList (l := part)] at begins
    exact begins

/-- Only the name of the file itself may start with a blank: the directory that it is in is written
at the start of the whole path. -/
theorem Trimmed.tight_atom {v : Value} (h : t.Trimmed) (hn : name ≠ "~basename")
    (hv : t.atom? name = some v) : Tight v.display.toList := by
  rw [atom?.eq_def] at hv
  split at hv
  case h_1 | h_2 | h_3 | h_4 => exact tight_numberPart hv
  case h_5 =>
    obtain ⟨year, hy, rfl⟩ := Option.map_eq_some_iff.mp hv
    exact tight_year hy
  case h_6 =>
    obtain ⟨n, _, rfl⟩ := Option.map_eq_some_iff.mp hv
    exact (Value.solid_int n).tight
  case h_7 => exact absurd rfl hn
  case h_8 => exact h.tight_fileNamePart (fun _ _ => FileName.directory?_start) hv
  case h_9 => exact h.tight_raw hv

theorem Trimmed.tight_textOf (h : t.Trimmed) (untied : isTied name = false)
    (hn : name ≠ "~basename") : Tight (t.textOf name).toList := by
  rw [textOf, get?, untied]
  cases hv : t.atom? name with
  | none => exact nofun
  | some v => exact h.tight_atom hn hv

/-- A tag with a line shows something, unless it is a file name of blanks alone. -/
theorem Trimmed.shows_of_hasLine (h : t.Trimmed) (line : hasLine (t.textOf name) = true)
    (base : "~basename" ∈ tagParts name → shows (t.textOf "~basename") = true) :
    shows (t.textOf name) = true := by
  have alone {part : String} (untied : isTied part = false)
      (base : part = "~basename" → shows (t.textOf "~basename") = true)
      (line : hasLine (t.textOf part) = true) : shows (t.textOf part) = true := by
    by_cases hp : part = "~basename"
    · rw [hp]
      exact base hp
    · exact (h.tight_textOf untied hp).shows (Text.ne_empty_of_hasLine line)
  cases tied : isTied name with
  | false =>
    refine alone tied ?_ line
    rintro rfl
    exact base (by decide)
  | true =>
    obtain ⟨part, hp, line⟩ := (hasLine_textOf_tied tied).mp line
    have part_shows :=
      alone (isTied_eq_false (Pattern.tagParts_tilde hp)) (fun e => base (e ▸ hp)) line
    obtain ⟨c, hc, solid⟩ := Text.shows_iff.mp part_shows
    exact Text.shows_iff.mpr ⟨c, mem_textOf_tied tied hp hc (Text.ne_line_break solid), solid⟩

end SongPattern.TagTable

import SongPattern.Proofs.Song.TagTable

namespace SongPattern

namespace Text

/-- The pieces of a text, the empty ones dropped. -/
def filled (sep : Char) (cs : List Char) : List (List Char) :=
  (splitChars sep cs).filter (· ≠ [])

variable {sep : Char} {cs between : List Char} {pieces : List (List Char)}

theorem toList_filled (sep : Char) (s : String) :
    ((split sep s).filter (· ≠ "")).map String.toList = filled sep s.toList := by
  have same : (String.toList ∘ String.ofList) = id :=
    funext fun _ => String.toList_ofList
  have full (cs : List Char) : decide (String.ofList cs ≠ "") = decide (cs ≠ []) := by
    simp
  rw [split, List.filter_map, List.map_map, same, List.map_id, filled]
  exact List.filter_congr fun cs _ => full cs

theorem filled_cons_sep (sep : Char) (cs : List Char) : filled sep (sep :: cs) = filled sep cs := by
  rw [filled, splitChars_cons_sep, List.filter_cons_of_neg (by simp)]
  rfl

/-- A text that does not start with a separator starts with its first piece. -/
theorem filled_cons_of_ne {c : Char} (h : c ≠ sep) (cs : List Char) :
    ∃ piece pieces, splitChars sep cs = piece :: pieces ∧
      filled sep (c :: cs) = (c :: piece) :: pieces.filter (· ≠ []) := by
  obtain ⟨piece, pieces, tail, whole⟩ := splitChars_cons_of_ne h cs
  refine ⟨piece, pieces, tail, ?_⟩
  rw [filled, whole, List.filter_cons_of_pos (by simp)]

/-- A text that does not end with a separator ends with its last piece. -/
theorem filled_concat_of_ne {c : Char} (h : c ≠ sep) (cs : List Char) :
    ∃ pieces piece, filled sep (cs ++ [c]) = pieces ++ [piece ++ [c]] := by
  have fresh : sep ∉ [c] := by simpa using h.symm
  obtain ⟨front, last, -, whole⟩ := splitChars_append fresh cs
  refine ⟨front.filter (· ≠ []), last, ?_⟩
  rw [filled, whole, List.filter_append, List.filter_singleton, decide_eq_true (by simp)]
  rfl

theorem filled_ne_nil (some : cs ≠ []) (ends : cs.getLast? ≠ .some sep) : filled sep cs ≠ [] := by
  rcases List.eq_nil_or_concat' cs with rfl | ⟨cs, c, rfl⟩
  · exact absurd rfl some
  · have hc : c ≠ sep := by
      rintro rfl
      exact ends List.getLast?_concat
    obtain ⟨pieces, piece, whole⟩ := filled_concat_of_ne hc cs
    rw [whole]
    exact List.concat_ne_nil _ _

/-- Cutting the join of the pieces finds them again. -/
theorem filled_intercalate_filled (sep : Char) (cs : List Char) :
    filled sep ([sep].intercalate (filled sep cs)) = filled sep cs := by
  by_cases none : filled sep cs = []
  · rw [none]
    rfl
  · have free : ∀ piece ∈ filled sep cs, sep ∉ piece := fun piece hp =>
      sep_not_mem_splitChars (List.mem_of_mem_filter hp)
    rw [filled, splitChars_eq_splitOn, List.splitOn_intercalate sep free none, filled,
      List.filter_filter]
    simp

theorem TightEnds.intercalate (h : ∀ piece ∈ pieces, piece ≠ [] ∧ TightEnds piece) :
    TightEnds (between.intercalate pieces) := by
  constructor
  · cases pieces with
    | nil => exact Tight.nil
    | cons piece pieces =>
      obtain ⟨behind, whole⟩ := exists_intercalate_cons between piece pieces
      obtain ⟨some, start, -⟩ := h piece List.mem_cons_self
      rw [whole]
      exact start.append some
  · rcases List.eq_nil_or_concat' pieces with rfl | ⟨pieces, piece, rfl⟩
    · exact Tight.nil
    · obtain ⟨front, whole⟩ := exists_intercalate_concat between piece pieces
      obtain ⟨some, -, ends⟩ := h piece List.mem_concat_self
      rw [whole, List.reverse_append]
      exact ends.append (mt List.reverse_eq_nil_iff.mp some)

theorem TightEnds.last_ne (h : TightEnds cs) : cs.getLast? ≠ some '\n' := by
  intro last
  rw [← List.head?_reverse] at last
  exact ne_line_break (h.2 '\n' last) rfl

/-- The lines of a text keep its ends, whatever is put between them. -/
theorem TightEnds.lines (h : TightEnds cs) (between : List Char) :
    TightEnds (between.intercalate (filled '\n' cs)) := by
  constructor
  · cases cs with
    | nil => exact Tight.nil
    | cons c cs =>
      have solid := h.1 c rfl
      obtain ⟨piece, pieces, -, whole⟩ := filled_cons_of_ne (ne_line_break solid) cs
      obtain ⟨behind, joined⟩ :=
        exists_intercalate_cons between (c :: piece) (pieces.filter (· ≠ []))
      rw [whole, joined]
      exact fun d hd => Option.some.inj hd ▸ solid
  · rcases List.eq_nil_or_concat' cs with rfl | ⟨cs, c, rfl⟩
    · exact Tight.nil
    · have solid := h.2 c (by rw [List.reverse_concat]; rfl)
      obtain ⟨pieces, piece, whole⟩ := filled_concat_of_ne (ne_line_break solid) cs
      obtain ⟨front, joined⟩ := exists_intercalate_concat between (piece ++ [c]) pieces
      rw [whole, joined, ← List.append_assoc, List.reverse_concat]
      exact fun d hd => Option.some.inj hd ▸ solid

end Text

namespace TagTable

open Pattern (tagParts)
open Text (TightEnds filled)

variable {t : TagTable} {name part : String} {cs : List Char}

def comma : List Char := [',', ' ']

theorem joinLines_of_free (inRun : Bool) (h : '\n' ∉ cs) : joinLines inRun cs = cs := by
  induction cs generalizing inRun with
  | nil => rfl
  | cons c cs ih =>
    have hc : c ≠ '\n' := fun e => h (e ▸ List.mem_cons_self)
    rw [joinLines, if_neg hc, ih false (fun hm => h (List.mem_cons_of_mem c hm))]

/-- What stands behind the first line: a comma in front of each line that is not empty. -/
def behindFirst (lines : List (List Char)) : List Char :=
  match lines.filter (· ≠ []) with
  | [] => []
  | lines => comma ++ comma.intercalate lines

theorem intercalate_comma_cons (line : List Char) (lines : List (List Char)) :
    comma.intercalate (line :: lines.filter (· ≠ [])) = line ++ behindFirst lines := by
  rw [behindFirst]
  cases lines.filter (· ≠ []) with
  | nil => rw [List.intercalate_singleton, List.append_nil]
  | cons next more => rw [List.intercalate_cons_cons, List.append_assoc]

/-- In a run of line breaks the comma was written already. A break at the end would leave a comma
behind. -/
theorem joinLines_lines (ends : cs.getLast? ≠ some '\n') :
    joinLines true cs = comma.intercalate (filled '\n' cs) ∧
      ∀ first rest, Text.splitChars '\n' cs = first :: rest →
        joinLines false cs = first ++ behindFirst rest := by
  induction cs with
  | nil =>
    refine ⟨rfl, ?_⟩
    rintro first rest ⟨⟩
    rfl
  | cons c cs ih =>
    have ends' : cs.getLast? ≠ some '\n' := by
      intro last
      obtain ⟨front, rfl⟩ := List.getLast?_eq_some_iff.mp last
      rw [← List.cons_append] at ends
      exact ends List.getLast?_concat
    obtain ⟨inRun, outside⟩ := ih ends'
    by_cases hc : c = '\n'
    · subst hc
      have some : cs ≠ [] := by
        rintro rfl
        exact ends rfl
      refine ⟨?_, ?_⟩
      · rw [joinLines, if_pos rfl, Text.filled_cons_sep, inRun]
        rfl
      · intro first rest split
        rw [Text.splitChars_cons_sep] at split
        cases split
        have full : (Text.splitChars '\n' cs).filter (· ≠ []) ≠ [] := Text.filled_ne_nil some ends'
        rw [joinLines, if_pos rfl, inRun, behindFirst, filled]
        generalize (Text.splitChars '\n' cs).filter (· ≠ []) = lines at full
        cases lines with
        | nil => exact absurd rfl full
        | cons line lines => rfl
    · refine ⟨?_, ?_⟩
      · obtain ⟨piece, pieces, split, whole⟩ := Text.filled_cons_of_ne hc cs
        rw [joinLines, if_neg hc, outside piece pieces split, whole, intercalate_comma_cons]
        rfl
      · intro first rest split
        obtain ⟨piece, pieces, tail, whole⟩ := Text.splitChars_cons_of_ne hc cs
        rw [whole] at split
        cases split
        rw [joinLines, if_neg hc, outside piece rest tail]
        rfl

theorem joinLines_of_tight (h : TightEnds cs) :
    joinLines false cs = comma.intercalate (filled '\n' cs) := by
  cases cs with
  | nil => rfl
  | cons c cs =>
    have hc := Text.ne_line_break (h.1 c rfl)
    obtain ⟨piece, pieces, split, whole⟩ := Text.splitChars_cons_of_ne hc cs
    rw [(joinLines_lines h.last_ne).2 _ _ whole, ← intercalate_comma_cons, filled, whole,
      List.filter_cons_of_pos (by simp)]

/-- Neither end of the value is a blank. A number has none at all. -/
theorem tightEnds_textOf (trimmed : ∀ s, t.get? name = some (.text s) → Text.trim s = s) :
    TightEnds (t.textOf name).toList := by
  rw [textOf]
  cases hv : t.get? name with
  | none => exact ⟨Text.Tight.nil, Text.Tight.nil⟩
  | some v =>
    cases v with
    | text s => exact Text.trim_eq_self_iff.mp (trimmed s hv)
    | int n => exact (Value.solid_int n).tightEnds
    | float f => exact (Value.solid_float f).tightEnds

theorem display_joined (t : TagTable) (name : String) :
    (t.joined name).display = .ofList (joinLines false (Text.trim (t.textOf name)).toList) := by
  have number {v : Value} (solid : Number.Solid v.display.toList) :
      v.display = .ofList (joinLines false (Text.trim v.display).toList) := by
    have whole : Text.trim v.display = v.display := Text.trim_eq_self_iff.mpr solid.tightEnds
    rw [whole, joinLines_of_free false fun h => Text.ne_line_break (solid.2 _ h) rfl,
      String.ofList_toList]
  rw [joined, through_get?, textOf]
  cases t.get? name with
  | none => rfl
  | some v =>
    cases v with
    | text s => rfl
    | int n => exact number (v := .int n) (Value.solid_int n)
    | float f => exact number (v := .float f) (Value.solid_float f)

/-- A single line is shown without the blanks around it. -/
theorem display_joined_of_line (line : '\n' ∉ (t.textOf name).toList) :
    (t.joined name).display = Text.trim (t.textOf name) := by
  have free : '\n' ∉ (Text.trim (t.textOf name)).toList := fun h => line (Text.mem_of_mem_trim h)
  rw [display_joined, joinLines_of_free false free, String.ofList_toList]

theorem toList_joined (tight : TightEnds (t.textOf name).toList) :
    (t.joined name).display.toList = comma.intercalate (filled '\n' (t.textOf name).toList) := by
  rw [display_joined, Text.trim_eq_self_iff.mpr tight, String.toList_ofList,
    joinLines_of_tight tight]

theorem toList_partText (joiner : String) (hp : part ∈ tagParts name) :
    (t.partText joiner part).toList =
      joiner.toList.intercalate (filled '\n' (t.textOf part).toList) := by
  rw [partText, ← get?_part hp, linesOf_eq, Text.toList_joinWith, Text.toList_filled]
  rfl

theorem partText_comma (hp : part ∈ tagParts name) (tight : TightEnds (t.textOf part).toList) :
    t.partText ", " part = (t.joined part).display := by
  rw [← String.toList_inj, toList_partText ", " hp, toList_joined tight]
  rfl

/-- Line breaks that stand between the values of the one part become commas when all is trimmed and
joined again. -/
theorem joined_of_break (hp : part ∈ tagParts name) (tight : TightEnds (t.textOf part).toList) :
    .ofList (joinLines false (Text.trim (t.partText "\n" part)).toList) =
      (t.joined part).display := by
  have lines := toList_partText (t := t) "\n" hp
  have ends : TightEnds (t.partText "\n" part).toList := by
    rw [lines]
    exact tight.lines _
  have again : filled '\n' (t.partText "\n" part).toList = filled '\n' (t.textOf part).toList := by
    rw [lines]
    exact Text.filled_intercalate_filled '\n' _
  rw [← String.toList_inj, Text.trim_eq_self_iff.mpr ends, String.toList_ofList,
    joinLines_of_tight ends, again, toList_joined tight]

/-- Texts of parts that were joined by commas pass unchanged. -/
theorem joinLines_dashes {texts : List String}
    (h : ∀ s ∈ texts, s ≠ "" ∧ TightEnds s.toList ∧ '\n' ∉ s.toList) :
    .ofList (joinLines false (Text.trim (Text.joinWith " - " texts)).toList) =
      Text.joinWith " - " texts := by
  have chars := Text.toList_joinWith " - " texts
  have ends : TightEnds (Text.joinWith " - " texts).toList := by
    rw [chars]
    apply TightEnds.intercalate
    intro piece hp
    obtain ⟨s, hs, rfl⟩ := List.mem_map.mp hp
    exact ⟨mt String.toList_eq_nil_iff.mp (h s hs).1, (h s hs).2.1⟩
  have free : '\n' ∉ (Text.joinWith " - " texts).toList := by
    rw [chars]
    intro line
    rcases Text.mem_intercalate line with between | ⟨piece, hp, inside⟩
    · exact absurd between (by decide)
    · obtain ⟨s, hs, rfl⟩ := List.mem_map.mp hp
      exact (h s hs).2.2 inside
  rw [Text.trim_eq_self_iff.mpr ends, joinLines_of_free false free, String.ofList_toList]

theorem no_break_joined (tight : TightEnds (t.textOf name).toList) :
    '\n' ∉ (t.joined name).display.toList := by
  rw [toList_joined tight]
  intro line
  rcases Text.mem_intercalate line with between | ⟨piece, hp, inside⟩
  · exact absurd between (by decide)
  · exact Text.sep_not_mem_splitChars (List.mem_of_mem_filter hp) inside

/-- A tied tag shows what its parts show, those that show something. -/
theorem joined_tied (tied : isTied name = true)
    (trimmed : ∀ part ∈ tagParts name, ∀ s, t.get? part = some (.text s) → Text.trim s = s) :
    (t.joined name).display = Text.joinWith " - "
      (((tagParts name).map fun part => (t.joined part).display).filter (· ≠ "")) := by
  have tight (part : String) (hp : part ∈ tagParts name) : TightEnds (t.textOf part).toList :=
    tightEnds_textOf (trimmed part hp)
  rw [display_joined, textOf_of_tied tied]
  by_cases several : 1 < (tagParts name).length
  · have shown : (tagParts name).map (t.partText ", ") =
        (tagParts name).map fun part => (t.joined part).display :=
      List.map_congr_left fun part hp => partText_comma hp (tight part hp)
    rw [if_pos several, shown]
    apply joinLines_dashes
    intro s hs
    obtain ⟨hm, full⟩ := List.mem_filter.mp hs
    obtain ⟨part, hp, rfl⟩ := List.mem_map.mp hm
    refine ⟨of_decide_eq_true full, ?_, no_break_joined (tight part hp)⟩
    rw [toList_joined (tight part hp)]
    exact (tight part hp).lines comma
  · rw [if_neg several]
    have alone {s : String} : Text.joinWith " - " ([s].filter (· ≠ "")) = s := by
      by_cases empty : s = "" <;> simp [empty, Text.joinWith]
    cases parts : tagParts name with
    | nil => exact joinLines_dashes (List.forall_mem_nil _)
    | cons part rest =>
      have single : rest = [] := by
        rw [parts, List.length_cons] at several
        exact List.length_eq_zero_iff.mp (by omega)
      have hp : part ∈ tagParts name := by
        rw [parts]
        exact List.mem_cons_self
      rw [single, List.map_singleton, List.map_singleton, alone, alone]
      exact joined_of_break hp (tight part hp)

/-- One part has a break to skip, one has no value, and one is a number. -/
theorem joined_tied_playcount :
    let t := TagTable.ofList [("performer", .text "a\n\nb"), ("artist", .text "foo\nbar"),
      ("~#playcount", .int 4)]
    (isTied "~performer~title~artist~~#playcount" = true ∧
      ∀ part ∈ tagParts "~performer~title~artist~~#playcount", ∀ s,
        t.get? part = some (.text s) → Text.trim s = s) ∧
      (t.joined "~performer~title~artist~~#playcount").display = "a, b - foo, bar - 4" := by
  intro t
  have tied : isTied "~performer~title~artist~~#playcount" = true := by decide
  have parts : tagParts "~performer~title~artist~~#playcount" =
      ["performer", "title", "artist", "~#playcount"] := by decide +kernel
  have performer : t.get? "performer" = some (.text "a\n\nb") := rfl
  have title : t.get? "title" = none := rfl
  have artist : t.get? "artist" = some (.text "foo\nbar") := rfl
  have count : t.get? "~#playcount" = some (.int 4) := rfl
  have trimmed : ∀ part ∈ tagParts "~performer~title~artist~~#playcount", ∀ s,
      t.get? part = some (.text s) → Text.trim s = s := by
    intro part hp s h
    rw [parts] at hp
    simp only [List.mem_cons, List.not_mem_nil, or_false] at hp
    rcases hp with rfl | rfl | rfl | rfl
    · cases performer.symm.trans h
      decide +kernel
    · cases title.symm.trans h
    · cases artist.symm.trans h
      decide +kernel
    · cases count.symm.trans h
  refine ⟨⟨tied, trimmed⟩, ?_⟩
  rw [joined_tied tied trimmed, parts]
  decide +kernel

end TagTable

end SongPattern

import SongPattern.Proofs.Song.TagTable

namespace SongPattern.TagTable

/-- The text of one line of the companion, if there is one; else the value itself. -/
def sortLine (sorts : List String) (index : Nat) (value : String) : String :=
  match sorts[index]? with
  | some sort => if sort = "" then value else sort
  | none => value

/-- What the value on a line of a tag is sorted by. -/
def sortText (t : TagTable) (name : String) (index : Nat) (value : String) : String :=
  if name ∈ sortable then
    sortLine (Text.split '\n' (t.textOf (name ++ "sort"))) index value
  else value

variable {values sorts : List String}

theorem sortLine_drop (sorts : List String) (start : Nat) (value : String) :
    (if (sorts.drop start).headD "" = "" then value else (sorts.drop start).headD "") =
      sortLine sorts start value := by
  rw [List.headD_eq_head?_getD, List.head?_drop, sortLine]
  cases sorts[start]? with
  | none => rfl
  | some sort => rfl

/-- The lines in front have used up as many lines of the companion, whether or not they are
empty. -/
theorem pairUp_drop (values sorts : List String) (start : Nat) :
    pairUp values (sorts.drop start) = ((values.zipIdx start).filter (·.1 ≠ "")).map
      fun line => (line.1, sortLine sorts line.2 line.1) := by
  induction values generalizing start with
  | nil => rfl
  | cons value values ih =>
    rw [pairUp, List.tail_drop, ih, sortLine_drop, List.zipIdx_cons, List.filter_cons]
    by_cases empty : value = ""
    · simp only [empty, if_true, ne_eq, not_true, decide_false, Bool.false_eq_true, if_false]
    · simp only [empty, if_false, ne_eq, not_false_eq_true, decide_true, if_true, List.map_cons]

theorem pairUp_allLines (s : String) (sorts : List String) :
    pairUp (allLines s) sorts = pairUp (Text.split '\n' s) sorts := by
  rw [allLines]
  split
  next empty =>
    rw [empty]
    rfl
  · rfl

theorem sortLine_allLines (s : String) (index : Nat) (value : String) :
    sortLine (allLines s) index value = sortLine (Text.split '\n' s) index value := by
  rw [allLines]
  split
  next empty =>
    rw [empty]
    cases index <;> rfl
  · rfl

/-- The values of a tag are its lines that are not empty, in order. Each is paired with the line of
the companion that stands at the same place, the empty lines counted. -/
theorem sortPairs_lines (t : TagTable) (name : String) :
    (t.sortPairs name).map Prod.fst = t.list name ∧
      t.sortPairs name = ((Text.split '\n' (t.textOf name)).zipIdx.filter (·.1 ≠ "")).map
        fun line => (line.1, t.sortText name line.2 line.1) := by
  have paired (sorts : List String) : pairUp (allLines (t.textOf name)) sorts =
      ((Text.split '\n' (t.textOf name)).zipIdx.filter (·.1 ≠ "")).map
        fun line => (line.1, sortLine sorts line.2 line.1) := by
    rw [pairUp_allLines]
    exact pairUp_drop _ sorts 0
  constructor
  · have values := List.filter_map (f := Prod.fst) (p := (· ≠ ""))
      (l := (Text.split '\n' (t.textOf name)).zipIdx)
    rw [List.zipIdx_map_fst] at values
    rw [sortPairs, paired, List.map_map, list, through_get?, linesOf_eq]
    exact values.symm
  · rw [sortPairs, paired]
    refine List.map_congr_left fun line _ => ?_
    rw [sortLine_allLines, sortText]
    split
    · rfl
    · cases line.2 <;> rfl

/-- The second line of the companion stands beside an empty line, and there is no third. -/
example :
    (ofList [("artist", .text "Artist1\n\nArtist3"),
      ("artistsort", .text "SortA1\nSortA2")]).sortPairs "artist" =
        [("Artist1", "SortA1"), ("Artist3", "Artist3")] := by
  decide +kernel

end SongPattern.TagTable

import SongPattern.Proofs.Policy.Segments

namespace SongPattern.FilePath

variable {p : Platform} {options : PathOptions} {c : Char}
  {path segment stem ext first tail more : List Char} {others : List (List Char)}
  {ellipsis : Bool} {limit : Nat}

def segmentsOf (p : Platform) (path : List Char) : List (List Char) :=
  Text.splitChars p.separator (p.splitDrive path).2

/-- No character of the segment is one that a name may not hold. -/
def Clean (segment : List Char) : Prop :=
  ∀ c ∈ segment, c ∉ [':', '*', '?', ';', '"', '<', '>', '|', '/']

def EndsBadly (segment : List Char) : Prop :=
  segment.getLast? = some '.' ∨ segment.getLast? = some ' '

instance decidableClean (segment : List Char) : Decidable (Clean segment) :=
  List.decidableBAll _ segment

instance decidableEndsBadly (segment : List Char) : Decidable (EndsBadly segment) :=
  inferInstanceAs (Decidable (_ ∨ _))

/-- A drive stands in the first segment and is no part of what comes behind. -/
theorem segmentsOf_eq (h : Text.splitChars p.separator path = first :: others) :
    segmentsOf p path = (p.splitDrive first).2 :: others := by
  rcases drive_or_noDrive p path with ⟨c, rest, rfl, windows, alpha⟩ | none
  · have letter : c ≠ p.separator := ne_of_isAlpha alpha (separator_not_alpha p)
    obtain ⟨piece, pieces, inner, colon⟩ :=
      Text.splitChars_cons_of_ne (separator_ne_colon p).symm rest
    obtain ⟨_, _, same, whole⟩ := Text.splitChars_cons_of_ne letter (':' :: rest)
    rw [colon] at same
    cases same
    rw [h] at whole
    cases whole
    rw [segmentsOf, splitDrive_drive windows alpha, splitDrive_drive windows alpha, inner]
  · have lead : first <+: path := by
      have start : [first] <+: Text.splitChars p.separator path := ⟨others, h.symm⟩
      have joined := @Text.intercalate_prefix p.separator _ _ start
      rwa [List.intercalate_singleton, Text.intercalate_splitChars] at joined
    have bare : NoDrive p first := by
      rintro c rest rfl
      obtain ⟨more, rfl⟩ := lead
      exact none c _ rfl
    rw [segmentsOf, none.splitDrive, bare.splitDrive, h]

theorem endsBadly_splitDrive_iff (segment : List Char) :
    EndsBadly (p.splitDrive segment).2 ↔ EndsBadly segment := by
  rcases drive_or_noDrive p segment with ⟨c, rest, rfl, windows, alpha⟩ | none
  · rw [splitDrive_drive windows alpha]
    cases rest <;> simp [EndsBadly]
  · rw [none.splitDrive]

theorem clean_of_mem_safeSegment (segment : List Char) : Clean (safeSegment segment) := by
  intro c hc listed
  have all : [':', '*', '?', ';', '"', '<', '>', '|', '/'].all isForbidden = true := by decide
  have forbidden := List.all_eq_true.mp all c listed
  exact Bool.false_ne_true ((allowed_of_mem_safeSegment hc).symm.trans forbidden)

theorem not_endsBadly_safeSegment (segment : List Char) : ¬EndsBadly (safeSegment segment) := by
  rw [safeSegment]
  split
  · rw [EndsBadly, List.getLast?_concat]
    decide
  next fine => simpa [EndsBadly] using fine

theorem segmentsOf_makeSafe (windows : p.family = .windows) (path : List Char) :
    segmentsOf p (makeSafe p path) = (segmentsOf p path).map safeSegment := by
  have cut (pieces : List (List Char)) (some : pieces ≠ []) :
      Text.splitChars p.separator ([p.separator].intercalate (pieces.map safeSegment)) =
        pieces.map safeSegment := by
    rw [Text.splitChars_eq_splitOn, List.splitOn_intercalate]
    · rw [List.forall_mem_map]
      exact fun piece _ => (plain_safeSegment p piece).sep_not_mem
    · exact mt List.map_eq_nil_iff.mp some
  have pieces := cut _ (Text.splitChars_ne_nil p.separator (p.splitDrive path).2)
  rw [makeSafe, windows]
  simp only [← separator_windows windows]
  rcases drive_or_noDrive p path with ⟨c, rest, rfl, _, alpha⟩ | none
  · rw [splitDrive_drive windows alpha] at pieces ⊢
    rw [segmentsOf, segmentsOf, List.cons_append, List.cons_append,
      splitDrive_drive windows alpha, splitDrive_drive windows alpha]
    exact pieces
  · rw [none.splitDrive] at pieces ⊢
    have bare : NoDrive p
        ([p.separator].intercalate ((Text.splitChars p.separator path).map safeSegment)) := by
      intro c rest whole _
      have colon : ':' ∈ [p.separator].intercalate
          ((Text.splitChars p.separator path).map safeSegment) := by
        rw [whole]
        simp
      obtain ⟨piece, hp, inPiece⟩ :=
        Text.exists_mem_splitChars_iff.mpr ⟨colon, (separator_ne_colon p).symm⟩
      rw [pieces] at hp
      obtain ⟨s, -, rfl⟩ := List.mem_map.mp hp
      exact (plain_safeSegment p s ':' inPiece).2 windows rfl
    rw [segmentsOf, segmentsOf, List.nil_append, bare.splitDrive, none.splitDrive]
    exact pieces

theorem clean_append_iff : Clean (segment ++ more) ↔ Clean segment ∧ Clean more :=
  List.forall_mem_append

theorem Clean.shorten (h : Clean segment) : Clean (shorten ellipsis limit segment) := by
  intro c hc
  rcases mem_shorten hc with hc | rfl
  · exact h c hc
  · decide

theorem Clean.behind_drive (h : Clean segment) : Clean (p.splitDrive segment).2 := by
  rcases drive_or_noDrive p segment with ⟨c, rest, rfl, windows, alpha⟩ | none
  · rw [splitDrive_drive windows alpha]
    exact fun d hd => h d (List.mem_cons_of_mem _ (List.mem_cons_of_mem _ hd))
  · rwa [none.splitDrive]

theorem clean_letter (alpha : c.isAlpha = true) : Clean [c] := by
  intro d hd
  rw [List.mem_singleton.mp hd]
  intro bad
  have all : [':', '*', '?', ';', '"', '<', '>', '|', '/'].all (!·.isAlpha) = true := by decide
  have other := List.all_eq_true.mp all c bad
  rw [alpha] at other
  exact Bool.false_ne_true other

/-- Cutting a segment takes its end off and may put two dots there. -/
theorem shorten_eq_take (ellipsis : Bool) (limit : Nat) (segment : List Char) :
    ∃ n dots, shorten ellipsis limit segment = segment.take n ++ dots ∧ Clean dots := by
  have dots : Clean ['.', '.'] := by decide
  have none : Clean [] := List.forall_mem_nil _
  rw [FilePath.shorten]
  split
  · exact ⟨segment.length, [], by simp, none⟩
  · split
    · exact ⟨_, _, rfl, dots⟩
    · exact ⟨limit, [], by simp, none⟩

/-- Where a drive is cut off behind its letter, what is left is no drive. -/
theorem clean_take_drive (windows : p.family = .windows) (alpha : c.isAlpha = true)
    (ht : Clean tail) (hm : Clean more) (n : Nat) :
    Clean (p.splitDrive ((c :: ':' :: tail).take n ++ more)).2 := by
  match n with
  | 0 => exact hm.behind_drive
  | 1 =>
    have letter : Clean ([c] ++ more) := clean_append_iff.mpr ⟨clean_letter alpha, hm⟩
    exact letter.behind_drive
  | n + 2 =>
    have rest : Clean (tail.take n ++ more) :=
      clean_append_iff.mpr ⟨fun d hd => ht d (List.mem_of_mem_take hd), hm⟩
    rw [List.take_succ_cons, List.take_succ_cons, List.cons_append, List.cons_append,
      splitDrive_drive windows alpha]
    exact rest

theorem extension_start (name : List Char) :
    extension name = [] ∨ ∃ rest, extension name = '.' :: rest := by
  rw [extension]
  split
  · exact .inr ⟨_, rfl⟩
  · exact .inl rfl

/-- The drive is cut with the segment it stands in, never with its extension. -/
theorem clean_shorten_append (start : ext = [] ∨ ∃ rest, ext = '.' :: rest)
    (h : Clean (p.splitDrive (stem ++ ext)).2) :
    Clean (p.splitDrive (shorten ellipsis limit stem ++ ext)).2 := by
  rcases drive_or_noDrive p (stem ++ ext) with ⟨c, tail, whole, windows, alpha⟩ | none
  · match stem with
    | [] =>
      rcases start with rfl | ⟨rest, rfl⟩
      · cases whole
      · exact absurd (List.cons.inj whole).1.symm (ne_of_isAlpha alpha (by decide))
    | [d] =>
      rcases start with rfl | ⟨rest, rfl⟩
      · cases whole
      · cases whole
    | d :: e :: stem =>
      cases whole
      rw [List.cons_append, List.cons_append, splitDrive_drive windows alpha,
        clean_append_iff] at h
      obtain ⟨n, dots, cut, dotted⟩ := shorten_eq_take ellipsis limit (c :: ':' :: stem)
      rw [cut, List.append_assoc]
      exact clean_take_drive windows alpha h.1 (clean_append_iff.mpr ⟨dotted, h.2⟩) n
  · rw [none.splitDrive, clean_append_iff] at h
    have both : Clean (shorten ellipsis limit stem ++ ext) :=
      clean_append_iff.mpr ⟨h.1.shorten, h.2⟩
    exact both.behind_drive

/-- No step behind the cleaning puts a forbidden character into a segment. -/
theorem clean_limitChars (h : ∀ segment ∈ segmentsOf p path, Clean segment) :
    ∀ segment ∈ segmentsOf p (limitChars path p.separator limit ellipsis), Clean segment := by
  obtain ⟨front, stem, pieces, limited⟩ :=
    splitChars_limitChars (separator_ne_dot p) path limit ellipsis
  have start := extension_start (Text.afterLast (· = p.separator) path)
  change (splitExtension path p.separator).2 = [] ∨
    ∃ rest, (splitExtension path p.separator).2 = '.' :: rest at start
  generalize (splitExtension path p.separator).2 = ext at pieces limited start
  cases front with
  | nil =>
    rw [segmentsOf_eq pieces, List.forall_mem_singleton] at h
    rw [segmentsOf_eq limited, List.forall_mem_singleton]
    exact clean_shorten_append start h
  | cons first front =>
    rw [List.cons_append] at pieces
    rw [List.map_cons, List.cons_append] at limited
    rw [segmentsOf_eq pieces, List.forall_mem_cons, List.forall_mem_append,
      List.forall_mem_singleton, clean_append_iff] at h
    rw [segmentsOf_eq limited, List.forall_mem_cons, List.forall_mem_append,
      List.forall_mem_singleton, List.forall_mem_map, clean_append_iff]
    obtain ⟨hfirst, hfront, hstem, hext⟩ := h
    refine ⟨?_, fun segment hs => (hfront segment hs).shorten, hstem.shorten, hext⟩
    rw [← List.append_nil first] at hfirst
    have cut := @clean_shorten_append p first [] ellipsis limit (.inl rfl) hfirst
    rwa [List.append_nil] at cut

/-- The segment is cut so that it ends in a dot or a space. -/
def CutBadly (options : PathOptions) (segment : List Char) : Prop :=
  options.maxSegment < segment.length ∧
    (options.ellipsis = true ∧ 2 ≤ options.maxSegment ∨
      EndsBadly (segment.take options.maxSegment))

theorem endsBadly_shorten_iff (h : ¬EndsBadly segment) :
    EndsBadly (shorten options.ellipsis options.maxSegment segment) ↔
      CutBadly options segment := by
  rw [shorten, CutBadly]
  split
  next fits => exact iff_of_false h fun cut => absurd fits (Nat.not_le_of_lt cut.1)
  next long =>
    rw [and_iff_right (Nat.lt_of_not_le long)]
    split
    next dots =>
      rw [Bool.and_eq_true, decide_eq_true_iff] at dots
      have dotted : EndsBadly (segment.take (options.maxSegment - 2) ++ ['.', '.']) := by
        left
        simp
      exact iff_of_true dotted (.inl dots)
    next bare =>
      rw [Bool.and_eq_true, decide_eq_true_iff] at bare
      rw [or_iff_right bare]

theorem endsBadly_append (some : ext ≠ []) (segment : List Char) :
    EndsBadly (segment ++ ext) ↔ EndsBadly ext := by
  rw [EndsBadly, EndsBadly, List.getLast?_append, List.getLast?_eq_some_getLast some,
    Option.some_or]

/-- A path of good segments is left with good ones just where none of them is cut badly. The end of
the last one is that of its extension, which is never cut. -/
theorem endsBadly_limitChars_iff
    (h : ∀ segment ∈ Text.splitChars p.separator path, ¬EndsBadly segment) :
    (∀ segment ∈ Text.splitChars p.separator
        (limitChars path p.separator options.maxSegment options.ellipsis), ¬EndsBadly segment) ↔
      (∀ segment ∈ (Text.splitChars p.separator path).dropLast, ¬CutBadly options segment) ∧
        ((splitExtension path p.separator).2 = [] →
          ∀ last ∈ (Text.splitChars p.separator path).getLast?, ¬CutBadly options last) := by
  obtain ⟨front, stem, pieces, limited⟩ :=
    splitChars_limitChars (separator_ne_dot p) path options.maxSegment options.ellipsis
  generalize (splitExtension path p.separator).2 = ext at pieces limited
  rw [pieces, List.forall_mem_append, List.forall_mem_singleton] at h
  rw [limited, pieces, List.forall_mem_append, List.forall_mem_singleton, List.forall_mem_map,
    List.dropLast_concat, List.getLast?_concat]
  refine and_congr ?_ ?_
  · exact forall₂_congr fun segment hs => not_congr (endsBadly_shorten_iff (h.1 segment hs))
  · by_cases none : ext = []
    · subst none
      have whole := h.2
      rw [List.append_nil] at whole
      simpa using not_congr (endsBadly_shorten_iff whole)
    · have ending := h.2
      rw [endsBadly_append none] at ending
      rw [endsBadly_append none]
      exact iff_of_true ending fun nothing => absurd nothing none

theorem forall_segmentsOf_iff (p : Platform) (path : List Char) :
    (∀ segment ∈ segmentsOf p path, ¬EndsBadly segment) ↔
      ∀ segment ∈ Text.splitChars p.separator path, ¬EndsBadly segment := by
  obtain ⟨first, others, pieces⟩ :=
    List.exists_cons_of_ne_nil (Text.splitChars_ne_nil p.separator path)
  rw [segmentsOf_eq pieces, pieces, List.forall_mem_cons, List.forall_mem_cons,
    endsBadly_splitDrive_iff]

/-- Without a home directory no segment holds a character that a name may not hold. That none ends
in a dot or a space is undone just where a segment is cut behind such a character or gets dots at
its end; the last segment is safe from that where it has an extension. -/
theorem segments_windows_iff {p : Platform} (options : PathOptions) {keepExtension : Bool}
    {song : Song} {text path : String} (windows : p.family = .windows) (homeless : p.home = none)
    (h : (Policy.filePath keepExtension options p).post text song = .ok path) :
    let full := fullPath keepExtension p song text
    let segments := Text.splitChars p.separator full
    (∀ segment ∈ segmentsOf p path.toList, Clean segment) ∧
      ((∀ segment ∈ segmentsOf p path.toList, ¬EndsBadly segment) ↔ text = "" ∨
        (∀ segment ∈ segments.dropLast, ¬CutBadly options segment) ∧
          ((splitExtension full p.separator).2 = [] →
            ∀ last ∈ segments.getLast?, ¬CutBadly options last)) := by
  intro full segments
  by_cases empty : text = ""
  · subst empty
    have same : (.ok "" : Except PatternError String) = .ok path := h
    cases same
    have only : segmentsOf p "".toList = [[]] := by
      rw [segmentsOf, String.toList_empty, (plain_nil p).noDrive.splitDrive]
      rfl
    rw [only, List.forall_mem_singleton, List.forall_mem_singleton]
    exact ⟨nofun, iff_of_true (by decide) (.inl rfl)⟩
  · have safe : full = makeSafe p (pathOf keepExtension p song text) :=
      expandHome_eq_self fun _ _ => .inl homeless
    have names := segmentsOf_makeSafe windows (pathOf keepExtension p song text)
    rw [← safe] at names
    have clean : ∀ segment ∈ segmentsOf p full, Clean segment := by
      rw [names, List.forall_mem_map]
      exact fun segment _ => clean_of_mem_safeSegment segment
    have good : ∀ segment ∈ Text.splitChars p.separator full, ¬EndsBadly segment := by
      rw [← forall_segmentsOf_iff, names, List.forall_mem_map]
      exact fun segment _ => not_endsBadly_safeSegment segment
    rw [or_iff_right empty, eq_of_finish h empty, limitPath, String.toList_ofList,
      String.toList_ofList, forall_segmentsOf_iff]
    exact ⟨clean_limitChars clean, endsBadly_limitChars_iff good⟩

theorem segments_windows_names :
    (Policy.filePath false ⟨true, 255⟩ ⟨.windows, none⟩).post "C:\\a:b?\\c. \\d." .standIn =
        .ok "C:\\a_b_\\c._\\d_" ∧
      ∀ segment ∈ segmentsOf ⟨.windows, none⟩ "C:\\a_b_\\c._\\d_".toList,
        Clean segment ∧ ¬EndsBadly segment := by
  have h : (Policy.filePath false ⟨true, 255⟩ ⟨.windows, none⟩).post "C:\\a:b?\\c. \\d." .standIn =
      .ok "C:\\a_b_\\c._\\d_" := by
    decide +kernel
  obtain ⟨clean, good⟩ := segments_windows_iff ⟨true, 255⟩ rfl rfl h
  have fits : ∀ segment ∈ Text.splitChars '\\'
      (fullPath false ⟨.windows, none⟩ .standIn "C:\\a:b?\\c. \\d."), segment.length ≤ 255 := by
    decide +kernel
  have uncut (segment : List Char) (hs : segment.length ≤ 255) :
      ¬CutBadly ⟨true, 255⟩ segment := fun cut => absurd hs (Nat.not_le_of_lt cut.1)
  have ends := good.mpr (.inr
    ⟨fun segment hs => uncut segment (fits segment (List.dropLast_subset _ hs)),
      fun _ last hl => uncut last (fits last (List.mem_of_getLast? hl))⟩)
  exact ⟨h, fun segment hs => ⟨clean segment hs, ends segment hs⟩⟩

/-- A safe segment is cut down to one that is not. -/
theorem segments_windows_cut :
    (Policy.filePath false ⟨false, 3⟩ ⟨.windows, none⟩).post "\\ab.d\\x" .standIn =
        .ok "\\ab.\\x" ∧
      (Policy.filePath false ⟨true, 3⟩ ⟨.windows, none⟩).post "\\abcd\\x" .standIn =
        .ok "\\a..\\x" ∧
      segmentsOf ⟨.windows, none⟩ "\\ab.\\x".toList = [[], ['a', 'b', '.'], ['x']] ∧
      EndsBadly ['a', 'b', '.'] := by
  decide +kernel

end SongPattern.FilePath

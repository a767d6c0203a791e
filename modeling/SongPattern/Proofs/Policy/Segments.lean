import SongPattern.Proofs.Policy.Opening

namespace SongPattern.FilePath

variable {p : Platform} {options : PathOptions} {sep : Char} {path segment : List Char}
  {ellipsis : Bool} {limit : Nat}

theorem length_shorten_le (ellipsis : Bool) (limit : Nat) (segment : List Char) :
    (shorten ellipsis limit segment).length ≤ limit := by
  rw [shorten]
  split
  next fits => exact fits
  next cut =>
    split
    next dots =>
      rw [Bool.and_eq_true, decide_eq_true_iff] at dots
      rw [List.length_append, List.length_take]
      simp only [List.length_cons, List.length_nil]
      omega
    next bare =>
      rw [List.length_take]
      exact Nat.min_le_left _ _

theorem sep_not_mem_shorten (dot : sep ≠ '.') (h : sep ∉ segment) :
    sep ∉ shorten ellipsis limit segment := fun hs => (mem_shorten hs).elim h dot

theorem shortenEach_concat (ellipsis : Bool) (limit last : Nat) (front : List (List Char))
    (segment : List Char) :
    shortenEach ellipsis limit last (front ++ [segment]) =
      front.map (shorten ellipsis limit) ++ [shorten ellipsis last segment] := by
  induction front with
  | nil => rfl
  | cons first front ih =>
    rw [List.cons_append, shortenEach, ih, List.map_cons, List.cons_append]
    exact List.concat_ne_nil _ _

/-- Each segment is shortened on its own, and the last one in front of its extension, which is left
as it is. -/
theorem splitChars_limitChars (dot : sep ≠ '.') (path : List Char) (limit : Nat)
    (ellipsis : Bool) :
    ∃ front stem, Text.splitChars sep path = front ++ [stem ++ (splitExtension path sep).2] ∧
      Text.splitChars sep (limitChars path sep limit ellipsis) =
        front.map (shorten ellipsis limit) ++
          [shorten ellipsis (limit - (splitExtension path sep).2.length) stem ++
            (splitExtension path sep).2] := by
  obtain ⟨main, ext, parts, whole, fresh, limited⟩ := limitChars_parts path sep limit ellipsis
  rw [parts, limited]
  obtain ⟨front, stem, hmain, hpath⟩ := Text.splitChars_append fresh main
  rw [whole] at hpath
  refine ⟨front, stem, hpath, ?_⟩
  have pieces : ∀ piece ∈ front ++ [stem], sep ∉ piece := by
    rw [← hmain]
    exact fun _ => Text.sep_not_mem_splitChars
  rw [List.forall_mem_append, List.forall_mem_singleton] at pieces
  rw [hmain, shortenEach_concat]
  refine Text.splitChars_intercalate_append ?_ fresh
  rw [List.forall_mem_append, List.forall_mem_singleton, List.forall_mem_map]
  exact ⟨fun piece hp => sep_not_mem_shorten dot (pieces.1 piece hp),
    sep_not_mem_shorten dot pieces.2⟩

/-- No segment is longer than the limit. -/
def Fits (sep : Char) (limit : Nat) (path : String) : Prop :=
  ∀ segment ∈ Text.split sep path, segment.length ≤ limit

instance decidableFits (sep : Char) (limit : Nat) (path : String) :
    Decidable (Fits sep limit path) :=
  inferInstanceAs (Decidable (∀ segment ∈ Text.split sep path, segment.length ≤ limit))

/-- The lengths of the segments, once the path is shortened. -/
theorem lengths_limitPath (dot : sep ≠ '.') (path : String) (limit : Nat) (ellipsis : Bool) :
    let ext := (splitExtension path.toList sep).2
    ∃ front last, Text.split sep (limitPath path sep limit ellipsis) = front ++ [last] ∧
      (∀ segment ∈ front, segment.length ≤ limit) ∧ ext.length ≤ last.length ∧
        last.length ≤ max limit ext.length := by
  intro ext
  obtain ⟨front, stem, _, pieces⟩ := splitChars_limitChars dot path.toList limit ellipsis
  have short := length_shorten_le ellipsis (limit - ext.length) stem
  refine ⟨(front.map (shorten ellipsis limit)).map .ofList,
    .ofList (shorten ellipsis (limit - ext.length) stem ++ ext), ?_, ?_, ?_, ?_⟩
  · rw [Text.split, limitPath, String.toList_ofList, pieces, List.map_append, List.map_singleton]
  · rw [List.map_map, List.forall_mem_map]
    intro segment _
    rw [Function.comp_apply, String.length_ofList]
    exact length_shorten_le ellipsis limit segment
  · rw [String.length_ofList, List.length_append]
    exact Nat.le_add_left _ _
  · rw [String.length_ofList, List.length_append]
    omega

/-- The whole path that a rendered text stands for, before its segments are shortened. -/
def fullPath (keepExtension : Bool) (p : Platform) (song : Song) (text : String) : List Char :=
  p.expandHome (makeSafe p (pathOf keepExtension p song text))

theorem eq_of_finish {keepExtension : Bool} {text path : String} {song : Song}
    (h : finish keepExtension options p text song = .ok path) (some : text ≠ "") :
    path = limitPath (.ofList (fullPath keepExtension p song text)) p.separator options.maxSegment
      options.ellipsis := by
  rw [finish, if_neg some] at h
  rw [← (eq_ok_iff.mp h).2, limitPath, String.toList_ofList]
  rfl

theorem fits_empty (sep : Char) (limit : Nat) : Fits sep limit "" := by
  intro segment hs
  rw [Text.split, String.toList_empty, Text.splitChars] at hs
  rw [List.mem_singleton.mp hs]
  exact Nat.zero_le limit

theorem fits_limitPath_iff (dot : sep ≠ '.') (path : String) (limit : Nat) (ellipsis : Bool) :
    Fits sep limit (limitPath path sep limit ellipsis) ↔
      (splitExtension path.toList sep).2.length ≤ limit := by
  obtain ⟨front, last, pieces, short, whole, bounded⟩ := lengths_limitPath dot path limit ellipsis
  rw [Fits, pieces, List.forall_mem_append, List.forall_mem_singleton]
  constructor
  · rintro ⟨_, fits⟩
    exact whole.trans fits
  · intro fits
    exact ⟨short, bounded.trans (max_le (Nat.le_refl limit) fits)⟩

/-- The segments fit just where the extension does. All that comes before the last segment always
fits, and that one is never longer than the limit and the extension. -/
theorem fits_iff (options : PathOptions) :
    (∀ (path : String) (sep : Char), sep ≠ '.' →
      let ext := (splitExtension path.toList sep).2
      let shortened := limitPath path sep options.maxSegment options.ellipsis
      (Fits sep options.maxSegment shortened ↔ ext.length ≤ options.maxSegment) ∧
        (∀ segment ∈ (Text.split sep shortened).dropLast, segment.length ≤ options.maxSegment) ∧
        Fits sep (max options.maxSegment ext.length) shortened) ∧
    ∀ (keepExtension : Bool) (p : Platform) (song : Song) (text path : String),
      (Policy.filePath keepExtension options p).post text song = .ok path →
      (Fits p.separator options.maxSegment path ↔ text = "" ∨
        (splitExtension (fullPath keepExtension p song text) p.separator).2.length ≤
          options.maxSegment) := by
  constructor
  · intro path sep dot ext shortened
    obtain ⟨front, last, pieces, short, _, bounded⟩ :=
      lengths_limitPath dot path options.maxSegment options.ellipsis
    refine ⟨fits_limitPath_iff dot path _ _, ?_, ?_⟩
    · rw [pieces, List.dropLast_concat]
      exact short
    · rw [Fits, pieces, List.forall_mem_append, List.forall_mem_singleton]
      exact ⟨fun segment hs => (short segment hs).trans (Nat.le_max_left _ _), bounded⟩
  · intro keepExtension p song text path h
    by_cases empty : text = ""
    · subst empty
      have same : (.ok "" : Except PatternError String) = .ok path := h
      cases same
      exact iff_of_true (fits_empty _ _) (.inl rfl)
    · rw [or_iff_right empty, eq_of_finish h empty, fits_limitPath_iff (separator_ne_dot p),
        String.toList_ofList]

/-- All of the limit is taken by the extension, and it is exceeded. -/
theorem fits_long_extension :
    limitPath "/Foo/Bar.mpeg" '/' 4 true = "/Foo/.mpeg" ∧ ¬Fits '/' 4 "/Foo/.mpeg" ∧
      limitPath "a.b" '/' 0 true = ".b" ∧ ¬Fits '/' 0 ".b" ∧
      (Policy.filePath false ⟨true, 4⟩ ⟨.unix, none⟩).post "Bar.mpeg" .standIn = .ok ".mpeg" ∧
      ¬Fits '/' 4 ".mpeg" := by
  decide +kernel

theorem shorten_of_le (fits : segment.length ≤ limit) :
    shorten ellipsis limit segment = segment := if_pos fits

/-- Where each segment fits, the stem of the last one fits into what its extension leaves. -/
theorem limitChars_of_fits (dot : sep ≠ '.')
    (fits : ∀ segment ∈ Text.splitChars sep path, segment.length ≤ limit) :
    limitChars path sep limit ellipsis = path := by
  obtain ⟨front, stem, pieces, limited⟩ := splitChars_limitChars dot path limit ellipsis
  simp only [pieces, List.forall_mem_append, List.forall_mem_singleton,
    List.length_append] at fits
  have kept : ∀ segment ∈ front, shorten ellipsis limit segment = id segment := by
    intro segment hs
    exact shorten_of_le (fits.1 segment hs)
  have others : front.map (shorten ellipsis limit) = front := by
    rw [List.map_congr_left kept, List.map_id]
  have last : stem.length ≤ limit - (splitExtension path sep).2.length := by omega
  have same : Text.splitChars sep (limitChars path sep limit ellipsis) =
      Text.splitChars sep path := by
    rw [limited, others, shorten_of_le last, pieces]
  have joined := congrArg [sep].intercalate same
  simpa only [Text.intercalate_splitChars] using joined

theorem limitPath_of_fits {path : String} (dot : sep ≠ '.') (fits : Fits sep limit path) :
    limitPath path sep limit ellipsis = path := by
  have chars : ∀ segment ∈ Text.splitChars sep path.toList, segment.length ≤ limit := by
    intro segment hs
    have short := fits (.ofList segment) (List.mem_map_of_mem hs)
    simpa only [String.length_ofList] using short
  rw [limitPath, limitChars_of_fits dot chars, String.ofList_toList]

theorem length_split_limitPath (dot : sep ≠ '.') (path : String) (limit : Nat) (ellipsis : Bool) :
    (Text.split sep (limitPath path sep limit ellipsis)).length = (Text.split sep path).length := by
  obtain ⟨front, stem, pieces, limited⟩ := splitChars_limitChars dot path.toList limit ellipsis
  simp [Text.split, limitPath, pieces, limited]

theorem extension_suffix_limitPath (path : String) (sep : Char) (limit : Nat) (ellipsis : Bool) :
    (splitExtension path.toList sep).2 <:+ (limitPath path sep limit ellipsis).toList := by
  rw [limitPath, String.toList_ofList, limitChars]
  generalize splitExtension path.toList sep = parts
  exact List.suffix_append _ _

/-- Where the limit has room for the extension, a path is changed just where one of its segments is
too long, and what came of it is not changed again, whatever became of the stem. There are as many
segments as before, and the last one ends in the same extension. -/
theorem limitPath_stable {path : String} (dot : sep ≠ '.')
    (room : (splitExtension path.toList sep).2.length ≤ limit) :
    let limited := limitPath path sep limit ellipsis
    (Text.split sep limited).length = (Text.split sep path).length ∧
      (splitExtension path.toList sep).2 <:+ limited.toList ∧
      (limited = path ↔ Fits sep limit path) ∧
      limitPath limited sep limit ellipsis = limited := by
  intro limited
  have fits : Fits sep limit limited := (fits_limitPath_iff dot path limit ellipsis).mpr room
  refine ⟨length_split_limitPath dot path limit ellipsis,
    extension_suffix_limitPath path sep limit ellipsis, ?_, limitPath_of_fits dot fits⟩
  constructor
  · intro same
    rwa [same] at fits
  · exact limitPath_of_fits dot

/-- Nothing but dots is left of the stem, so the second time there is no extension. -/
theorem limitPath_stable_dots :
    let path := "/Compilation/Medley.mpeg"
    let limited := "/Compi../...mpeg"
    '/' ≠ '.' ∧ (splitExtension path.toList '/').2 = ".mpeg".toList ∧
      limitPath path '/' 7 true = limited ∧ ¬Fits '/' 7 path ∧
      ".mpeg".toList <:+ limited.toList ∧ (splitExtension limited.toList '/').2 = [] ∧
      limitPath limited '/' 7 true = limited := by
  intro path limited
  have dot : '/' ≠ '.' := by decide
  have ext : (splitExtension path.toList '/').2 = ".mpeg".toList := by decide +kernel
  have room : (splitExtension path.toList '/').2.length ≤ 7 := by
    rw [ext]
    decide
  have cut : limitPath path '/' 7 true = limited := by decide +kernel
  obtain ⟨-, kept, changed, again⟩ := @limitPath_stable '/' true 7 path dot room
  rw [ext, cut] at kept
  rw [cut] at changed again
  have other : limited ≠ path := by decide
  have gone : (splitExtension limited.toList '/').2 = [] := by decide +kernel
  exact ⟨dot, ext, cut, mt changed.mpr other, kept, gone, again⟩

end SongPattern.FilePath

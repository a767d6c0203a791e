import SongPattern.Proofs.Policy.Root

namespace SongPattern.FilePath

variable {p : Platform} {options : PathOptions} {c : Char} {path segment rest : List Char}

theorem separator_unix (unix : p.family = .unix) : p.separator = '/' := by
  rw [Platform.separator, unix]

theorem separator_windows (windows : p.family = .windows) : p.separator = '\\' := by
  rw [Platform.separator, windows]

theorem plain_unix (unix : p.family = .unix) (h : p.separator ∉ segment) : Plain p segment := by
  intro c hc
  have differ : c ≠ p.separator := by
    rintro rfl
    exact h hc
  have no_windows : p.family ≠ .windows := by rw [unix]; nofun
  exact ⟨by simp [Platform.isSeparator, differ, no_windows],
    fun windows => absurd windows no_windows⟩

theorem allowed_of_mem_safeSegment (h : c ∈ safeSegment segment) : isForbidden c = false := by
  have replaced : ∀ d ∈ segment.map fun d => if isForbidden d then '_' else d,
      isForbidden d = false := by
    rw [List.forall_mem_map]
    intro d _
    split
    · decide
    next allowed => exact Bool.eq_false_iff.mpr allowed
  rw [safeSegment] at h
  split at h
  · rcases List.mem_append.mp h with h | h
    · exact replaced c ((List.dropLast_sublist _).subset h)
    · rw [List.mem_singleton.mp h]
      decide
  · exact replaced c h

theorem plain_safeSegment (p : Platform) (segment : List Char) :
    Plain p (safeSegment segment) := by
  intro c hc
  have allowed := allowed_of_mem_safeSegment hc
  have differ {e : Char} (forbidden : isForbidden e = true) : c ≠ e := by
    rintro rfl
    exact Bool.false_ne_true (allowed.symm.trans forbidden)
  exact plain_char (differ (by decide)) (differ (by decide)) (differ (by decide))

theorem safeSegment_eq_nil_iff : safeSegment segment = [] ↔ segment = [] := by
  rw [safeSegment]
  split
  next bad =>
    refine iff_of_false (by simp) ?_
    rintro rfl
    exact absurd bad (by decide)
  · exact List.map_eq_nil_iff

theorem safeSegment_eq_tilde_iff : safeSegment segment = ['~'] ↔ segment = ['~'] := by
  rw [safeSegment]
  split
  next bad =>
    refine iff_of_false ?_ ?_
    · intro h
      have last := congrArg List.getLast? h
      rw [List.getLast?_concat] at last
      exact absurd last (by decide)
    · rintro rfl
      exact absurd bad (by decide)
  · rw [List.map_eq_singleton_iff]
    constructor
    · rintro ⟨c, rfl, hc⟩
      split at hc
      · exact absurd hc (by decide)
      · rw [hc]
    · rintro rfl
      exact ⟨'~', rfl, by decide⟩

/-- The first segment of a path without a drive, once it is made safe. -/
theorem makeSafe_append (none : NoDrive p path) (h : p.separator ∈ path) :
    ∃ first rest, makeSafe p path = first ++ p.separator :: rest ∧ Plain p first ∧
      (first = [] ↔ [p.separator] <+: path) ∧ (first = ['~'] ↔ ['~', p.separator] <+: path) := by
  have nothing : p.separator ∉ ([] : List Char) := nofun
  have start := takeWhile_eq_iff h nothing
  have start_home := takeWhile_eq_iff h (sep_not_mem_tilde p)
  cases family : p.family with
  | unix =>
    obtain ⟨rest, whole⟩ := eq_takeWhile_append h
    have fresh : p.separator ∉ path.takeWhile (· ≠ p.separator) := by
      intro hs
      simpa using List.mem_takeWhile_imp hs
    refine ⟨path.takeWhile (· ≠ p.separator), rest, ?_, plain_unix family fresh, start, start_home⟩
    rw [makeSafe, family]
    exact whole
  | windows =>
    obtain ⟨pieces, some, split⟩ := Text.splitChars_of_mem h
    refine ⟨safeSegment (path.takeWhile (· ≠ p.separator)),
      [p.separator].intercalate (pieces.map safeSegment), ?_, plain_safeSegment p _,
      safeSegment_eq_nil_iff.trans start, safeSegment_eq_tilde_iff.trans start_home⟩
    have others : pieces.map safeSegment ≠ [] := mt List.map_eq_nil_iff.mp some
    rw [separator_windows family] at split ⊢
    rw [makeSafe, family]
    simp only [none.splitDrive]
    rw [split, List.map_cons, Text.intercalate_cons_of_ne_nil _ _ others, List.nil_append]

theorem makeSafe_drive (windows : p.family = .windows) (alpha : c.isAlpha = true)
    (h : p.separator ∈ path) :
    ∃ first rest, makeSafe p (c :: ':' :: path) = c :: ':' :: first ++ p.separator :: rest ∧
      Plain p first ∧ (first = [] ↔ [p.separator] <+: path) := by
  obtain ⟨pieces, some, split⟩ := Text.splitChars_of_mem h
  have others : pieces.map safeSegment ≠ [] := mt List.map_eq_nil_iff.mp some
  refine ⟨safeSegment (path.takeWhile (· ≠ p.separator)),
    [p.separator].intercalate (pieces.map safeSegment), ?_, plain_safeSegment p _,
    safeSegment_eq_nil_iff.trans (takeWhile_eq_iff h nofun)⟩
  rw [separator_windows windows] at split ⊢
  rw [makeSafe, windows]
  simp only [splitDrive_drive windows alpha]
  rw [split, List.map_cons, Text.intercalate_cons_of_ne_nil _ _ others]
  rfl

/-- The name of a drive holds no separator. -/
theorem sep_mem_drive_iff (alpha : c.isAlpha = true) :
    p.separator ∈ c :: ':' :: path ↔ p.separator ∈ path := by
  have letter : p.separator ≠ c := (ne_of_isAlpha alpha (separator_not_alpha p)).symm
  simp [letter, separator_ne_colon]

theorem expandHome_tilde {dir : String} (known : p.home = some dir)
    (h : rest = [] ∨ p.startsAtSeparator rest = true) :
    p.expandHome ('~' :: rest) = dir.toList ++ rest := by
  rw [Platform.expandHome.eq_1 p dir rest known, if_pos]
  rw [Bool.or_eq_true, List.isEmpty_iff]
  exact h

theorem expandHome_eq_self
    (h : ∀ rest, path = '~' :: rest →
      p.home = none ∨ rest ≠ [] ∧ p.startsAtSeparator rest = false) :
    p.expandHome path = path := by
  rw [Platform.expandHome.eq_def]
  split
  next dir rest known =>
    rcases h rest rfl with none | ⟨some, inside⟩
    · cases known.symm.trans none
    · rw [inside, Bool.or_false, if_neg (mt List.isEmpty_iff.mp some)]
  · rfl

/-- Only a lone tilde in the first segment stands for the home directory. -/
theorem Plain.expandHome (h : Plain p segment) (other : segment = ['~'] → p.home = none)
    {tail : List Char} (ht : tail = [] ∨ ∃ rest, tail = p.separator :: rest) :
    p.expandHome (segment ++ tail) = segment ++ tail := by
  refine expandHome_eq_self fun rest whole => ?_
  match segment with
  | [] =>
    rcases ht with rfl | ⟨more, rfl⟩
    · cases whole
    · exact absurd (List.cons.inj whole).1 (separator_ne p (by decide) (by decide))
  | [c] =>
    obtain ⟨rfl, _⟩ := List.cons.inj whole
    exact .inl (other rfl)
  | c :: d :: segment =>
    obtain ⟨_, rfl⟩ := List.cons.inj whole
    exact .inr ⟨List.cons_ne_nil _ _, (h d (by simp)).1⟩

end SongPattern.FilePath

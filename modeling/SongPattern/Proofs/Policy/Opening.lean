import SongPattern.Proofs.Policy.SafePath

namespace SongPattern.FilePath

variable {p : Platform} {options : PathOptions} {c : Char} {path segment rest : List Char}

/-- How a path with separators has to start: at a root, or at what is made a root of. -/
inductive Opening (options : PathOptions) (p : Platform) (path : List Char) : Prop where
  | nothingKept (zero : options.maxSegment = 0)
  | separator (start : [p.separator] <+: path)
  | home (dir : String) (known : p.home = some dir) (start : ['~', p.separator] <+: path)
      (rooted : startsAtRoot options p (dir.toList.takeWhile (· ≠ p.separator)) = true)
  | drive (c : Char) (windows : p.family = .windows) (alpha : c.isAlpha = true)
      (start : [c, ':', p.separator] <+: path) (kept : 2 ≤ options.maxSegment)
  | cutToDrive (c : Char) (windows : p.family = .windows) (alpha : c.isAlpha = true)
      (start : [c, ':'] <+: path) (two : options.maxSegment = 2) (bare : options.ellipsis = false)

theorem startsAtRoot_of_zero (zero : options.maxSegment = 0) (segment : List Char) :
    startsAtRoot options p segment = true := by
  have nothing : shorten options.ellipsis options.maxSegment segment = [] :=
    shorten_eq_nil_iff.mpr (.inl zero)
  rw [startsAtRoot, nothing]
  exact (plain_nil p).isAbsolute.mpr rfl

theorem opening_drive_iff (windows : p.family = .windows) (alpha : c.isAlpha = true) :
    Opening options p (c :: ':' :: path) ↔
      options.maxSegment = 0 ∨ 2 ≤ options.maxSegment ∧ [p.separator] <+: path ∨
        options.maxSegment = 2 ∧ options.ellipsis = false := by
  constructor
  · intro h
    cases h with
    | nothingKept zero => exact .inl zero
    | separator start =>
      have first := (List.cons_prefix_cons.mp start).1
      exact absurd first.symm (ne_of_isAlpha alpha (separator_not_alpha p))
    | home dir known start rooted =>
      have first := (List.cons_prefix_cons.mp start).1
      exact absurd first.symm (ne_of_isAlpha alpha (by decide))
    | drive d _ _ start kept =>
      have tail := (List.cons_prefix_cons.mp start).2
      exact .inr (.inl ⟨kept, (List.cons_prefix_cons.mp tail).2⟩)
    | cutToDrive d _ _ start two bare => exact .inr (.inr ⟨two, bare⟩)
  · rintro (zero | ⟨kept, start⟩ | ⟨two, bare⟩)
    · exact .nothingKept zero
    · exact .drive c windows alpha (by simpa using start) kept
    · exact .cutToDrive c windows alpha (by simp) two bare

theorem opening_iff (none : NoDrive p path) : Opening options p path ↔
    options.maxSegment = 0 ∨ [p.separator] <+: path ∨
      ∃ dir, p.home = some dir ∧ ['~', p.separator] <+: path ∧
        startsAtRoot options p (dir.toList.takeWhile (· ≠ p.separator)) = true := by
  constructor
  · intro h
    cases h with
    | nothingKept zero => exact .inl zero
    | separator start => exact .inr (.inl start)
    | home dir known start rooted => exact .inr (.inr ⟨dir, known, start, rooted⟩)
    | drive c windows alpha start kept =>
      obtain ⟨rest, rfl⟩ := start
      exact absurd ⟨windows, alpha⟩ (none c _ rfl)
    | cutToDrive c windows alpha start two bare =>
      obtain ⟨rest, rfl⟩ := start
      exact absurd ⟨windows, alpha⟩ (none c _ rfl)
  · rintro (zero | start | ⟨dir, known, start, rooted⟩)
    · exact .nothingKept zero
    · exact .separator start
    · exact .home dir known start rooted

theorem takeWhile_append_plain (h : Plain p segment) (rest : List Char) :
    (segment ++ p.separator :: rest).takeWhile (· ≠ p.separator) = segment := by
  rw [takeWhile_append_sep, takeWhile_of_not_mem h.sep_not_mem]

/-- A path with separators is left with a root at its start just where it has such an opening. -/
theorem startsAtRoot_iff_opening (h : p.separator ∈ path) :
    p.separator ∈ p.expandHome (makeSafe p path) ∧
      (startsAtRoot options p
          ((p.expandHome (makeSafe p path)).takeWhile (· ≠ p.separator)) = true ↔
        Opening options p path) := by
  rcases drive_or_noDrive p path with ⟨c, tail, rfl, windows, alpha⟩ | none
  · obtain ⟨first, rest, safe, plain, start⟩ :=
      makeSafe_drive windows alpha ((sep_mem_drive_iff alpha).mp h)
    have same : p.expandHome (makeSafe p (c :: ':' :: tail)) = makeSafe p (c :: ':' :: tail) := by
      refine expandHome_eq_self fun more whole => ?_
      rw [safe] at whole
      exact absurd (List.cons.inj whole).1 (ne_of_isAlpha alpha (by decide))
    have drive : p.separator ∉ c :: ':' :: first :=
      mt (sep_mem_drive_iff alpha).mp plain.sep_not_mem
    rw [same, safe, takeWhile_append_sep, takeWhile_of_not_mem drive,
      startsAtRoot_drive windows alpha plain, opening_drive_iff windows alpha, start]
    exact ⟨by simp, Iff.rfl⟩
  · obtain ⟨first, rest, safe, plain, start, atHome⟩ := makeSafe_append none h
    rw [opening_iff none, safe, ← start, ← atHome]
    cases known : p.home with
    | none =>
      rw [plain.expandHome (fun _ => known) (.inr ⟨rest, rfl⟩), takeWhile_append_plain plain,
        startsAtRoot_plain plain]
      simp
    | some dir =>
      by_cases tilde : first = ['~']
      · subst tilde
        have expanded : p.expandHome ('~' :: p.separator :: rest) =
            dir.toList ++ p.separator :: rest :=
          expandHome_tilde known (.inr (isSeparator_separator p))
        rw [List.singleton_append, expanded, takeWhile_append_sep]
        refine ⟨by simp, fun rooted => .inr (.inr ⟨dir, rfl, rfl, rooted⟩), ?_⟩
        rintro (zero | none | ⟨_, ⟨⟩, _, rooted⟩)
        · exact startsAtRoot_of_zero zero _
        · cases none
        · exact rooted
      · rw [plain.expandHome (fun h => absurd h tilde) (.inr ⟨rest, rfl⟩),
          takeWhile_append_plain plain, startsAtRoot_plain plain]
        simp [tilde]

theorem exists_cons_of_isAbsolute {dir : String} (unix : p.family = .unix)
    (absolute : p.isAbsolute dir = true) : ∃ rest, dir.toList = p.separator :: rest := by
  have none : NoDrive p dir.toList := by
    intro c rest _ drive
    cases unix.symm.trans drive.1
  rw [← String.ofList_toList (s := dir), none.isAbsolute] at absolute
  cases chars : dir.toList with
  | nil =>
    rw [chars] at absolute
    cases absolute
  | cons c rest =>
    rw [chars] at absolute
    have root : c = p.separator := by
      simpa [Platform.startsAtSeparator, Platform.isSeparator, unix] using absolute
    exact ⟨rest, by rw [root]⟩

theorem startsAtRoot_home_unix {options : PathOptions} {dir : String} (unix : p.family = .unix)
    (absolute : p.isAbsolute dir = true) :
    startsAtRoot options p (dir.toList.takeWhile (· ≠ p.separator)) = true := by
  obtain ⟨rest, chars⟩ := exists_cons_of_isAbsolute unix absolute
  rw [chars, List.takeWhile_cons_of_neg (by simp)]
  exact (startsAtRoot_plain (plain_nil p)).mpr (.inr rfl)

/-- What the check for a root lets through. A path without separators needs no root, but the tilde
may stand for a directory that is cut short. -/
structure Accepted (options : PathOptions) (p : Platform) (path : List Char) : Prop where
  opening : p.separator ∈ path → Opening options p path
  home : path = ['~'] → ∀ dir, p.home = some dir → p.separator ∈ dir.toList →
    startsAtRoot options p (dir.toList.takeWhile (· ≠ p.separator)) = true

/-- The only segment of a path without a drive, once it is made safe. -/
theorem makeSafe_plain (none : NoDrive p path) (h : p.separator ∉ path) :
    Plain p (makeSafe p path) ∧ (makeSafe p path = ['~'] ↔ path = ['~']) := by
  cases family : p.family with
  | unix =>
    have same : makeSafe p path = path := by rw [makeSafe, family]
    rw [same]
    exact ⟨plain_unix family h, Iff.rfl⟩
  | windows =>
    have alone : makeSafe p path = safeSegment path := by
      rw [separator_windows family] at h
      rw [makeSafe, family]
      simp only [none.splitDrive]
      rw [Text.splitChars_of_not_mem h]
      simp
    rw [alone]
    exact ⟨plain_safeSegment p path, safeSegment_eq_tilde_iff⟩

theorem expandHome_of_not_mem (h : p.separator ∉ path) (other : path ≠ ['~']) :
    p.separator ∉ p.expandHome (makeSafe p path) := by
  rcases drive_or_noDrive p path with ⟨c, tail, rfl, windows, alpha⟩ | none
  · have safe : makeSafe p (c :: ':' :: tail) = c :: ':' :: safeSegment tail := by
      have fresh : p.separator ∉ tail := mt (sep_mem_drive_iff alpha).mpr h
      rw [separator_windows windows] at fresh
      rw [makeSafe, windows]
      simp only [splitDrive_drive windows alpha]
      rw [Text.splitChars_of_not_mem fresh]
      simp
    rw [safe, expandHome_eq_self]
    · exact mt (sep_mem_drive_iff alpha).mp (plain_safeSegment p tail).sep_not_mem
    · intro rest whole
      exact absurd (List.cons.inj whole).1 (ne_of_isAlpha alpha (by decide))
  · obtain ⟨plain, same⟩ := makeSafe_plain none h
    have unchanged := plain.expandHome (fun tilde => absurd (same.mp tilde) other) (.inl rfl)
    rw [List.append_nil] at unchanged
    rw [unchanged]
    exact plain.sep_not_mem

theorem makeSafe_tilde (p : Platform) : makeSafe p ['~'] = ['~'] := by
  have none : NoDrive p ['~'] := nofun
  exact (makeSafe_plain none (sep_not_mem_tilde p)).2.mpr rfl

/-- The check for a root, said of the path before anything was made of it. -/
theorem rooted_iff_accepted :
    (p.separator ∈ p.expandHome (makeSafe p path) →
      startsAtRoot options p
        ((p.expandHome (makeSafe p path)).takeWhile (· ≠ p.separator)) = true) ↔
      Accepted options p path := by
  have tilde : p.separator ∉ ['~'] := sep_not_mem_tilde p
  by_cases h : p.separator ∈ path
  · obtain ⟨there, opening⟩ := @startsAtRoot_iff_opening p options path h
    constructor
    · refine fun rooted => ⟨fun _ => opening.mp (rooted there), ?_⟩
      rintro rfl
      exact absurd h tilde
    · exact fun accepted _ => opening.mpr (accepted.opening h)
  · by_cases alone : path = ['~']
    · subst alone
      rw [makeSafe_tilde]
      cases known : p.home with
      | none =>
        have same : p.expandHome ['~'] = ['~'] :=
          expandHome_eq_self fun rest _ => .inl known
        rw [same]
        exact iff_of_true (fun there => absurd there tilde)
          ⟨fun there => absurd there tilde, fun _ dir hd => by cases known.symm.trans hd⟩
      | some dir =>
        rw [expandHome_tilde known (.inl rfl), List.append_nil]
        constructor
        · refine fun rooted => ⟨fun there => absurd there tilde, fun _ dir' known' => ?_⟩
          cases known.symm.trans known'
          exact rooted
        · exact fun accepted => accepted.home rfl dir known
    · exact iff_of_true (fun there => absurd there (expandHome_of_not_mem h alone))
        ⟨fun there => absurd there h, fun tilde => absurd tilde alone⟩

/-- The path that a rendered text stands for. -/
def pathOf (keepExtension : Bool) (p : Platform) (song : Song) (text : String) : List Char :=
  if keepExtension then appendExtension p song text.toList else text.toList

theorem pathOf_eq (keepExtension : Bool) (p : Platform) (song : Song) (text : String) :
    ∃ ext, pathOf keepExtension p song text = text.toList ++ ext ∧ p.separator ∉ ext := by
  have nothing : ∃ ext, text.toList = text.toList ++ ext ∧ p.separator ∉ ext :=
    ⟨[], (List.append_nil _).symm, nofun⟩
  rw [pathOf, appendExtension]
  split
  · cases he : songExtension? p song with
    | none => exact nothing
    | some ext =>
      simp only
      split
      · exact nothing
      · exact ⟨ext, rfl, sep_not_mem_songExtension he⟩
  · exact nothing

theorem limitChars_isAccepted_iff (path : List Char) :
    ((limitChars path p.separator options.maxSegment options.ellipsis).contains p.separator &&
      !p.isAbsolute (.ofList (limitChars path p.separator options.maxSegment options.ellipsis))) =
        false ↔
      (p.separator ∈ path →
        startsAtRoot options p (path.takeWhile (· ≠ p.separator)) = true) := by
  by_cases h : p.separator ∈ path
  · obtain ⟨rest, limited⟩ :=
      @limitChars_of_mem p.separator path options.ellipsis options.maxSegment h
    rw [limited, isAbsolute_append, ← startsAtRoot]
    simp [h]
  · have fresh := @limitChars_of_not_mem p.separator path options.ellipsis options.maxSegment
      (separator_ne_dot p) h
    simp [h, fresh]

theorem eq_ok_iff {refused : Bool} {cause : PatternError} {text s : String} :
    (if refused then .error cause else .ok text : Except PatternError String) = .ok s ↔
      refused = false ∧ text = s := by
  cases refused <;> simp

theorem error_of_ite {refused : Bool} {cause e : PatternError} {text : String}
    (h : (if refused then .error cause else .ok text : Except PatternError String) = .error e) :
    cause = e := by
  cases refused with
  | false => cases h
  | true => exact Except.error.inj h

theorem exists_ok_iff {refused : Bool} {cause : PatternError} {text : String} :
    (∃ s, (if refused then .error cause else .ok text : Except PatternError String) = .ok s) ↔
      refused = false := by
  simp only [eq_ok_iff, exists_eq_right']

theorem finish_isOk_iff {keepExtension : Bool} {text : String} {song : Song} :
    (∃ s, finish keepExtension options p text song = .ok s) ↔
      text = "" ∨ Accepted options p (pathOf keepExtension p song text) := by
  rw [← rooted_iff_accepted, ← limitChars_isAccepted_iff, finish]
  by_cases empty : text = ""
  · rw [if_pos empty]
    exact iff_of_true ⟨text, rfl⟩ (.inl empty)
  · rw [if_neg empty, or_iff_right empty]
    exact exists_ok_iff

/-- A path is refused for nothing but where it starts. -/
theorem notRooted_of_finish {keepExtension : Bool} {text : String} {song : Song}
    {e : PatternError} (h : finish keepExtension options p text song = .error e) :
    ∃ path, e = .notRooted path := by
  rw [finish] at h
  by_cases empty : text = ""
  · rw [if_pos empty] at h
    cases h
  · rw [if_neg empty] at h
    exact ⟨_, (error_of_ite h).symm⟩

end SongPattern.FilePath

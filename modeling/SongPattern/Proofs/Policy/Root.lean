import SongPattern.Proofs.Policy.FilePath

namespace SongPattern.FilePath

variable {p : Platform} {options : PathOptions} {c : Char} {path segment rest : List Char}

theorem separator_not_alpha (p : Platform) : p.separator.isAlpha = false := by
  rcases separator_cases p with h | h <;> rw [h] <;> decide

theorem splitDrive_drive (windows : p.family = .windows) (alpha : c.isAlpha = true)
    (rest : List Char) : p.splitDrive (c :: ':' :: rest) = ([c, ':'], rest) := by
  rw [Platform.splitDrive, windows, alpha]
  rfl

def NoDrive (p : Platform) (path : List Char) : Prop :=
  ∀ c rest, path = c :: ':' :: rest → ¬(p.family = .windows ∧ c.isAlpha = true)

theorem NoDrive.splitDrive (h : NoDrive p path) : p.splitDrive path = ([], path) := by
  rw [Platform.splitDrive.eq_def]
  split
  next c rest =>
    rw [if_neg]
    rw [Bool.and_eq_true, decide_eq_true_iff]
    exact h c rest rfl
  · rfl

theorem drive_or_noDrive (p : Platform) (path : List Char) :
    (∃ c rest, path = c :: ':' :: rest ∧ p.family = .windows ∧ c.isAlpha = true) ∨
      NoDrive p path := by
  by_cases h : ∃ c rest, path = c :: ':' :: rest ∧ p.family = .windows ∧ c.isAlpha = true
  · exact .inl h
  · exact .inr fun c rest hp drive => h ⟨c, rest, hp, drive⟩

/-- Only the first segment can hold a drive. -/
theorem NoDrive.append (h : NoDrive p segment) (rest : List Char) :
    NoDrive p (segment ++ p.separator :: rest) := by
  intro c more hp drive
  match segment with
  | [] =>
    have first : p.separator = c := (List.cons.inj hp).1
    exact Bool.false_ne_true ((separator_not_alpha p).symm.trans (first ▸ drive.2))
  | [d] => exact separator_ne_colon p (List.cons.inj (List.cons.inj hp).2).1
  | d :: e :: segment =>
    obtain ⟨rfl, tail⟩ := List.cons.inj hp
    obtain ⟨rfl, _⟩ := List.cons.inj tail
    exact h d segment rfl drive

theorem NoDrive.isAbsolute (h : NoDrive p path) :
    p.isAbsolute (.ofList path) = p.startsAtSeparator path := by
  rw [Platform.isAbsolute, String.toList_ofList, h.splitDrive]

/-- What a path starts at is seen from its first segment. -/
theorem isAbsolute_append (p : Platform) (segment rest : List Char) :
    p.isAbsolute (.ofList (segment ++ p.separator :: rest)) =
      p.isAbsolute (.ofList (segment ++ [p.separator])) := by
  rcases drive_or_noDrive p segment with ⟨c, more, rfl, windows, alpha⟩ | none
  · rw [Platform.isAbsolute, Platform.isAbsolute, String.toList_ofList, String.toList_ofList]
    simp only [List.cons_append, splitDrive_drive windows alpha]
    cases more <;> rfl
  · rw [(none.append rest).isAbsolute, (none.append []).isAbsolute]
    cases segment <;> rfl

/-- No character of the segment makes a root. -/
def Plain (p : Platform) (segment : List Char) : Prop :=
  ∀ c ∈ segment, p.isSeparator c = false ∧ (p.family = .windows → c ≠ ':')

theorem plain_nil (p : Platform) : Plain p [] := by
  intro c hc
  cases hc

theorem Plain.noDrive (h : Plain p segment) : NoDrive p segment := by
  rintro c rest rfl drive
  exact (h ':' (by simp)).2 drive.1 rfl

theorem Plain.sep_not_mem (h : Plain p segment) : p.separator ∉ segment := by
  intro hs
  exact Bool.false_ne_true ((h _ hs).1.symm.trans (isSeparator_separator p))

theorem Plain.startsAtSeparator (h : Plain p segment) (rest : List Char) :
    p.startsAtSeparator (segment ++ p.separator :: rest) = true ↔ segment = [] := by
  cases segment with
  | nil => exact iff_of_true (isSeparator_separator p) rfl
  | cons c segment =>
    have first : p.isSeparator c = false := (h c List.mem_cons_self).1
    exact iff_of_false (fun at_root => Bool.false_ne_true (first.symm.trans at_root)) nofun

theorem Plain.isAbsolute (h : Plain p segment) :
    p.isAbsolute (.ofList (segment ++ [p.separator])) = true ↔ segment = [] := by
  rw [(h.noDrive.append []).isAbsolute]
  exact h.startsAtSeparator []

theorem isAbsolute_drive (windows : p.family = .windows) (alpha : c.isAlpha = true)
    (h : Plain p segment) :
    p.isAbsolute (.ofList (c :: ':' :: segment ++ [p.separator])) = true ↔ segment = [] := by
  rw [Platform.isAbsolute, String.toList_ofList, List.cons_append, List.cons_append,
    splitDrive_drive windows alpha]
  exact h.startsAtSeparator []

theorem plain_char (slash : c ≠ '/') (backslash : c ≠ '\\') (colon : c ≠ ':') :
    p.isSeparator c = false ∧ (p.family = .windows → c ≠ ':') := by
  refine ⟨?_, fun _ => colon⟩
  rw [Platform.isSeparator]
  rcases separator_cases p with sep | sep <;> simp [sep, slash, backslash]

theorem plain_dots (p : Platform) : Plain p ['.', '.'] := by
  intro c hc
  have dot : c = '.' := by simpa using hc
  rw [dot]
  exact plain_char (by decide) (by decide) (by decide)

theorem Plain.append {more : List Char} (h : Plain p segment) (hm : Plain p more) :
    Plain p (segment ++ more) :=
  fun c hc => (List.mem_append.mp hc).elim (h c) (hm c)

theorem Plain.take (h : Plain p segment) (n : Nat) : Plain p (segment.take n) :=
  fun c hc => h c (List.mem_of_mem_take hc)

theorem Plain.shorten (h : Plain p segment) (ellipsis : Bool) (limit : Nat) :
    Plain p (shorten ellipsis limit segment) := by
  rw [FilePath.shorten]
  split
  · exact h
  · split
    · exact (h.take _).append (plain_dots p)
    · exact h.take _

/-- Whether a path that goes on behind this first segment starts at a root, once it is shortened. -/
def startsAtRoot (options : PathOptions) (p : Platform) (segment : List Char) : Bool :=
  p.isAbsolute (.ofList (shorten options.ellipsis options.maxSegment segment ++ [p.separator]))

theorem startsAtRoot_plain (h : Plain p segment) :
    startsAtRoot options p segment = true ↔ options.maxSegment = 0 ∨ segment = [] := by
  rw [startsAtRoot, (h.shorten _ _).isAbsolute, shorten_eq_nil_iff]

theorem ne_of_isAlpha {d : Char} (alpha : c.isAlpha = true) (other : d.isAlpha = false) :
    c ≠ d := by
  rintro rfl
  exact Bool.false_ne_true (other.symm.trans alpha)

theorem plain_letter (alpha : c.isAlpha = true) : Plain p [c] := by
  intro d hd
  rw [List.mem_singleton.mp hd]
  exact plain_char (ne_of_isAlpha alpha (by decide)) (ne_of_isAlpha alpha (by decide))
    (ne_of_isAlpha alpha (by decide))

/-- A drive that is cut, with the dots behind it, is no root any more. -/
theorem not_isAbsolute_dots (windows : p.family = .windows) (alpha : c.isAlpha = true)
    (h : Plain p segment) (n : Nat) :
    ¬p.isAbsolute
      (.ofList ((c :: ':' :: segment).take n ++ ['.', '.'] ++ [p.separator])) = true := by
  cases n with
  | zero => exact mt (plain_dots p).isAbsolute.mp (List.cons_ne_nil _ _)
  | succ n =>
    cases n with
    | zero =>
      have plain : Plain p ([c] ++ ['.', '.']) := (plain_letter alpha).append (plain_dots p)
      exact mt plain.isAbsolute.mp (List.cons_ne_nil _ _)
    | succ n =>
      have plain := (h.take n).append (plain_dots p)
      have some : segment.take n ++ ['.', '.'] ≠ [] :=
        List.append_ne_nil_of_right_ne_nil _ (List.cons_ne_nil _ _)
      exact mt (isAbsolute_drive windows alpha plain).mp some

/-- A drive has to be left as it is, so that the separator behind it is still behind it. -/
theorem startsAtRoot_drive (windows : p.family = .windows) (alpha : c.isAlpha = true)
    (h : Plain p segment) :
    startsAtRoot options p (c :: ':' :: segment) = true ↔
      options.maxSegment = 0 ∨ 2 ≤ options.maxSegment ∧ segment = [] ∨
        options.maxSegment = 2 ∧ options.ellipsis = false := by
  obtain ⟨ellipsis, limit⟩ := options
  rw [startsAtRoot, shorten]
  simp only [List.length_cons]
  split
  next fits =>
    rw [isAbsolute_drive windows alpha h]
    constructor
    · exact fun none => .inr (.inl ⟨by omega, none⟩)
    · rintro (zero | ⟨_, none⟩ | ⟨two, _⟩)
      · omega
      · exact none
      · exact List.eq_nil_of_length_eq_zero (by omega)
  next cut =>
    have some (two : 2 ≤ limit) : segment ≠ [] := by
      rintro rfl
      exact cut two
    split
    next dots =>
      rw [Bool.and_eq_true, decide_eq_true_iff] at dots
      refine iff_of_false (not_isAbsolute_dots windows alpha h _) ?_
      rintro (zero | ⟨two, none⟩ | ⟨_, plain⟩)
      · omega
      · exact some two none
      · exact Bool.false_ne_true (plain.symm.trans dots.1)
    next bare =>
      cases limit with
      | zero => exact iff_of_true ((plain_nil p).isAbsolute.mpr rfl) (.inl rfl)
      | succ n =>
        cases n with
        | zero =>
          rw [List.take_succ_cons, List.take_zero, (plain_letter alpha).isAbsolute]
          simp
        | succ n =>
          have none : ellipsis = false := by simpa using bare
          rw [List.take_succ_cons, List.take_succ_cons, isAbsolute_drive windows alpha (h.take n),
            List.take_eq_nil_iff]
          simp [none, some (Nat.le_add_left 2 n)]

end SongPattern.FilePath

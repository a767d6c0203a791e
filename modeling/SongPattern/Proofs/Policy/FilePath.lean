import SongPattern.Policy.FilePath
import SongPattern.Proofs.Text.Blank
import SongPattern.Proofs.Text.Lowercase
import SongPattern.Proofs.Text.Pieces

namespace SongPattern.FilePath

variable {p : Platform} {options : PathOptions} {sep c : Char} {path segment : List Char}
  {ellipsis : Bool} {limit : Nat}

theorem isSeparator_separator (p : Platform) : p.isSeparator p.separator = true := by
  simp [Platform.isSeparator]

theorem separator_cases (p : Platform) : p.separator = '/' ∨ p.separator = '\\' := by
  rw [Platform.separator]
  split
  · exact .inl rfl
  · exact .inr rfl

theorem separator_ne (p : Platform) (slash : c ≠ '/') (backslash : c ≠ '\\') : p.separator ≠ c := by
  rcases separator_cases p with sep | sep <;> rw [sep]
  · exact slash.symm
  · exact backslash.symm

theorem separator_ne_colon (p : Platform) : p.separator ≠ ':' :=
  separator_ne p (by decide) (by decide)

theorem separator_ne_dot (p : Platform) : p.separator ≠ '.' :=
  separator_ne p (by decide) (by decide)

theorem separator_ne_underscore (p : Platform) : p.separator ≠ '_' :=
  separator_ne p (by decide) (by decide)

theorem sep_not_mem_tilde (p : Platform) : p.separator ∉ ['~'] :=
  mt List.mem_singleton.mp (separator_ne p (by decide) (by decide))

theorem takeWhile_append_sep (front rest : List Char) :
    (front ++ sep :: rest).takeWhile (· ≠ sep) = front.takeWhile (· ≠ sep) := by
  induction front with
  | nil => rw [List.nil_append, List.takeWhile_cons_of_neg (by simp), List.takeWhile_nil]
  | cons c front ih => rw [List.cons_append, List.takeWhile_cons, List.takeWhile_cons, ih]

theorem takeWhile_of_not_mem (h : sep ∉ segment) : segment.takeWhile (· ≠ sep) = segment := by
  rw [List.takeWhile_eq_self_iff]
  intro c hc
  rw [decide_eq_true_iff]
  rintro rfl
  exact h hc

theorem eq_takeWhile_append (h : sep ∈ path) :
    ∃ rest, path = path.takeWhile (· ≠ sep) ++ sep :: rest := by
  obtain ⟨front, rest, rfl, fresh⟩ := List.eq_append_cons_of_mem h
  exact ⟨rest, by rw [takeWhile_append_sep, takeWhile_of_not_mem fresh]⟩

/-- What the first segment is, said as how the path starts. -/
theorem takeWhile_eq_iff (h : sep ∈ path) (fresh : sep ∉ segment) :
    path.takeWhile (· ≠ sep) = segment ↔ segment ++ [sep] <+: path := by
  constructor
  · rintro rfl
    obtain ⟨rest, whole⟩ := eq_takeWhile_append h
    exact ⟨rest, by rw [List.append_assoc, List.singleton_append, ← whole]⟩
  · rintro ⟨rest, rfl⟩
    rw [List.append_assoc, List.singleton_append, takeWhile_append_sep,
      takeWhile_of_not_mem fresh]

theorem extension_suffix (name : List Char) : extension name <:+ name := by
  rw [extension]
  split
  next dotted =>
    exact Text.cons_afterLast_suffix (of_decide_eq_true (Bool.and_eq_true_iff.mp dotted).2)
  · exact List.nil_suffix

theorem splitExtension_append (path : List Char) (sep : Char) :
    (splitExtension path sep).1 ++ (splitExtension path sep).2 = path :=
  List.suffix_iff_eq_append.mp ((extension_suffix _).trans (Text.afterLast_suffix _ path))

theorem sep_not_mem_splitExtension (path : List Char) (sep : Char) :
    sep ∉ (splitExtension path sep).2 := by
  intro h
  have other := Text.stop_of_mem_afterLast ((extension_suffix _).subset h)
  exact of_decide_eq_false other rfl

theorem mem_shorten (h : c ∈ shorten ellipsis limit segment) : c ∈ segment ∨ c = '.' := by
  rw [shorten] at h
  split at h
  · exact .inl h
  · split at h
    · rcases List.mem_append.mp h with h | h
      · exact .inl (List.mem_of_mem_take h)
      · exact .inr (by simpa using h)
    · exact .inl (List.mem_of_mem_take h)

theorem shorten_eq_nil_iff : shorten ellipsis limit segment = [] ↔ limit = 0 ∨ segment = [] := by
  rw [shorten]
  split
  next fits =>
    refine (or_iff_right_of_imp ?_).symm
    rintro rfl
    exact List.eq_nil_of_length_eq_zero (Nat.le_zero.mp fits)
  next long =>
    split
    next dots =>
      have two : limit ≠ 0 := by
        rintro rfl
        simp at dots
      have some : segment ≠ [] := by
        rintro rfl
        exact long (Nat.zero_le _)
      simp [two, some]
    next cut => exact List.take_eq_nil_iff

/-- The extension stands behind the last separator, and only what stands in front of it is
shortened. -/
theorem limitChars_parts (path : List Char) (sep : Char) (limit : Nat) (ellipsis : Bool) :
    ∃ main ext, splitExtension path sep = (main, ext) ∧ main ++ ext = path ∧ sep ∉ ext ∧
      limitChars path sep limit ellipsis = [sep].intercalate
        (shortenEach ellipsis limit (limit - ext.length) (Text.splitChars sep main)) ++ ext :=
  ⟨_, _, rfl, splitExtension_append path sep, sep_not_mem_splitExtension path sep, rfl⟩

/-- The first segment of a path with more than one is shortened on its own. -/
theorem limitChars_of_mem (h : sep ∈ path) :
    ∃ rest, limitChars path sep limit ellipsis =
      shorten ellipsis limit (path.takeWhile (· ≠ sep)) ++ sep :: rest := by
  obtain ⟨main, ext, -, whole, fresh, limited⟩ := limitChars_parts path sep limit ellipsis
  have hm : sep ∈ main := by
    rw [← whole] at h
    exact (List.mem_append.mp h).resolve_right fresh
  obtain ⟨rest, hr⟩ := eq_takeWhile_append hm
  have first : path.takeWhile (· ≠ sep) = main.takeWhile (· ≠ sep) := by
    rw [← whole, hr, List.append_assoc, List.cons_append, takeWhile_append_sep,
      takeWhile_append_sep]
  obtain ⟨pieces, some, split⟩ := Text.splitChars_of_mem hm
  obtain ⟨next, more, rfl⟩ := List.exists_cons_of_ne_nil some
  have others : shortenEach ellipsis limit (limit - ext.length) (next :: more) ≠ [] := by
    cases more <;> exact List.cons_ne_nil _ _
  rw [limited, split, first, shortenEach, Text.intercalate_cons_of_ne_nil sep _ others,
    List.append_assoc]
  · exact ⟨_, rfl⟩
  · nofun

theorem limitChars_of_not_mem (dot : sep ≠ '.') (h : sep ∉ path) :
    sep ∉ limitChars path sep limit ellipsis := by
  obtain ⟨main, ext, -, whole, -, limited⟩ := limitChars_parts path sep limit ellipsis
  rw [← whole, List.mem_append, not_or] at h
  rw [limited, Text.splitChars_of_not_mem h.1, shortenEach, List.intercalate_singleton,
    List.mem_append]
  rintro (hs | he)
  · exact (mem_shorten hs).elim h.1 dot
  · exact h.2 he

/-- Shortening neither adds nor drops a separator. -/
theorem sep_mem_limitChars_iff (dot : sep ≠ '.') :
    sep ∈ limitChars path sep limit ellipsis ↔ sep ∈ path := by
  constructor
  · exact fun h => not_not.mp fun none => limitChars_of_not_mem dot none h
  · intro h
    obtain ⟨rest, limited⟩ := @limitChars_of_mem sep path ellipsis limit h
    rw [limited]
    exact List.mem_append_right _ List.mem_cons_self

theorem sep_not_mem_cleanValue (p : Platform) (key value : String) :
    p.separator ∉ (cleanValue p key value).toList := by
  intro h
  have cleaned := Text.mem_of_mem_trim h
  rw [String.toList_ofList, List.mem_map] at cleaned
  obtain ⟨c, _, hc⟩ := cleaned
  split at hc
  · exact separator_ne_underscore p hc.symm
  next kept => exact kept (by simp [hc])

/-- The extension is taken from the last segment of the file name. -/
theorem sep_not_mem_songExtension {song : Song} {ext : List Char}
    (h : songExtension? p song = some ext) : p.separator ∉ ext := by
  obtain ⟨value, _, h⟩ := Option.bind_eq_some_iff.mp h
  simp only at h
  split at h
  · cases h
    intro hs
    have lowered : p.separator ∈ '.' :: Text.afterLast (· = '.')
        (Text.afterLast p.isSeparator value.display.toList) := by
      refine Text.mem_of_mem_lowerBehind hs ?_ ?_
      all_goals rcases separator_cases p with sep | sep <;> rw [sep] <;> decide
    have inName := (List.mem_cons.mp lowered).resolve_left (separator_ne_dot p)
    have inSegment := (Text.afterLast_suffix _ _).subset inName
    exact Bool.false_ne_true
      ((Text.stop_of_mem_afterLast inSegment).symm.trans (isSeparator_separator p))
  · cases h

end SongPattern.FilePath

import SongPattern.Pattern.TagName
import SongPattern.Proofs.Text.Pieces

namespace SongPattern.Pattern

/-- The name of a tag, or a predicate, as it is read. -/
def IsName (name : String) : Prop := name ≠ "" ∧ normalizeName name = name

instance decidableIsName (name : String) : Decidable (IsName name) :=
  inferInstanceAs (Decidable (name ≠ "" ∧ normalizeName name = name))

theorem normalizeChars_eq (cs : List Char) :
    normalizeChars cs = if '~' ∈ cs ∧ cs.head? ≠ some '~' then '~' :: cs else cs := by
  fun_cases normalizeChars cs with
  | case1 cs => rw [if_neg fun h => h.2 rfl]
  | case2 cs plain tilde =>
    have head : cs.head? ≠ some '~' := by
      intro h
      obtain ⟨rest, hr⟩ := List.head?_eq_some_iff.mp h
      exact plain rest hr
    rw [if_pos ⟨List.contains_iff_mem.mp tilde, head⟩]
  | case3 cs plain none => rw [if_neg fun h => none (List.contains_iff_mem.mpr h.1)]

theorem normalizeChars_idem (cs : List Char) :
    normalizeChars (normalizeChars cs) = normalizeChars cs := by
  rw [normalizeChars_eq cs]
  split
  · rfl
  next unchanged => rw [normalizeChars_eq, if_neg unchanged]

theorem normalizeChars_ne_nil {cs : List Char} (h : cs ≠ []) : normalizeChars cs ≠ [] := by
  rw [normalizeChars_eq]
  split
  · nofun
  · exact h

theorem toList_normalizeName (name : String) :
    (normalizeName name).toList = normalizeChars name.toList := String.toList_ofList

theorem normalizeName_idem (name : String) :
    normalizeName (normalizeName name) = normalizeName name := by
  rw [normalizeName, toList_normalizeName, normalizeChars_idem, normalizeName]

theorem isName_normalizeName {name : String} (h : name ≠ "") : IsName (normalizeName name) := by
  constructor
  · exact mt String.ofList_eq_empty_iff.mp
      (normalizeChars_ne_nil (mt String.toList_eq_nil_iff.mp h))
  · exact normalizeName_idem name

/-- The name of one tag, with a tilde in front where the tag is internal. -/
def IsAtomChars (part : List Char) : Prop :=
  ∃ cs, cs ≠ [] ∧ '~' ∉ cs ∧ (part = cs ∨ part = '~' :: cs)

def IsAtom (part : String) : Prop := IsAtomChars part.toList

theorem IsAtomChars.tilde {part : List Char} (h : IsAtomChars part) : '~' ∉ part.drop 1 := by
  obtain ⟨cs, -, plain, shape⟩ := h
  cases shape with
  | inl bare =>
    rw [bare]
    exact fun tilde => plain (List.mem_of_mem_drop tilde)
  | inr marked =>
    rw [marked]
    exact plain

theorem IsAtomChars.ne_nil {part : List Char} (h : IsAtomChars part) : part ≠ [] := by
  obtain ⟨cs, some, -, shape⟩ := h
  cases shape with
  | inl bare => exact bare ▸ some
  | inr marked => exact marked ▸ List.cons_ne_nil '~' cs

theorem atoms_cons {cs : List Char} (h : cs ≠ []) (marked : Bool) (pieces : List (List Char)) :
    atoms marked (cs :: pieces) = (if marked then '~' :: cs else cs) :: atoms false pieces := by
  obtain ⟨c, rest, rfl⟩ := List.exists_cons_of_ne_nil h
  rw [atoms]

theorem isAtomChars_of_mem_atoms {marked : Bool} {pieces : List (List Char)} {part : List Char}
    (plain : ∀ piece ∈ pieces, '~' ∉ piece) (h : part ∈ atoms marked pieces) :
    IsAtomChars part := by
  fun_induction atoms marked pieces with
  | case1 => cases h
  | case2 marked pieces ih => exact ih (fun piece hp => plain piece (List.mem_cons_of_mem _ hp)) h
  | case3 marked c cs pieces ih =>
    have first := plain _ List.mem_cons_self
    rcases List.mem_cons.mp h with rfl | h
    · refine ⟨c :: cs, List.cons_ne_nil c cs, first, ?_⟩
      cases marked with
      | true => exact .inr rfl
      | false => exact .inl rfl
    · exact ih (fun piece hp => plain piece (List.mem_cons_of_mem _ hp)) h

theorem isAtomic_iff {name : List Char} : isAtomic name = true ↔ '~' ∉ name.drop 1 := by
  rw [isAtomic, Bool.not_eq_true', List.contains_eq_mem, decide_eq_false_iff_not]

theorem tagParts_of_plain {name : String} (plain : '~' ∉ name.toList.drop 1) :
    tagParts name = [name] := by
  have atomic := isAtomic_iff.mpr plain
  rw [tagParts, splitName, if_pos atomic, List.map_singleton, String.ofList_toList]

theorem tagParts_of_tied {name : String} (tied : '~' ∈ name.toList.drop 1) :
    tagParts name = (atoms false (Text.splitChars '~' (dropTie name.toList))).map .ofList := by
  have split : ¬isAtomic name.toList = true := fun atomic => isAtomic_iff.mp atomic tied
  rw [tagParts, splitName, if_neg split]

theorem isAtom_of_tied {name part : String} (tied : '~' ∈ name.toList.drop 1)
    (h : part ∈ tagParts name) : IsAtom part := by
  rw [tagParts_of_tied tied] at h
  obtain ⟨cs, hcs, rfl⟩ := List.mem_map.mp h
  rw [IsAtom, String.toList_ofList]
  exact isAtomChars_of_mem_atoms (fun _ => Text.sep_not_mem_splitChars) hcs

/-- The parts of a name have a tilde in front, if anywhere. -/
theorem tagParts_tilde {name part : String} (h : part ∈ tagParts name) :
    '~' ∉ part.toList.drop 1 := by
  by_cases tied : '~' ∈ name.toList.drop 1
  · exact (isAtom_of_tied tied h).tilde
  · rw [tagParts_of_plain tied] at h
    rwa [List.mem_singleton.mp h]

theorem tagParts_ne_empty {name part : String} (some : name ≠ "") (h : part ∈ tagParts name) :
    part ≠ "" := by
  by_cases tied : '~' ∈ name.toList.drop 1
  · exact mt String.toList_eq_nil_iff.mpr (isAtom_of_tied tied h).ne_nil
  · rw [tagParts_of_plain tied] at h
    rwa [List.mem_singleton.mp h]

/-- A part is not split again. -/
theorem tagParts_part {name part : String} (h : part ∈ tagParts name) : tagParts part = [part] :=
  tagParts_of_plain (tagParts_tilde h)

/-- The first part is read up to the tilde behind it, and no mark is left over for the next. -/
theorem IsAtomChars.atoms_append {part : List Char} (h : IsAtomChars part) (rest : List Char) :
    atoms false (Text.splitChars '~' (part ++ '~' :: rest)) =
      part :: atoms false (Text.splitChars '~' rest) := by
  obtain ⟨cs, some, plain, shape⟩ := h
  have pieces := Text.splitChars_append_sep plain rest
  cases shape with
  | inl bare =>
    rw [bare, pieces, atoms_cons some]
    rfl
  | inr marked =>
    rw [marked, List.cons_append, Text.splitChars_cons_sep, pieces, atoms, atoms_cons some]
    rfl

theorem IsAtomChars.atoms_eq {part : List Char} (h : IsAtomChars part) :
    atoms false (Text.splitChars '~' part) = [part] := by
  obtain ⟨cs, some, plain, shape⟩ := h
  have pieces := Text.splitChars_of_not_mem plain
  cases shape with
  | inl bare =>
    rw [bare, pieces, atoms_cons some]
    rfl
  | inr marked =>
    rw [marked, Text.splitChars_cons_sep, pieces, atoms, atoms_cons some]
    rfl

theorem atoms_intercalate {first : List Char} {rest : List (List Char)}
    (h : ∀ part ∈ first :: rest, IsAtomChars part) :
    atoms false (Text.splitChars '~' (['~'].intercalate (first :: rest))) = first :: rest := by
  induction rest generalizing first with
  | nil =>
    rw [List.intercalate_singleton]
    exact (h first List.mem_cons_self).atoms_eq
  | cons next rest ih =>
    have later := ih fun part hp => h part (List.mem_cons_of_mem _ hp)
    rw [Text.intercalate_cons_of_ne_nil '~' first (List.cons_ne_nil next rest),
      (h first List.mem_cons_self).atoms_append, later]

theorem dropTie_tilde {cs : List Char} (h : cs.head? ≠ some '#') : dropTie ('~' :: cs) = cs := by
  rw [dropTie]
  intro rest numeric
  rw [numeric] at h
  exact h rfl

theorem dropTie_of_plain {cs : List Char} (h : cs.head? ≠ some '~') : dropTie cs = cs := by
  rw [dropTie.eq_def]
  split
  · exact absurd rfl h
  · exact absurd rfl h
  · rfl

/-- Names of two tags or more are found again where they were tied together. -/
theorem tagParts_joinWith {first second : String} {rest : List String}
    (named : ∀ part ∈ first :: second :: rest, IsAtom part)
    (start : first.toList.head? ≠ some '#') :
    tagParts ("~" ++ Text.joinWith "~" (first :: second :: rest)) = first :: second :: rest := by
  have written : ("~" ++ Text.joinWith "~" (first :: second :: rest)).toList =
      '~' :: ['~'].intercalate ((first :: second :: rest).map String.toList) := by
    rw [String.toList_append, Text.toList_joinWith]
    rfl
  have parts : ∀ part ∈ (first :: second :: rest).map String.toList, IsAtomChars part := by
    intro part hp
    obtain ⟨s, hs, rfl⟩ := List.mem_map.mp hp
    exact named s hs
  have front : ['~'].intercalate ((first :: second :: rest).map String.toList) =
      first.toList ++ '~' :: ['~'].intercalate ((second :: rest).map String.toList) :=
    Text.intercalate_cons_of_ne_nil '~' first.toList (List.cons_ne_nil _ _)
  have head : (['~'].intercalate ((first :: second :: rest).map String.toList)).head? ≠
      some '#' := by
    rwa [front, List.head?_append_of_ne_nil _ (parts _ List.mem_cons_self).ne_nil]
  have tied : '~' ∈ ("~" ++ Text.joinWith "~" (first :: second :: rest)).toList.drop 1 := by
    rw [written, List.drop_one, List.tail_cons, front]
    exact List.mem_append_right _ List.mem_cons_self
  rw [tagParts_of_tied tied, written, dropTie_tilde head, List.map_cons, atoms_intercalate parts]
  simp [Function.comp_def]

theorem tied_of_tilde {cs : List Char} (tilde : '~' ∈ cs) (head : cs.head? ≠ some '~') :
    '~' ∈ cs.drop 1 := by
  obtain ⟨c, rest, rfl⟩ := List.exists_cons_of_ne_nil (List.ne_nil_of_mem tilde)
  cases List.mem_cons.mp tilde with
  | inl first => exact absurd (congrArg some first.symm) head
  | inr later => exact later

/-- The tilde that was left out changes nothing, unless a numeric tag takes it for its own. -/
theorem tagParts_normalizeName {name : String}
    (h : ¬(name.toList.head? = some '#' ∧ '~' ∈ name.toList)) :
    tagParts (normalizeName name) = tagParts name := by
  by_cases unmarked : '~' ∈ name.toList ∧ name.toList.head? ≠ some '~'
  · obtain ⟨tilde, head⟩ := unmarked
    have written : (normalizeName name).toList = '~' :: name.toList := by
      rw [toList_normalizeName, normalizeChars_eq, if_pos ⟨tilde, head⟩]
    have tied : '~' ∈ (normalizeName name).toList.drop 1 := by
      rw [written]
      exact tilde
    have start : name.toList.head? ≠ some '#' := fun numeric => h ⟨numeric, tilde⟩
    rw [tagParts_of_tied tied, tagParts_of_tied (tied_of_tilde tilde head), written,
      dropTie_tilde start, dropTie_of_plain head]
  · rw [normalizeName, normalizeChars_eq, if_neg unmarked, String.ofList_toList]

/-- A numeric tag in front gets the tilde of the tied name. -/
theorem tagParts_normalizeName_numeric {name : String} (start : name.toList.head? = some '#')
    (tilde : '~' ∈ name.toList) : ∃ first rest, tagParts name = first :: rest ∧
      tagParts (normalizeName name) = ("~" ++ first) :: rest := by
  obtain ⟨cs, chars⟩ := List.head?_eq_some_iff.mp start
  have head : name.toList.head? ≠ some '~' := by
    rw [start]
    decide
  have written : (normalizeName name).toList = '~' :: '#' :: cs := by
    rw [toList_normalizeName, normalizeChars_eq, if_pos ⟨tilde, head⟩, chars]
  have tied : '~' ∈ (normalizeName name).toList.drop 1 := by
    rw [written, ← chars]
    exact tilde
  obtain ⟨piece, pieces, -, split⟩ :=
    Text.splitChars_cons_of_ne (show '#' ≠ '~' by decide) cs
  have marked : String.ofList ('~' :: '#' :: piece) = "~" ++ .ofList ('#' :: piece) :=
    String.toList_inj.mp (by simp)
  refine ⟨.ofList ('#' :: piece), (atoms false pieces).map .ofList, ?_, ?_⟩
  · rw [tagParts_of_tied (tied_of_tilde tilde head), dropTie_of_plain head, chars, split,
      atoms_cons (List.cons_ne_nil '#' piece)]
    rfl
  · rw [tagParts_of_tied tied, written, dropTie, Text.splitChars_cons_sep, split, atoms,
      atoms_cons (List.cons_ne_nil '#' piece), List.map_cons, if_pos rfl, marked]

end SongPattern.Pattern

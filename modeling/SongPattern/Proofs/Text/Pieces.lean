import Mathlib.Data.List.Basic
import Mathlib.Data.List.DropRight
import SongPattern.Text.Pieces

namespace SongPattern.Text

variable {sep c : Char} {cs : List Char}

theorem splitChars_cons_sep (sep : Char) (cs : List Char) :
    splitChars sep (sep :: cs) = [] :: splitChars sep cs := by
  rw [splitChars, if_pos rfl]

/-- A character that is no separator joins the first piece. -/
theorem splitChars_cons_of_ne (h : c ≠ sep) (cs : List Char) :
    ∃ piece pieces, splitChars sep cs = piece :: pieces ∧
      splitChars sep (c :: cs) = (c :: piece) :: pieces := by
  obtain ⟨piece, pieces, hp⟩ := List.exists_cons_of_ne_nil (splitChars_ne_nil sep cs)
  refine ⟨piece, pieces, hp, ?_⟩
  rw [splitChars, if_neg h, hp]

/-- The pieces are those that the library cuts at the separator. -/
theorem splitChars_eq_splitOn (sep : Char) (cs : List Char) :
    splitChars sep cs = cs.splitOn sep := by
  induction cs with
  | nil => exact (List.splitOn_nil sep).symm
  | cons c cs ih =>
    rw [List.splitOn_cons_eq_if_modifyHead, ← ih]
    by_cases hc : c = sep
    · rw [if_pos (beq_iff_eq.mpr hc), hc, splitChars_cons_sep]
    · obtain ⟨piece, pieces, tail, whole⟩ := splitChars_cons_of_ne hc cs
      rw [if_neg (mt beq_iff_eq.mp hc), whole, tail]
      rfl

/-- The pieces hold all characters but the separators. -/
theorem exists_mem_splitChars_iff :
    (∃ piece ∈ splitChars sep cs, c ∈ piece) ↔ c ∈ cs ∧ c ≠ sep := by
  induction cs with
  | nil => simp [splitChars]
  | cons d cs ih =>
    by_cases hd : d = sep
    · subst hd
      rw [splitChars_cons_sep, List.exists_mem_cons_iff, ih, List.mem_cons]
      constructor
      · rintro (h | ⟨hc, hn⟩)
        · cases h
        · exact ⟨.inr hc, hn⟩
      · rintro ⟨rfl | hc, hn⟩
        · exact absurd rfl hn
        · exact .inr ⟨hc, hn⟩
    · obtain ⟨piece, pieces, tail, whole⟩ := splitChars_cons_of_ne hd cs
      rw [tail, List.exists_mem_cons_iff] at ih
      rw [whole, List.exists_mem_cons_iff, List.mem_cons, List.mem_cons, or_assoc, ih]
      constructor
      · rintro (rfl | ⟨hc, hn⟩)
        · exact ⟨.inl rfl, hd⟩
        · exact ⟨.inr hc, hn⟩
      · rintro ⟨rfl | hc, hn⟩
        · exact .inl rfl
        · exact .inr ⟨hc, hn⟩

theorem sep_not_mem_splitChars {piece : List Char} (h : piece ∈ splitChars sep cs) :
    sep ∉ piece := fun hs => (exists_mem_splitChars_iff.mp ⟨piece, h, hs⟩).2 rfl

theorem intercalate_cons_of_ne_nil (sep : Char) (piece : List Char) {pieces : List (List Char)}
    (h : pieces ≠ []) :
    [sep].intercalate (piece :: pieces) = piece ++ sep :: [sep].intercalate pieces := by
  obtain ⟨next, more, rfl⟩ := List.exists_cons_of_ne_nil h
  rw [List.intercalate_cons_cons]
  simp

theorem splitChars_of_not_mem (h : sep ∉ cs) : splitChars sep cs = [cs] := by
  rw [splitChars_eq_splitOn, List.splitOn_eq_singleton h]

/-- The first piece goes up to the first separator. -/
theorem splitChars_of_mem (h : sep ∈ cs) :
    ∃ pieces, pieces ≠ [] ∧ splitChars sep cs = cs.takeWhile (· ≠ sep) :: pieces := by
  induction cs with
  | nil => cases h
  | cons c cs ih =>
    by_cases hc : c = sep
    · subst hc
      refine ⟨splitChars c cs, splitChars_ne_nil c cs, ?_⟩
      rw [splitChars_cons_sep, List.takeWhile_cons_of_neg (by simp)]
    · obtain ⟨pieces, some, tail⟩ := ih ((List.mem_cons.mp h).resolve_left (Ne.symm hc))
      refine ⟨pieces, some, ?_⟩
      rw [splitChars, if_neg hc, tail, List.takeWhile_cons_of_pos (by simpa using hc)]

/-- A piece goes up to the separator behind it. -/
theorem splitChars_append_sep {piece : List Char} (fresh : sep ∉ piece) (cs : List Char) :
    splitChars sep (piece ++ sep :: cs) = piece :: splitChars sep cs := by
  induction piece with
  | nil => exact splitChars_cons_sep sep cs
  | cons c piece ih =>
    rw [List.mem_cons, not_or] at fresh
    rw [List.cons_append, splitChars, if_neg (Ne.symm fresh.1), ih fresh.2]

theorem stop_of_mem_afterLast {stop : Char → Bool} (h : c ∈ afterLast stop cs) :
    stop c = false := by
  have kept := List.mem_takeWhile_imp (List.mem_reverse.mp h)
  rwa [Bool.not_eq_true'] at kept

theorem afterLast_suffix (stop : Char → Bool) (cs : List Char) : afterLast stop cs <:+ cs :=
  List.rtakeWhile_suffix _ cs

/-- Where something is cut off, the last of it is the character that was looked for. -/
theorem cons_afterLast_suffix (h : (afterLast (· = c) cs).length < cs.length) :
    c :: afterLast (· = c) cs <:+ cs := by
  have parts := List.rdropWhile_append_rtakeWhile (p := fun d => !decide (d = c)) (l := cs)
  have front : cs.rdropWhile (fun d => !decide (d = c)) ≠ [] := by
    intro none
    rw [none, List.nil_append] at parts
    exact h.ne (congrArg List.length parts)
  have last := List.rdropWhile_last_not _ _ front
  rw [Bool.not_eq_true, Bool.not_eq_false', decide_eq_true_iff] at last
  have cut := List.dropLast_concat_getLast front
  rw [last] at cut
  refine ⟨(cs.rdropWhile fun d => !decide (d = c)).dropLast, ?_⟩
  rw [List.append_cons, cut]
  exact parts

/-- What stands before a stop is not looked at. -/
theorem afterLast_append_cons {stop : Char → Bool} (hc : stop c = true) (front cs : List Char) :
    afterLast stop (front ++ c :: cs) = afterLast stop cs := by
  have backwards : (front ++ c :: cs).reverse = cs.reverse ++ c :: front.reverse := by simp
  have ends : (c :: front.reverse).takeWhile (fun d => !stop d) = [] := by simp [hc]
  rw [afterLast, backwards, List.takeWhile_append, ends, List.append_nil, afterLast]
  split
  next whole =>
    rw [(List.takeWhile_prefix _).eq_of_length whole]
  · rfl

theorem afterLast_of_free {stop : Char → Bool} (free : ∀ c ∈ cs, stop c = false) :
    afterLast stop cs = cs := by
  have all : cs.reverse.takeWhile (fun c => !stop c) = cs.reverse := by
    rw [List.takeWhile_eq_self_iff]
    intro c hc
    simp [free c (List.mem_reverse.mp hc)]
  rw [afterLast, all, List.reverse_reverse]

/-- What holds no stop is taken along. -/
theorem afterLast_append {stop : Char → Bool} (free : ∀ c ∈ cs, stop c = false)
    (front : List Char) : afterLast stop (front ++ cs) = afterLast stop front ++ cs := by
  have all : ∀ c ∈ cs.reverse, (!stop c) = true := by
    intro c hc
    simp [free c (List.mem_reverse.mp hc)]
  rw [afterLast, List.reverse_append, List.takeWhile_append_of_pos all]
  simp [afterLast]

/-- The pieces with separators between them are the text again. -/
theorem intercalate_splitChars (sep : Char) (cs : List Char) :
    [sep].intercalate (splitChars sep cs) = cs := by
  rw [splitChars_eq_splitOn, List.intercalate_splitOn]

/-- What holds no separator joins the last piece of what stands before it. -/
theorem splitChars_append {more : List Char} (fresh : sep ∉ more) (cs : List Char) :
    ∃ front last, splitChars sep cs = front ++ [last] ∧
      splitChars sep (cs ++ more) = front ++ [last ++ more] := by
  induction cs with
  | nil => exact ⟨[], [], rfl, splitChars_of_not_mem fresh⟩
  | cons c cs ih =>
    obtain ⟨front, last, before, behind⟩ := ih
    by_cases hc : c = sep
    · subst hc
      refine ⟨[] :: front, last, ?_, ?_⟩
      · rw [splitChars_cons_sep, before, List.cons_append]
      · rw [List.cons_append, splitChars_cons_sep, behind, List.cons_append]
    · rw [List.cons_append, splitChars, splitChars, if_neg hc, if_neg hc, before, behind]
      cases front with
      | nil => exact ⟨[], c :: last, rfl, rfl⟩
      | cons first front => exact ⟨(c :: first) :: front, last, rfl, rfl⟩

/-- What holds no separator joins the first piece of what stands behind it. -/
theorem splitChars_behind {front : List Char} (fresh : sep ∉ front) (cs : List Char) :
    ∃ first rest, splitChars sep cs = first :: rest ∧
      splitChars sep (front ++ cs) = (front ++ first) :: rest := by
  induction front with
  | nil =>
    obtain ⟨first, rest, whole⟩ := List.exists_cons_of_ne_nil (splitChars_ne_nil sep cs)
    exact ⟨first, rest, whole, whole⟩
  | cons c front ih =>
    rw [List.mem_cons, not_or] at fresh
    obtain ⟨first, rest, before, behind⟩ := ih fresh.2
    refine ⟨first, rest, before, ?_⟩
    rw [List.cons_append, splitChars, if_neg (Ne.symm fresh.1), behind]
    rfl

theorem splitChars_intercalate_append {front : List (List Char)} {last more : List Char}
    (h : ∀ piece ∈ front ++ [last], sep ∉ piece) (fresh : sep ∉ more) :
    splitChars sep ([sep].intercalate (front ++ [last]) ++ more) = front ++ [last ++ more] := by
  obtain ⟨front', last', before, behind⟩ :=
    splitChars_append fresh ([sep].intercalate (front ++ [last]))
  rw [splitChars_eq_splitOn, List.splitOn_intercalate sep h (List.concat_ne_nil _ _)] at before
  obtain ⟨rfl, same⟩ := List.append_inj' before rfl
  cases same
  exact behind

/-- Fewer pieces from the left make a start of the text. -/
theorem intercalate_prefix {pieces more : List (List Char)} (h : pieces <+: more) :
    [sep].intercalate pieces <+: [sep].intercalate more := by
  induction pieces generalizing more with
  | nil => exact List.nil_prefix
  | cons piece pieces ih =>
    obtain ⟨rest, rfl⟩ := h
    rw [List.cons_append]
    by_cases hp : pieces = []
    · subst hp
      by_cases hr : rest = []
      · subst hr
        exact List.prefix_refl _
      · rw [List.nil_append, intercalate_cons_of_ne_nil sep piece hr, List.intercalate_singleton]
        exact List.prefix_append _ _
    · have hn : pieces ++ rest ≠ [] := List.append_ne_nil_of_left_ne_nil hp rest
      rw [intercalate_cons_of_ne_nil sep piece hp, intercalate_cons_of_ne_nil sep piece hn]
      rw [List.prefix_append_right_inj, List.prefix_cons_inj]
      exact ih (List.prefix_append _ _)

/-- What stands before the first character that stops. -/
theorem takeWhile_append_stop {p : Char → Bool} {rest : List Char} (all : ∀ c ∈ cs, p c = true)
    (stop : ∀ c ∈ rest.head?, p c = false) : (cs ++ rest).takeWhile p = cs := by
  rw [List.takeWhile_append_of_pos all]
  cases rest with
  | nil => rw [List.takeWhile_nil, List.append_nil]
  | cons c rest =>
    rw [List.takeWhile_cons_of_neg (Bool.eq_false_iff.mp (stop c rfl)), List.append_nil]

theorem dropWhile_append_stop {p : Char → Bool} {rest : List Char} (all : ∀ c ∈ cs, p c = true)
    (stop : ∀ c ∈ rest.head?, p c = false) : (cs ++ rest).dropWhile p = rest := by
  have parts := List.takeWhile_append_dropWhile (p := p) (l := cs ++ rest)
  rw [takeWhile_append_stop all stop] at parts
  exact List.append_cancel_left parts

/-- What one of the texts holds, their join holds. -/
theorem mem_joinWith {joiner s : String} {texts : List String} (hs : s ∈ texts)
    (hc : c ∈ s.toList) : c ∈ (joinWith joiner texts).toList := by
  induction texts with
  | nil => cases hs
  | cons first rest ih =>
    cases rest with
    | nil =>
      rw [List.mem_singleton] at hs
      subst hs
      exact hc
    | cons next more =>
      rw [joinWith, String.toList_append, String.toList_append, List.mem_append, List.mem_append]
      · rcases List.mem_cons.mp hs with rfl | hs
        · exact .inl (.inl hc)
        · exact .inr (ih hs)
      · nofun

theorem toList_joinWith (joiner : String) (texts : List String) :
    (joinWith joiner texts).toList = joiner.toList.intercalate (texts.map String.toList) := by
  induction texts with
  | nil => rfl
  | cons s rest ih =>
    cases rest with
    | nil => exact (List.intercalate_singleton ..).symm
    | cons next more =>
      rw [List.map_cons, List.map_cons, List.intercalate_cons_cons, ← List.map_cons, ← ih, joinWith,
        String.toList_append, String.toList_append]
      nofun

/-- A join holds nothing but its pieces and what stands between them. -/
theorem mem_intercalate {between : List Char} {pieces : List (List Char)}
    (h : c ∈ between.intercalate pieces) : c ∈ between ∨ ∃ piece ∈ pieces, c ∈ piece := by
  induction pieces with
  | nil => cases h
  | cons piece pieces ih =>
    rw [List.exists_mem_cons_iff]
    cases pieces with
    | nil =>
      rw [List.intercalate_singleton] at h
      exact .inr (.inl h)
    | cons next more =>
      rw [List.intercalate_cons_cons, List.mem_append, List.mem_append] at h
      rcases h with (first | separator) | rest
      · exact .inr (.inl first)
      · exact .inl separator
      · exact (ih rest).imp_right .inr

theorem exists_intercalate_cons (between piece : List Char) (pieces : List (List Char)) :
    ∃ behind, between.intercalate (piece :: pieces) = piece ++ behind := by
  cases pieces with
  | nil => exact ⟨[], by rw [List.intercalate_singleton, List.append_nil]⟩
  | cons next more => exact ⟨_, by rw [List.intercalate_cons_cons, List.append_assoc]⟩

theorem exists_intercalate_concat (between piece : List Char) (pieces : List (List Char)) :
    ∃ front, between.intercalate (pieces ++ [piece]) = front ++ piece := by
  induction pieces with
  | nil => exact ⟨[], by rw [List.nil_append, List.intercalate_singleton, List.nil_append]⟩
  | cons first pieces ih =>
    obtain ⟨front, whole⟩ := ih
    refine ⟨first ++ between ++ front, ?_⟩
    rw [List.cons_append, List.intercalate_cons_of_ne_nil (List.concat_ne_nil piece pieces), whole,
      List.append_assoc (first ++ between)]

theorem dropLead?_eq_some_iff {lead rest : List Char} :
    dropLead? lead cs = some rest ↔ cs = lead ++ rest := by
  induction lead generalizing cs with
  | nil => rw [dropLead?, Option.some.injEq, List.nil_append]
  | cons l lead ih =>
    cases cs with
    | nil => exact iff_of_false nofun nofun
    | cons c cs =>
      rw [dropLead?, List.cons_append, List.cons.injEq, ← ih]
      split
      next same => rw [and_iff_right same.symm]
      next other => exact iff_of_false nofun fun h => other h.1.symm

theorem occursIn_iff {part : List Char} : occursIn part cs = true ↔ part <:+: cs := by
  induction cs with
  | nil => rw [occursIn, List.isEmpty_iff, List.infix_nil]
  | cons c cs ih =>
    rw [occursIn, Bool.or_eq_true, List.infix_cons_iff, ih, Option.isSome_iff_exists]
    simp only [dropLead?_eq_some_iff]
    exact or_congr_left (exists_congr fun rest => eq_comm)

end SongPattern.Text

import Mathlib.Data.List.DropRight

namespace SongPattern.Program

variable {α β : Type} {empty : α → Bool}

/-- Puts the pieces of one group after the other behind those that are kept. A group stops this
unless an empty piece is last then, which is taken back. -/
def settle (empty : α → Bool) : (kept : List α) → (groups : List (List α)) → List α
  | kept, [] => kept
  | kept, group :: groups =>
    if (kept ++ group).getLast?.all empty then settle empty (kept ++ group).dropLast groups
    else kept ++ group

/-- What is on a stack when the last piece is taken back after each group. -/
def drain : (stack : List α) → (groups : List (List α)) → List α
  | stack, [] => stack
  | stack, group :: groups => drain (stack ++ group).dropLast groups

/-- At no end of the groups are there more pieces than groups. -/
def Cleared (groups : List (List α)) : Prop := ∀ s, s <:+ groups → s.flatten.length ≤ s.length

/-- With `n` pieces on the stack there comes a group behind which none is left to take back. -/
def RunsDry (n : Nat) (groups : List (List α)) : Prop :=
  ∃ p, p <+: groups ∧ n + p.flatten.length ≤ p.length

theorem settle_map (f : α → β) (empty : β → Bool) (kept : List α) (groups : List (List α)) :
    (settle (fun a => empty (f a)) kept groups).map f =
      settle empty (kept.map f) (groups.map (List.map f)) := by
  induction groups generalizing kept with
  | nil => rfl
  | cons group groups ih =>
    have last : ((kept ++ group).map f).getLast?.all empty =
        (kept ++ group).getLast?.all fun a => empty (f a) := by
      rw [List.getLast?_map, Option.all_map]
    simp only [settle, List.map_cons, ← List.map_append, last, ← List.map_dropLast]
    split
    · exact ih _
    · rfl

theorem cleared_nil : Cleared ([] : List (List α)) := by
  intro s hs
  rw [List.suffix_nil.mp hs]
  rfl

theorem cleared_cons {group : List α} {groups : List (List α)} :
    Cleared (group :: groups) ↔
      group.length + groups.flatten.length ≤ groups.length + 1 ∧ Cleared groups := by
  constructor
  · intro h
    refine ⟨?_, fun s hs => h s (hs.trans (List.suffix_cons _ _))⟩
    simpa using h _ (List.suffix_refl _)
  · rintro ⟨hl, h⟩ s hs
    rcases List.suffix_cons_iff.mp hs with rfl | hs
    · simpa using hl
    · exact h s hs

theorem runsDry_cons {n : Nat} {group : List α} {groups : List (List α)} :
    RunsDry (n + 1) (group :: groups) ↔ RunsDry (n + group.length) groups := by
  constructor
  · rintro ⟨p, hp, hl⟩
    rcases List.prefix_cons_iff.mp hp with rfl | ⟨q, rfl, hq⟩
    · simp at hl
    · refine ⟨q, hq, ?_⟩
      simp only [List.flatten_cons, List.length_append, List.length_cons] at hl
      omega
  · rintro ⟨q, hq, hl⟩
    refine ⟨group :: q, (List.prefix_cons_inj group).mpr hq, ?_⟩
    simp only [List.flatten_cons, List.length_append, List.length_cons]
    omega

theorem runsDry_zero (groups : List (List α)) : RunsDry 0 groups :=
  ⟨[], List.nil_prefix, Nat.le_refl _⟩

theorem not_runsDry_nil (n : Nat) : ¬RunsDry (n + 1) ([] : List (List α)) := by
  rintro ⟨p, hp, hl⟩
  rw [List.prefix_nil.mp hp] at hl
  simp at hl

/-- The groups clear the stack just where no end of them has more pieces than groups. -/
theorem drain_eq_nil_iff (stack : List α) (groups : List (List α)) :
    drain stack groups = [] ↔
      stack.length + groups.flatten.length ≤ groups.length ∧ Cleared groups := by
  induction groups generalizing stack with
  | nil =>
    simp only [drain, List.flatten_nil, List.length_nil, Nat.add_zero, Nat.le_zero_eq,
      List.length_eq_zero_iff]
    exact (and_iff_left cleared_nil).symm
  | cons group groups ih =>
    rw [drain, ih, cleared_cons]
    simp only [List.length_dropLast, List.length_append, List.flatten_cons, List.length_cons]
    constructor
    · rintro ⟨hl, h⟩
      have all := h groups (List.suffix_refl _)
      exact ⟨by omega, by omega, h⟩
    · rintro ⟨hl, _, h⟩
      have all := h groups (List.suffix_refl _)
      exact ⟨by omega, h⟩

theorem drain_nil_eq_nil_iff (groups : List (List α)) : drain [] groups = [] ↔ Cleared groups := by
  rw [drain_eq_nil_iff]
  refine and_iff_right_of_imp ?_
  intro h
  simpa using h groups (List.suffix_refl _)

theorem mem_of_mem_drain {a : α} (stack : List α) (groups : List (List α))
    (ha : a ∈ drain stack groups) : a ∈ stack ∨ a ∈ groups.flatten := by
  induction groups generalizing stack with
  | nil => exact .inl ha
  | cons group groups ih =>
    rw [List.flatten_cons, List.mem_append]
    rcases ih _ ha with h | h
    · rcases List.mem_append.mp (List.dropLast_subset _ h) with h | h
      · exact .inl h
      · exact .inr (.inl h)
    · exact .inr (.inr h)

theorem last_empty {pieces : List α} (h : ∀ a ∈ pieces, empty a = true) :
    pieces.getLast?.all empty = true := by
  rw [Option.all_eq_true]
  intro a ha
  exact h a (List.mem_of_getLast? ha)

theorem settle_empty_groups {stack : List α} {groups : List (List α)} (rest : List (List α))
    (hs : ∀ a ∈ stack, empty a = true) (hg : ∀ a ∈ groups.flatten, empty a = true) :
    settle empty stack (groups ++ rest) = settle empty (drain stack groups) rest := by
  induction groups generalizing stack with
  | nil => rfl
  | cons group groups ih =>
    rw [List.flatten_cons, List.forall_mem_append] at hg
    have all := List.forall_mem_append.mpr ⟨hs, hg.1⟩
    rw [List.cons_append, settle, if_pos (last_empty all)]
    exact ih (fun a ha => all a (List.dropLast_subset _ ha)) hg.2

/-- Behind a base that ends with a full piece, a group of empty pieces either finds nothing above
the base and adds nothing, which stops all, or has its last piece taken back. -/
theorem settle_above {base stack group : List α} (groups : List (List α))
    (hb : base.getLast?.all empty = false) (h : ∀ a ∈ stack ++ group, empty a = true) :
    settle empty (base ++ stack) (group :: groups) =
      if stack ++ group = [] then base
      else settle empty (base ++ (stack ++ group).dropLast) groups := by
  rw [settle, List.append_assoc]
  by_cases hn : stack ++ group = []
  · rw [if_pos hn, hn, List.append_nil, hb]
    rfl
  · have last : (base ++ (stack ++ group)).getLast?.all empty = true := by
      rw [List.getLast?_append, List.getLast?_eq_some_getLast hn, Option.some_or,
        ← List.getLast?_eq_some_getLast hn]
      exact last_empty h
    rw [if_neg hn, if_pos last, List.dropLast_append_of_ne_nil hn]

theorem settle_of_runsDry {base stack : List α} {groups : List (List α)} (rest : List (List α))
    (hb : base.getLast?.all empty = false) (hs : ∀ a ∈ stack, empty a = true)
    (hg : ∀ a ∈ groups.flatten, empty a = true) (h : RunsDry (stack.length + 1) groups) :
    settle empty (base ++ stack) (groups ++ rest) = base := by
  induction groups generalizing stack with
  | nil => exact absurd h (not_runsDry_nil _)
  | cons group groups ih =>
    rw [List.flatten_cons, List.forall_mem_append] at hg
    have all := List.forall_mem_append.mpr ⟨hs, hg.1⟩
    rw [List.cons_append, settle_above _ hb all]
    split
    · rfl
    next hn =>
      refine ih (fun a ha => all a (List.dropLast_subset _ ha)) hg.2 ?_
      have dry := runsDry_cons.mp h
      have pos := List.length_pos_iff.mpr hn
      rw [List.length_append] at pos
      rw [List.length_dropLast, List.length_append, Nat.sub_add_cancel pos]
      exact dry

theorem dropLast_above (own junk : List α) :
    ∃ left, left <+: own ∧ (own ++ junk).dropLast = left ++ junk.dropLast := by
  by_cases hj : junk = []
  · refine ⟨own.dropLast, List.dropLast_prefix _, ?_⟩
    rw [hj, List.append_nil, List.dropLast_nil, List.append_nil]
  · exact ⟨own, List.prefix_refl _, List.dropLast_append_of_ne_nil hj⟩

/-- The stack above the base has `own` pieces of it below those of the groups. -/
theorem settle_of_not_runsDry {base own junk : List α} {groups : List (List α)}
    (rest : List (List α)) (hb : base.getLast?.all empty = false)
    (hs : ∀ a ∈ own ++ junk, empty a = true) (hg : ∀ a ∈ groups.flatten, empty a = true)
    (h : ¬RunsDry ((own ++ junk).length + 1) groups) :
    ∃ left, left <+: own ∧ settle empty (base ++ (own ++ junk)) (groups ++ rest) =
      settle empty (base ++ (left ++ drain junk groups)) rest := by
  induction groups generalizing own junk with
  | nil => exact ⟨own, List.prefix_refl _, rfl⟩
  | cons group groups ih =>
    rw [List.flatten_cons, List.forall_mem_append] at hg
    have all := List.forall_mem_append.mpr ⟨hs, hg.1⟩
    have wet := mt runsDry_cons.mpr h
    have hn : own ++ junk ++ group ≠ [] := by
      intro he
      rw [← List.length_append, he] at wet
      exact wet (runsDry_zero groups)
    have pos := List.length_pos_iff.mpr hn
    obtain ⟨lower, hl, he⟩ := dropLast_above own (junk ++ group)
    rw [← List.append_assoc] at he
    have still : ¬RunsDry ((lower ++ (junk ++ group).dropLast).length + 1) groups := by
      rw [← he, List.length_dropLast, Nat.sub_add_cancel pos, List.length_append]
      exact wet
    have above : ∀ a ∈ lower ++ (junk ++ group).dropLast, empty a = true := by
      rw [← he]
      exact fun a ha => all a (List.dropLast_subset _ ha)
    obtain ⟨left, hleft, hsettle⟩ := ih above hg.2 still
    rw [List.cons_append, settle_above _ hb all, if_neg hn, he]
    exact ⟨left, hleft.trans hl, hsettle⟩

theorem core_full {group : List α} (h : ¬∀ a ∈ group, empty a = true) (kept : List α) :
    (kept ++ group.rdropWhile empty).getLast?.all empty = false := by
  have hn : group.rdropWhile empty ≠ [] := mt List.rdropWhile_eq_nil_iff.mp h
  rw [List.getLast?_append, List.getLast?_eq_some_getLast hn]
  simpa using List.rdropWhile_last_not empty group hn

theorem settle_core (kept group : List α) (groups : List (List α)) :
    settle empty kept (group :: groups) =
      settle empty (kept ++ group.rdropWhile empty) (group.rtakeWhile empty :: groups) := by
  simp only [settle, List.append_assoc, List.rdropWhile_append_rtakeWhile]

theorem settle_full_of_runsDry {kept group : List α} {groups : List (List α)}
    (rest : List (List α)) (hf : ¬∀ a ∈ group, empty a = true)
    (hg : ∀ a ∈ groups.flatten, empty a = true)
    (h : RunsDry (group.rtakeWhile empty).length groups) :
    settle empty kept (group :: (groups ++ rest)) = kept ++ group.rdropWhile empty := by
  have tail : ∀ a ∈ group.rtakeWhile empty, empty a = true := fun a ha =>
    List.mem_rtakeWhile_imp ha
  have all : ∀ a ∈ (group.rtakeWhile empty :: groups).flatten, empty a = true := by
    rw [List.flatten_cons]
    exact List.forall_mem_append.mpr ⟨tail, hg⟩
  have dry : RunsDry (0 + 1) (group.rtakeWhile empty :: groups) :=
    runsDry_cons.mpr (by simpa using h)
  have none : ∀ a ∈ ([] : List α), empty a = true := nofun
  have stop := settle_of_runsDry rest (core_full hf kept) none all dry
  rw [List.append_nil] at stop
  rw [settle_core, ← List.cons_append, stop]

theorem settle_full_of_not_runsDry (kept : List α) {group : List α} {groups : List (List α)}
    (rest : List (List α)) (hf : ¬∀ a ∈ group, empty a = true)
    (hg : ∀ a ∈ groups.flatten, empty a = true)
    (h : ¬RunsDry (group.rtakeWhile empty).length groups) :
    ∃ left, left <+: group.rtakeWhile empty ∧ settle empty kept (group :: (groups ++ rest)) =
      settle empty (kept ++ group.rdropWhile empty ++ (left ++ drain [] groups)) rest := by
  have tail : ∀ a ∈ group.rtakeWhile empty, empty a = true := fun a ha =>
    List.mem_rtakeWhile_imp ha
  have hn : group.rtakeWhile empty ≠ [] := by
    intro he
    rw [he] at h
    exact h (runsDry_zero groups)
  have pos := List.length_pos_iff.mpr hn
  have above : ∀ a ∈ (group.rtakeWhile empty).dropLast ++ [], empty a = true := by
    rw [List.append_nil]
    exact fun a ha => tail a (List.dropLast_subset _ ha)
  have still : ¬RunsDry (((group.rtakeWhile empty).dropLast ++ []).length + 1) groups := by
    rw [List.append_nil, List.length_dropLast, Nat.sub_add_cancel pos]
    exact h
  have whole : ∀ a ∈ [] ++ group.rtakeWhile empty, empty a = true := tail
  have first := settle_above (groups ++ rest) (core_full hf kept) whole
  rw [List.append_nil, List.nil_append, if_neg hn] at first
  obtain ⟨left, hl, he⟩ := settle_of_not_runsDry rest (core_full hf kept) above hg still
  rw [List.append_nil] at he
  refine ⟨left, hl.trans (List.dropLast_prefix _), ?_⟩
  rw [settle_core, first, he]

end SongPattern.Program

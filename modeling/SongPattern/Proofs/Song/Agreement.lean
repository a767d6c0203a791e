import SongPattern.Proofs.Song.TagTable

namespace SongPattern.TagTable

open Pattern (IsName tagParts)

variable {t t' : TagTable} {name : String}

/-- A name that ties nothing is its only part. -/
theorem tagParts_of_untied (named : IsName name) (untied : isTied name = false) :
    tagParts name = [name] := by
  have plain : '~' ∉ name.toList.drop 1 := by
    by_cases marked : name.toList.head? = some '~'
    · obtain ⟨cs, chars⟩ := List.head?_eq_some_iff.mp marked
      rw [isTied.eq_def, chars] at untied
      rw [chars]
      simpa using untied
    · intro tilde
      have kept := congrArg String.toList named.2
      rw [Pattern.toList_normalizeName, Pattern.normalizeChars_eq,
        if_pos ⟨List.mem_of_mem_drop tilde, marked⟩] at kept
      exact List.cons_ne_self _ _ kept
  exact Pattern.tagParts_of_plain plain

theorem get?_congr (named : IsName name)
    (same : ∀ part ∈ tagParts name, t.get? part = t'.get? part) : t.get? name = t'.get? name := by
  cases tied : isTied name with
  | false =>
    rw [tagParts_of_untied named tied] at same
    exact same name (List.mem_singleton_self name)
  | true =>
    have lines (joiner : String) :
        (tagParts name).map (fun part => Text.joinWith joiner (linesOf (t.atom? part))) =
          (tagParts name).map fun part => Text.joinWith joiner (linesOf (t'.atom? part)) := by
      refine List.map_congr_left fun part hp => ?_
      rw [← get?_part hp, ← get?_part hp, same part hp]
    rw [get?, if_pos tied, get?, if_pos tied, tied?, tied?]
    simp only [through_atom?, lines]

theorem joined_congr (same : t.get? name = t'.get? name) : t.joined name = t'.joined name := by
  rw [joined, joined, through_get?, through_get?, same]

theorem textOf_congr (same : t.get? name = t'.get? name) : t.textOf name = t'.textOf name := by
  rw [textOf, textOf, same]

theorem sortPairs_congr (same : t.get? name = t'.get? name)
    (sort : name ∈ sortable → t.get? (name ++ "sort") = t'.get? (name ++ "sort")) :
    t.sortPairs name = t'.sortPairs name := by
  rw [sortPairs, sortPairs, textOf_congr same]
  split
  next sorts => rw [textOf_congr (sort sorts)]
  · rfl

theorem pairs_eq_flatMap (named : IsName name) :
    t.pairs name = (tagParts name).flatMap t.sortPairs := by
  cases tied : isTied name with
  | true => rw [pairs, if_pos tied]
  | false =>
    rw [pairs, tied, tagParts_of_untied named tied, List.flatMap_singleton]
    rfl

theorem pairs_congr (named : IsName name)
    (same : ∀ part ∈ tagParts name, t.get? part = t'.get? part)
    (sort : ∀ part ∈ tagParts name, part ∈ sortable →
      t.get? (part ++ "sort") = t'.get? (part ++ "sort")) : t.pairs name = t'.pairs name := by
  rw [pairs_eq_flatMap named, pairs_eq_flatMap named]
  exact List.flatMap_congr fun part hp => sortPairs_congr (same part hp) (sort part hp)

end SongPattern.TagTable

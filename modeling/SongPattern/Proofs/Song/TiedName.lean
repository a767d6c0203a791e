import SongPattern.Proofs.Song.TagTable

namespace SongPattern.TagTable

open Pattern (IsAtom normalizeName tagParts)

variable {t : TagTable} {name part : String}

/-- The lines of a tag. The title and any tag with a tilde in its name are looked up by `get`, and
another is read as it is stored. -/
def listBy (t : TagTable) (get : String → Option (Option Value)) (name : String) :
    Option (List String) :=
  if '~' ∈ name.toList ∨ name = "title" then (get name).map linesOf
  else some (linesOf (t.raw? name))

/-- A tied tag, whose parts are looked up by `list`. -/
def tiedBy (list : String → Option (List String)) (name : String) : Option (Option Value) :=
  let parts := tagParts name
  let joiner := if 1 < parts.length then ", " else "\n"
  (parts.mapM list).map fun values =>
    match (values.map (Text.joinWith joiner)).filter (· ≠ "") with
    | [] => none
    | texts => some (.text (Text.joinWith " - " texts))

/-- A look-up that goes through the parts of a tied name as if they could be tied again. Nothing is
found out where it has to go deeper than `depth`. -/
def getWithin (t : TagTable) : (depth : Nat) → String → Option (Option Value)
  | 0, _ => none
  | depth + 1, name =>
    if isTied name then tiedBy (t.listBy (t.getWithin depth)) name else some (t.atom? name)

theorem getWithin_of_untied (untied : isTied name = false) (depth : Nat) :
    t.getWithin (depth + 1) name = some (t.get? name) := by
  rw [getWithin, untied, get?_of_untied untied]
  rfl

theorem listBy_part (h : part ∈ tagParts name) (depth : Nat) :
    t.listBy (t.getWithin (depth + 1)) part = some (t.list part) := by
  have untied := isTied_eq_false (Pattern.tagParts_tilde h)
  rw [listBy, list, through]
  split
  · rw [getWithin_of_untied untied, Option.map_some]
  · rfl

theorem mapM_eq_map {α β : Type} {look : α → Option β} {found : α → β} {xs : List α}
    (h : ∀ x ∈ xs, look x = some (found x)) : xs.mapM look = some (xs.map found) := by
  induction xs with
  | nil => rfl
  | cons x xs ih =>
    rw [List.mapM_cons, h x List.mem_cons_self, ih fun y hy => h y (List.mem_cons_of_mem _ hy)]
    rfl

/-- No part of a tied name is tied, so two look-ups inside one another are enough. -/
theorem getWithin_two (depth : Nat) (name : String) :
    t.getWithin (depth + 2) name = some (t.get? name) := by
  cases tied : isTied name with
  | false => exact getWithin_of_untied tied (depth + 1)
  | true =>
    have values : (tagParts name).mapM (t.listBy (t.getWithin (depth + 1))) =
        some ((tagParts name).map t.list) := mapM_eq_map fun part hp => listBy_part hp depth
    have texts (joiner : String) : ((tagParts name).map t.list).map (Text.joinWith joiner) =
        (tagParts name).map fun part =>
          Text.joinWith joiner (linesOf (t.through t.atom? part)) := by
      rw [List.map_map]
      refine List.map_congr_left fun part hp => ?_
      rw [Function.comp_apply, list, through_get?, through_atom?, get?_part hp]
    rw [getWithin, if_pos tied, get?, if_pos tied]
    simp only [tiedBy, values, Option.map_some, texts]
    rfl

/-- Names that are tied together are found again, and each part is looked up without going through
parts of its own. A name that ties nothing, the empty one and a lone tilde among them, is its only
part. -/
theorem parts_of_tied_names :
    (∀ first second rest, (∀ part ∈ first :: second :: rest, IsAtom part) →
      first.toList.head? ≠ some '#' →
      tagParts ("~" ++ Text.joinWith "~" (first :: second :: rest)) = first :: second :: rest) ∧
    (∀ name, ('~' ∈ name.toList.drop 1 → ∀ part ∈ tagParts name, IsAtom part) ∧
      ('~' ∉ name.toList.drop 1 → tagParts name = [name])) ∧
    (∀ name, ∀ part ∈ tagParts name, tagParts part = [part] ∧ '~' ∉ part.toList.drop 1) ∧
    (∀ (t : TagTable) (depth : Nat) (name : String),
      t.getWithin (depth + 2) name = some (t.get? name)) ∧
    (∀ name, normalizeName (normalizeName name) = normalizeName name) ∧
    (∀ name, ¬(name.toList.head? = some '#' ∧ '~' ∈ name.toList) →
      tagParts (normalizeName name) = tagParts name) ∧
    ∀ name, name.toList.head? = some '#' → '~' ∈ name.toList →
      ∃ first rest, tagParts name = first :: rest ∧
        tagParts (normalizeName name) = ("~" ++ first) :: rest := by
  refine ⟨?_, ?_, ?_, ?_, Pattern.normalizeName_idem, ?_, ?_⟩
  · intro first second rest named start
    exact Pattern.tagParts_joinWith named start
  · intro name
    exact ⟨fun tied part hp => Pattern.isAtom_of_tied tied hp, Pattern.tagParts_of_plain⟩
  · intro name part hp
    exact ⟨Pattern.tagParts_part hp, Pattern.tagParts_tilde hp⟩
  · intro t depth name
    exact getWithin_two depth name
  · intro name start
    exact Pattern.tagParts_normalizeName start
  · intro name start tilde
    exact Pattern.tagParts_normalizeName_numeric start tilde

/-- An internal tag and a numeric one among the parts, and a numeric one in front of the others. -/
theorem parts_of_tied_names_numeric :
    (∀ part ∈ ["artist", "~people", "#track"], IsAtom part) ∧
      tagParts "~artist~~people~#track" = ["artist", "~people", "#track"] ∧
      tagParts "#track~title" = ["#track", "title"] ∧
      tagParts (normalizeName "#track~title") = ["~#track", "title"] := by
  have named : ∀ part ∈ ["artist", "~people", "#track"], IsAtom part := by
    intro part hp
    simp only [List.mem_cons, List.not_mem_nil, or_false] at hp
    rcases hp with rfl | rfl | rfl
    · exact ⟨"artist".toList, by decide, by decide, .inl rfl⟩
    · exact ⟨"people".toList, by decide, by decide, .inr rfl⟩
    · exact ⟨"#track".toList, by decide, by decide, .inl rfl⟩
  obtain ⟨joined, -, -, -, -, -, numeric⟩ := parts_of_tied_names
  obtain ⟨first, rest, written, marked⟩ := numeric "#track~title" (by decide) (by decide)
  have parts : tagParts "#track~title" = ["#track", "title"] := by decide
  obtain ⟨rfl, rfl⟩ := List.cons.inj (written.symm.trans parts)
  exact ⟨named, joined "artist" "~people" ["#track"] named (by decide), parts, marked⟩

end SongPattern.TagTable

import SongPattern.Proofs.Formatter.SingleValued
import SongPattern.Proofs.Query.Choice
import SongPattern.Proofs.Song.TagTable

namespace SongPattern

open Pattern (Node tagParts)
open Program (Rendering SameFragment)
open Text (hasLine shows Tight)

section Presence

variable {engine : RegexEngine} {t : TagTable} {k a b : String}

theorem formatList_text (parser : QueryParser) (source : Source) (s : String) :
    Formatter.asSet (Formatter.choices
      (Rendering.nodes ⟨.listed, id, parser, source⟩ [.text s] [])) = [(s, s)] := by
  have same : List.Forall₂ SameFragment [.text s] [.text s] := .cons (.literal s) .nil
  have written : Rendering.nodes ⟨.listed, id, parser, source⟩ [.text s] [] = [.text s] := by
    rw [Rendering.nodes, Rendering.node, Rendering.nodes]
    rfl
  rw [written, Formatter.choices_of_same same, Formatter.asSet_single]
  exact congrArg (fun text => [(text, text)]) String.append_empty

/-- A condition on a tag holds for its one text where that shows something. -/
theorem truth_joined (plain : Query.read? engine k = none) :
    Rendering.truth ⟨.joined, id, Query.parser engine, Policy.plain.source t.song⟩ k =
      shows (t.textOf k) := by
  have tag : Query.parser engine k = none := congrArg (Option.map Query.holds) plain
  rw [Rendering.truth_of_tag tag, Bool.eq_iff_iff, ← TagTable.joined_ne_empty_iff,
    Bool.not_eq_true', Bool.eq_false_iff]
  exact not_congr String.isEmpty_iff

/-- It holds for the list of values where there is one. There always is one of a number. -/
theorem truth_listed (plain : Query.read? engine k = none) :
    Rendering.truth ⟨.listed, id, Query.parser engine, Policy.plain.source t.song⟩ k =
      (isNumericTag k || hasLine (t.textOf k)) := by
  have tag : Query.parser engine k = none := congrArg (Option.map Query.holds) plain
  rw [Rendering.truth_of_tag tag]
  simp only [Rendering.value, Policy.source, Fragment.isEmpty]
  cases isNumericTag k with
  | true => rfl
  | false =>
    rw [Bool.eq_iff_iff, Bool.false_or, ← TagTable.pairs_ne_nil_iff, Bool.not_eq_true',
      Bool.eq_false_iff]
    simp [TagTable.song]

theorem render_choice_tag (hk : Pattern.IsName k) (plain : Query.read? engine k = none)
    (ha : a ≠ "") (hb : b ≠ "") :
    render engine (choice k a b) t.song = .ok (if shows (t.textOf k) then a else b) := by
  rw [render_of_parse (parse_choice hk.1 ha hb), hk.2, Rendering.nodes, choiceNode, Rendering.node,
    truth_joined plain, Rendering.nodes]
  cases shows (t.textOf k) with
  | true => exact congrArg Except.ok (textOf_text _ _ a)
  | false => exact congrArg Except.ok (textOf_text _ _ b)

theorem renderList_choice_tag (hk : Pattern.IsName k) (plain : Query.read? engine k = none)
    (ha : a ≠ "") (hb : b ≠ "") :
    renderList engine (choice k a b) t.song =
      .ok (if isNumericTag k || hasLine (t.textOf k) then [(a, a)] else [(b, b)]) := by
  rw [renderList_of_parse (parse_choice hk.1 ha hb), hk.2, Rendering.nodes, choiceNode,
    Rendering.node, truth_listed plain, Rendering.nodes]
  cases isNumericTag k || hasLine (t.textOf k) with
  | true => exact congrArg Except.ok (formatList_text _ _ a)
  | false => exact congrArg Except.ok (formatList_text _ _ b)

/-- The condition takes the same branch in both renderings. -/
def ChoosesAlike (engine : RegexEngine) (t : TagTable) (k a b : String) : Prop :=
  (render engine (choice k a b) t.song = .ok a ↔
      renderList engine (choice k a b) t.song = .ok [(a, a)]) ∧
    (render engine (choice k a b) t.song = .ok b ↔
      renderList engine (choice k a b) t.song = .ok [(b, b)])

theorem choosesAlike_iff (hk : Pattern.IsName k) (plain : Query.read? engine k = none) (ha : a ≠ "")
    (hb : b ≠ "") (distinct : a ≠ b) :
    ChoosesAlike engine t k a b ↔
      shows (t.textOf k) = (isNumericTag k || hasLine (t.textOf k)) := by
  rw [ChoosesAlike, render_choice_tag hk plain ha hb, renderList_choice_tag hk plain ha hb]
  cases shows (t.textOf k) <;> cases isNumericTag k || hasLine (t.textOf k) <;>
    simp [distinct, distinct.symm]

theorem untied_of_numeric (h : isNumericTag k = true) :
    TagTable.isTied k = false ∧ k ≠ "~basename" := by
  constructor
  · rw [isNumericTag.eq_def] at h
    split at h
    next cs chars =>
      rw [TagTable.isTied.eq_def, chars]
      simpa using h
    · cases h
  · rintro rfl
    exact absurd h (by decide)

/-- A condition on a tag takes the same branch in both renderings, with two exceptions: a numeric
tag that the song lacks has a value in the list, and so has a file name of blanks alone. -/
theorem choice_tag_iff (trimmed : t.Trimmed) (hk : Pattern.IsName k)
    (plain : Query.read? engine k = none) (ha : a ≠ "") (hb : b ≠ "") (distinct : a ≠ b) :
    render engine (choice k a b) t.song = .ok (if shows (t.textOf k) then a else b) ∧
      renderList engine (choice k a b) t.song =
        .ok (if isNumericTag k || hasLine (t.textOf k) then [(a, a)] else [(b, b)]) ∧
      (ChoosesAlike engine t k a b ↔
        if isNumericTag k then t.textOf k ≠ "" else hasLine (t.textOf k) → shows (t.textOf k)) ∧
      (isNumericTag k = false →
        ("~basename" ∈ tagParts k → shows (t.textOf "~basename")) →
          ChoosesAlike engine t k a b) := by
  have line := Text.hasLine_of_shows (s := t.textOf k)
  have exact_iff : ChoosesAlike engine t k a b ↔
      if isNumericTag k then t.textOf k ≠ "" else hasLine (t.textOf k) → shows (t.textOf k) := by
    rw [choosesAlike_iff hk plain ha hb distinct]
    cases numeric : isNumericTag k with
    | true =>
      obtain ⟨untied, named⟩ := untied_of_numeric numeric
      rw [Bool.true_or, if_pos rfl]
      exact ⟨fun h => Text.ne_empty_of_hasLine (line h), (trimmed.tight_textOf untied named).shows⟩
    | false =>
      rw [Bool.false_or, if_neg Bool.false_ne_true, Bool.eq_iff_iff]
      exact ⟨fun h => h.mpr, fun h => ⟨line, h⟩⟩
  refine ⟨render_choice_tag hk plain ha hb, renderList_choice_tag hk plain ha hb, exact_iff, ?_⟩
  intro numeric base
  rw [exact_iff, numeric]
  exact fun line => trimmed.shows_of_hasLine line base

theorem choice_tag_artist :
    let t := TagTable.ofList [("artist", .text "Foo")]
    (t.Trimmed ∧ Pattern.IsName "artist" ∧ Query.read? Regex.engine "artist" = none) ∧
      ChoosesAlike Regex.engine t "artist" "yes" "no" := by
  intro t
  have trimmed : t.Trimmed := by
    intro name s h
    have stored : t.raw? name = if name = "artist" then some (.text "Foo") else none := by
      by_cases hn : name = "artist"
      · rw [hn]
        rfl
      · simp [t, TagTable.raw?, TagTable.ofList, TagTable.set, TagTable.remove, TagTable.empty, hn]
    rw [stored] at h
    split at h
    · cases h
      decide +kernel
    · cases h
  have hk : Pattern.IsName "artist" := ⟨by decide, by decide +kernel⟩
  have plain : Query.read? Regex.engine "artist" = none := rfl
  have law := choice_tag_iff trimmed hk plain (a := "yes") (b := "no") (by decide) (by decide)
    (by decide)
  exact ⟨⟨trimmed, hk, plain⟩, law.2.2.2 (by decide) (fun h => absurd h (by decide +kernel))⟩

/-- A rating that the song lacks. -/
theorem choice_tag_rating :
    (TagTable.empty.Trimmed ∧ Pattern.IsName "~#rating" ∧
        Query.read? Regex.engine "~#rating" = none) ∧
      choice "~#rating" "a" "b" = "<~#rating|a|b>" ∧
      render Regex.engine "<~#rating|a|b>" TagTable.empty.song = .ok "b" ∧
      renderList Regex.engine "<~#rating|a|b>" TagTable.empty.song = .ok [("a", "a")] := by
  have hk : Pattern.IsName "~#rating" := ⟨by decide, by decide +kernel⟩
  have plain : Query.read? Regex.engine "~#rating" = none := rfl
  have pattern : choice "~#rating" "a" "b" = "<~#rating|a|b>" := by decide +kernel
  have one := render_choice_tag (t := .empty) hk plain (a := "a") (b := "b") (by decide) (by decide)
  have all :=
    renderList_choice_tag (t := .empty) hk plain (a := "a") (b := "b") (by decide) (by decide)
  rw [pattern] at one all
  exact ⟨⟨nofun, hk, plain⟩, pattern, one, all⟩

end Presence

end SongPattern

import SongPattern.Proofs.Pattern.Reader
import SongPattern.Proofs.Query.Writing
import SongPattern.Proofs.Render
import SongPattern.Song.TagTable

namespace SongPattern

open Pattern (Node escape)
open Program (Rendering)

namespace Query

variable {engine : RegexEngine}

/-- The query on the tag with a tilde in front. Nothing is in front of the tag of a number. -/
def tied : Query → Option Query
  | .contains tag needle => some (.contains ("~" ++ tag) needle)
  | .equals tag value => some (.equals ("~" ++ tag) value)
  | .matches tag source found => some (.matches ("~" ++ tag) source found)
  | .numeric _ _ _ => none

theorem tied_of_readNumeric? {inner : List Char} {query : Query}
    (h : readNumeric? inner = some query) : query.tied = none := by
  obtain ⟨⟨op, rest⟩, _, h⟩ := Option.bind_eq_some_iff.mp h
  obtain ⟨_, _, h⟩ := Option.bind_eq_some_iff.mp h
  obtain ⟨value, _, h⟩ := Option.bind_eq_some_iff.mp h
  cases h
  rfl

theorem readValue?_tilde {tag : String} {value : List Char} {query : Query}
    (h : readValue? engine tag value = some query) :
    readValue? engine ("~" ++ tag) value = query.tied := by
  rw [readValue?] at h ⊢
  cases quoted : enclosed? '"' value <|> enclosed? '\'' value with
  | some inner =>
    rw [quoted] at h
    cases h
    rfl
  | none =>
    rw [quoted] at h
    cases slashed : enclosed? '/' value with
    | some source =>
      simp only [slashed] at h ⊢
      obtain ⟨found, hf, rfl⟩ := Option.map_eq_some_iff.mp h
      rw [hf]
      rfl
    | none =>
      simp only [slashed] at h ⊢
      split at h
      · cases h
      next full =>
        cases h
        rw [if_neg full]
        rfl

theorem isTagName_tilde {name : List Char} (h : isTagName name = true) :
    isTagName ('~' :: name) = true := by
  rw [isTagName, Bool.and_eq_true] at h ⊢
  refine ⟨rfl, ?_⟩
  rw [List.all_cons, h.2, Bool.and_true]
  decide

theorem isTagName_paren (name : List Char) : isTagName ('~' :: '#' :: '(' :: name) = false := by
  rw [isTagName, List.all_cons, List.all_cons, List.all_cons]
  have paren : (!Text.isBlank '(' && !"=!/\"'()&|<>,".toList.contains '(') = false := by decide
  rw [paren, Bool.false_and, Bool.and_false, Bool.and_false, Bool.and_false]

theorem read?_tilde {q : String} {query : Query} (h : read? engine q = some query) :
    read? engine ("~" ++ q) = query.tied := by
  have chars : ("~" ++ q).toList = '~' :: q.toList := String.toList_append
  rw [← String.ofList_toList (s := "~" ++ q), chars]
  cases hn : numericInside? q.toList with
  | some inner =>
    -- the tag would hold the bracket
    have hq : q.toList = '#' :: '(' :: (inner ++ [')']) := numericInside?_eq_some_iff.mp hn
    rw [read?, hn] at h
    rw [tied_of_readNumeric? h, read?_of_not_numeric rfl, hq,
      List.takeWhile_cons_of_pos (by decide), List.takeWhile_cons_of_pos (by decide),
      List.takeWhile_cons_of_pos (by decide), isTagName_paren]
    split <;> rfl
  | none =>
    rw [← String.ofList_toList (s := q)] at h
    obtain ⟨tag, value, named, hq, read⟩ := exists_tagged hn h
    rw [hq, ← List.cons_append, read?_tagged (isTagName_tilde named), ← List.singleton_append,
      String.ofList_append]
    exact readValue?_tilde read

/-- What a condition tests that was written for a query. A text with a tilde inside gets one in
front, as if it was the name of a tied tag. -/
def tested (q : String) (query : Query) (song : Song) : Bool :=
  if '~' ∈ q.toList ∧ q.toList.head? ≠ some '~' then
    match query.tied with
    | some tied => tied.holds song
    | none => (song.joined ("~" ++ q)).display ≠ ""
  else query.holds song

theorem truth_normalizeName {q : String} {query : Query} (h : read? engine q = some query)
    (song : Song) :
    Rendering.truth ⟨.joined, id, Query.parser engine, Policy.plain.source song⟩
      (Pattern.normalizeName q) = query.tested q song := by
  rw [Rendering.truth, Pattern.normalizeName, Pattern.normalizeChars_eq, tested]
  by_cases altered : '~' ∈ q.toList ∧ q.toList.head? ≠ some '~'
  · have text : String.ofList ('~' :: q.toList) = "~" ++ q := by
      rw [← List.singleton_append, String.ofList_append, String.ofList_toList]
    have tilde : Query.parser engine ("~" ++ q) = query.tied.map holds :=
      congrArg (Option.map holds) (read?_tilde h)
    simp only [if_pos altered, text, tilde]
    cases query.tied with
    | some tied => rfl
    | none =>
      have source :
          Policy.plain.source song = ⟨fun key => (song.joined key).display, _, song⟩ := rfl
      simp only [Rendering.value, source, Fragment.isEmpty]
      by_cases silent : (song.joined ("~" ++ q)).display = ""
      · rw [silent]
        rfl
      · rw [Bool.eq_false_iff.mpr (mt String.isEmpty_iff.mp silent), decide_eq_true silent]
        rfl
  · have same : Query.parser engine q = some query.holds := congrArg (Option.map holds) h
    simp only [if_neg altered, String.ofList_toList, same]
    rfl

end Query

/-- A condition that chooses between two texts. -/
def choice (predicate a b : String) : String :=
  "<" ++ escape predicate ++ "|" ++ escape a ++ "|" ++ escape b ++ ">"

section Choice

variable {predicate a b : String}

def choiceNode (predicate a b : String) : Node := .condition predicate [.text a] (some [.text b])

theorem choice_toList (predicate a b : String) : (choice predicate a b).toList =
    Pattern.writeLexemes (choiceNode predicate a b).lexemes := by
  rw [← Pattern.print_eq_write.1, choice, choiceNode]
  simp only [Node.print, Pattern.printNodes, String.append_empty]

theorem spaced_choice (hp : predicate ≠ "") (ha : a ≠ "") (hb : b ≠ "") :
    Pattern.Spaced (choiceNode predicate a b).lexemes := by
  refine ⟨rfl, ?_, hp, ?_, rfl, ?_, ha, ?_, rfl, ?_, hb, ?_, rfl, nofun, trivial⟩
  all_goals
    rintro l ⟨⟩
    trivial

theorem parse_choice (hp : predicate ≠ "") (ha : a ≠ "") (hb : b ≠ "") :
    Pattern.parse (choice predicate a b) =
      .ok [choiceNode (Pattern.normalizeName predicate) a b] := by
  refine Pattern.parse_of_reads (choice_toList predicate a b) (spaced_choice hp ha hb) ?_
  have branch {s : String} (hs : s ≠ "") :
      Pattern.ReadsBack 127 (Pattern.lexemesOf [.text s]) [.text s] :=
    Pattern.readsBack_lexemes.2.1 [.text s] 127 ⟨hs, fun _ => rfl, trivial⟩ (Nat.zero_le _)
  exact Pattern.readsBack_either predicate (branch ha) (branch hb)

/-- A text alone renders as it is. -/
theorem textOf_text (parser : QueryParser) (source : Source) (s : String) :
    textOf (Rendering.nodes ⟨.joined, id, parser, source⟩ [.text s] []) = s := by
  rw [Rendering.nodes, Rendering.node, Rendering.nodes]
  exact String.append_empty

theorem render_choice (engine : RegexEngine) (song : Song) {q : String} {query : Query}
    (hq : Query.read? engine q = some query) (ha : a ≠ "") (hb : b ≠ "") :
    render engine (choice q a b) song = .ok (if query.tested q song then a else b) := by
  have hp : q ≠ "" := by
    rintro rfl
    cases hq
  rw [render_of_parse (parse_choice hp ha hb), Rendering.nodes, choiceNode, Rendering.node,
    Query.truth_normalizeName hq, Rendering.nodes]
  cases query.tested q song with
  | true => exact congrArg Except.ok (textOf_text _ _ a)
  | false => exact congrArg Except.ok (textOf_text _ _ b)

/-- A condition around a query chooses by what is left of the query when its text was taken for the
name of a tag. -/
theorem render_choice_iff (engine : RegexEngine) (song : Song) {q : String} {query : Query}
    (hq : Query.read? engine q = some query) (ha : a ≠ "") (hb : b ≠ "") :
    render engine (choice q a b) song = .ok (if query.tested q song then a else b) ∧
      (render engine (choice q a b) song = .ok (if query.holds song then a else b) ↔
        a = b ∨ query.tested q song = query.holds song) := by
  have rendered := render_choice engine song hq ha hb
  refine ⟨rendered, ?_⟩
  rw [rendered]
  constructor
  · intro h
    have same := Except.ok.inj h
    cases ht : query.tested q song <;> cases hh : query.holds song
    case false.false | true.true => exact .inr rfl
    case false.true =>
      rw [ht, hh] at same
      exact .inl same.symm
    case true.false =>
      rw [ht, hh] at same
      exact .inl same
  · rintro (rfl | same)
    · rw [ite_self, ite_self]
    · rw [same]

theorem render_choice_tilde_free :
    let song := (TagTable.ofList [("artist", .text "Foo")]).song
    Query.read? Regex.engine "artist=\"Foo\"" = some (.equals "artist" "Foo") ∧
      render Regex.engine "<artist=\"Foo\"|yes|no>" song = .ok "yes" := by
  intro song
  have hq : Query.read? Regex.engine "artist=\"Foo\"" = some (.equals "artist" "Foo") := rfl
  have holds : Query.tested "artist=\"Foo\"" (.equals "artist" "Foo") song = true := by
    decide +kernel
  have rendered :=
    (render_choice_iff Regex.engine song (a := "yes") (b := "no") hq (by decide) (by decide)).1
  rw [holds] at rendered
  exact ⟨hq, rendered⟩

/-- The tag `~title` is asked for. -/
theorem render_choice_tilde_inside :
    let song := (TagTable.ofList [("title", .text "a~b")]).song
    Query.read? Regex.engine "title=\"a~b\"" = some (.equals "title" "a~b") ∧
      Query.holds (.equals "title" "a~b") song = true ∧
      choice "title=\"a~b\"" "yes" "no" = "<title=\"a~b\"|yes|no>" ∧
      render Regex.engine "<title=\"a~b\"|yes|no>" song = .ok "no" := by
  intro song
  have hq : Query.read? Regex.engine "title=\"a~b\"" = some (.equals "title" "a~b") := rfl
  have fails : Query.tested "title=\"a~b\"" (.equals "title" "a~b") song = false := by
    decide +kernel
  have rendered :=
    render_choice Regex.engine song (a := "yes") (b := "no") hq (by decide) (by decide)
  rw [fails] at rendered
  exact ⟨hq, by decide +kernel, by decide +kernel, rendered⟩

end Choice

end SongPattern

import SongPattern.Proofs.Number.Numeral
import SongPattern.Proofs.Query.Tag
import SongPattern.Regex.Engine

namespace SongPattern

namespace Comparison

/-- How an operator is written. -/
def sign : Comparison → List Char
  | .less => ['<']
  | .lessEqual => ['<', '=']
  | .greater => ['>']
  | .greaterEqual => ['>', '=']
  | .equal => ['=']
  | .notEqual => ['!', '=']

/-- What follows may not make the operator longer. -/
theorem read?_sign (op : Comparison) {rest : List Char} (h : rest.head? ≠ some '=') :
    read? (op.sign ++ rest) = some (op, rest) := by
  cases rest with
  | nil => cases op <;> rfl
  | cons c rest =>
    have hc : c ≠ '=' := fun same => h (congrArg some same)
    cases op <;> simp [sign, read?, hc]

theorem eq_sign_append {cs rest : List Char} {op : Comparison} (h : read? cs = some (op, rest)) :
    cs = op.sign ++ rest := by
  rw [read?.eq_def] at h
  split at h <;> cases h <;> rfl

end Comparison

namespace Query

open Text (isBlank)

variable {engine : RegexEngine} {tag value cs inner rest : List Char} {mark : Char}

/-- The value behind `tag=`. -/
inductive Operand where
  | enclosed (mark : Char) (inner : List Char)
  | bare (value : List Char)

/-- The inside of `#(…)`, with the blanks around its parts. -/
structure Test where
  before : List Char
  tag : List Char
  between : List Char
  op : Comparison
  after : List Char
  number : List Char
  behind : List Char

inductive Writing where
  | tagged (tag : List Char) (operand : Operand)
  | numeric (test : Test)

def Operand.chars : Operand → List Char
  | .enclosed mark inner => mark :: inner ++ [mark]
  | .bare value => value

def Test.chars (t : Test) : List Char :=
  t.before ++ (t.tag ++ t.between) ++ (t.op.sign ++ (t.after ++ (t.number ++ t.behind)))

def Writing.chars : Writing → List Char
  | .tagged tag operand => tag ++ '=' :: operand.chars
  | .numeric test => '#' :: '(' :: test.chars ++ [')']

/-- Between two equal quotes or slashes. -/
def Enclosed (value : List Char) : Prop :=
  ∃ mark ∈ ['"', '\'', '/'], ∃ inner, value = mark :: inner ++ [mark]

/-- What a value asks of a tag: to be one of its lines, to match it, or to occur in it. The engine
decides which sources are regexes. -/
inductive Operand.Means (engine : RegexEngine) (tag : String) : Operand → Query → Prop where
  | equals {mark : Char} {value : List Char} (quote : mark = '"' ∨ mark = '\'') :
      Operand.Means engine tag (.enclosed mark value) (.equals tag (.ofList value))
  | pattern {source : List Char} {found : String → Bool}
      (valid : engine (.ofList source) = some found) :
      Operand.Means engine tag (.enclosed '/' source) (.matches tag (.ofList source) found)
  | contains {value : List Char} (full : value ≠ []) (bare : ¬ Enclosed value) :
      Operand.Means engine tag (.bare value) (.contains tag (Text.lower (.ofList value)))

structure Test.Reads (t : Test) (value : Float) : Prop where
  before : ∀ c ∈ t.before, isBlank c = true
  between : ∀ c ∈ t.between, isBlank c = true
  after : ∀ c ∈ t.after, isBlank c = true
  behind : ∀ c ∈ t.behind, isBlank c = true
  named : isTagName t.tag = true
  number : Number.readFloat? (.ofList t.number) = some value

inductive Writing.Means (engine : RegexEngine) : Writing → Query → Prop where
  | tagged {tag : List Char} {operand : Operand} {q : Query} (named : isTagName tag = true)
      (means : operand.Means engine (.ofList tag) q) :
      Writing.Means engine (.tagged tag operand) q
  | numeric {test : Test} {value : Float} (reads : test.Reads value) :
      Writing.Means engine (.numeric test) (.numeric (.ofList test.tag) test.op value)

theorem solid_of_named (h : isTagName tag = true) : Number.Solid tag := by
  rw [isTagName, Bool.and_eq_true, Bool.not_eq_true', List.all_eq_true] at h
  refine ⟨mt List.isEmpty_iff.mpr (Bool.eq_false_iff.mp h.1), fun c hc => ?_⟩
  have clear := h.2 c hc
  rw [Bool.and_eq_true, Bool.not_eq_true'] at clear
  exact clear.1

theorem not_mem_of_named (h : isTagName tag = true) {c : Char}
    (special : c ∈ "=!/\"'()&|<>,".toList) : c ∉ tag := by
  intro hc
  rw [isTagName, Bool.and_eq_true, List.all_eq_true] at h
  have clear := h.2 c hc
  rw [Bool.and_eq_true, Bool.not_eq_true', Bool.not_eq_true', List.contains_eq_mem,
    decide_eq_false_iff_not] at clear
  exact clear.2 special

theorem ends_with_iff (c : Char) :
    (if rest.getLast? = some c then some rest.dropLast else none) = some inner ↔
      rest = inner ++ [c] := by
  constructor
  · intro h
    split at h
    next last =>
      obtain ⟨front, rfl⟩ := List.getLast?_eq_some_iff.mp last
      rw [List.dropLast_concat] at h
      rw [Option.some.inj h]
    · cases h
  · rintro rfl
    rw [if_pos List.getLast?_concat, List.dropLast_concat]

theorem enclosed?_eq_some_iff : enclosed? mark cs = some inner ↔ cs = mark :: inner ++ [mark] := by
  cases cs with
  | nil => exact iff_of_false nofun nofun
  | cons first rest =>
    rw [enclosed?, List.cons_append, List.cons.injEq, ← ends_with_iff mark]
    by_cases same : first = mark
    · simp [same]
    · simp [same]

theorem enclosed_iff : Enclosed value ↔
    (['"', '\'', '/'].any fun mark => (enclosed? mark value).isSome) = true := by
  simp only [Enclosed, List.any_eq_true, Option.isSome_iff_exists, enclosed?_eq_some_iff]

instance : Decidable (Enclosed value) := decidable_of_iff _ enclosed_iff.symm

theorem numericInside?_eq_some_iff :
    numericInside? cs = some inner ↔ cs = '#' :: '(' :: inner ++ [')'] := by
  rw [numericInside?.eq_def]
  split
  next rest =>
    rw [List.cons_append, List.cons_append, List.cons.injEq, List.cons.injEq, ← ends_with_iff ')',
      and_iff_right rfl, and_iff_right rfl]
  next other =>
    refine iff_of_false nofun ?_
    rintro rfl
    exact other (inner ++ [')']) rfl

theorem enclosed?_of_ne {first : Char} (h : first ≠ mark) (rest : List Char) :
    enclosed? mark (first :: rest) = none := by
  rw [enclosed?, decide_eq_false h, Bool.false_and]
  rfl

theorem enclosed?_of_not_enclosed (h : ¬ Enclosed value) (sign : mark ∈ ['"', '\'', '/']) :
    enclosed? mark value = none := by
  rw [Option.eq_none_iff_forall_ne_some]
  intro inner some
  exact h ⟨mark, sign, inner, enclosed?_eq_some_iff.mp some⟩

/-- The text between two equal quotes. -/
def quoted? (value : List Char) : Option (List Char) := enclosed? '"' value <|> enclosed? '\'' value

theorem quoted?_eq_some_iff : quoted? value = some inner ↔
    ∃ mark, (mark = '"' ∨ mark = '\'') ∧ value = mark :: inner ++ [mark] := by
  simp only [or_and_right, exists_or, exists_eq_left, ← enclosed?_eq_some_iff, quoted?]
  cases double : enclosed? '"' value with
  | none =>
    rw [or_iff_right (by nofun)]
    rfl
  | some inner' =>
    have apart : enclosed? '\'' value = none := by
      rw [enclosed?_eq_some_iff.mp double, List.cons_append]
      exact enclosed?_of_ne (by decide) _
    rw [apart, or_iff_left (by nofun)]
    rfl

theorem quoted?_eq_none (h : ∀ mark inner, value = mark :: inner ++ [mark] →
    mark ≠ '"' ∧ mark ≠ '\'') : quoted? value = none := by
  rw [Option.eq_none_iff_forall_ne_some]
  intro inner some
  obtain ⟨mark, quote, whole⟩ := quoted?_eq_some_iff.mp some
  exact quote.elim (h mark inner whole).1 (h mark inner whole).2

/-- A value is read for what it was written for. -/
theorem readValue?_chars {name : String} {operand : Operand} {q : Query}
    (h : operand.Means engine name q) : readValue? engine name operand.chars = some q := by
  cases h with
  | @equals mark value quote =>
    have quoted : quoted? (mark :: value ++ [mark]) = some value :=
      quoted?_eq_some_iff.mpr ⟨mark, quote, rfl⟩
    rw [Operand.chars, readValue?, ← quoted?, quoted]
  | @pattern source regex valid =>
    have unquoted : quoted? ('/' :: source ++ ['/']) = none := by
      apply quoted?_eq_none
      intro mark inner whole
      rw [List.cons_append, List.cons_append] at whole
      rw [← (List.cons.inj whole).1]
      decide
    rw [Operand.chars, readValue?, ← quoted?, unquoted]
    simp only [enclosed?_eq_some_iff.mpr rfl, valid, Option.map_some]
  | @contains value full bare =>
    have unquoted : quoted? value = none := by
      apply quoted?_eq_none
      intro mark inner whole
      constructor <;>
      · rintro rfl
        exact bare ⟨_, by decide, inner, whole⟩
    have unslashed : enclosed? '/' value = none := enclosed?_of_not_enclosed bare (by decide)
    rw [Operand.chars, readValue?, ← quoted?, unquoted]
    simp only [unslashed]
    rw [if_neg (mt List.isEmpty_iff.mp full)]

theorem exists_operand {name : String} {q : Query} (h : readValue? engine name value = some q) :
    ∃ operand : Operand, operand.chars = value ∧ operand.Means engine name q := by
  rw [readValue?, ← quoted?] at h
  cases quoted : quoted? value with
  | some inner =>
    simp only [quoted, Option.some.injEq] at h
    obtain ⟨mark, quote, rfl⟩ := quoted?_eq_some_iff.mp quoted
    exact ⟨.enclosed mark inner, rfl, h ▸ .equals quote⟩
  | none =>
    cases slashed : enclosed? '/' value with
    | some source =>
      simp only [quoted, slashed] at h
      obtain ⟨regex, valid, rfl⟩ := Option.map_eq_some_iff.mp h
      exact ⟨.enclosed '/' source, (enclosed?_eq_some_iff.mp slashed).symm, .pattern valid⟩
    | none =>
      simp only [quoted, slashed] at h
      split at h
      · cases h
      next full =>
        cases h
        refine ⟨.bare value, rfl, .contains (mt List.isEmpty_iff.mpr full) ?_⟩
        rintro ⟨mark, sign, inner, whole⟩
        simp only [List.mem_cons, List.not_mem_nil, or_false, ← or_assoc] at sign
        rcases sign with quote | rfl
        · rw [quoted?_eq_some_iff.mpr ⟨mark, quote, whole⟩] at quoted
          cases quoted
        · rw [enclosed?_eq_some_iff.mpr whole] at slashed
          cases slashed

theorem Operand.Means.sign {name : String} {mark : Char} {q : Query}
    (h : (Operand.enclosed mark inner).Means engine name q) : mark ∈ ['"', '\'', '/'] := by
  cases h with
  | equals quote => rcases quote with rfl | rfl <;> decide
  | pattern valid => decide

/-- A value was written in one way. -/
theorem operand_inj {name name' : String} {o o' : Operand} {q q' : Query}
    (h : o.Means engine name q) (h' : o'.Means engine name' q') (same : o.chars = o'.chars) :
    o = o' := by
  cases o with
  | enclosed mark inner =>
    cases o' with
    | enclosed mark' inner' =>
      obtain ⟨rfl, behind⟩ := List.cons.inj same
      rw [List.append_cancel_right behind]
    | bare value =>
      cases h' with
      | contains full bare => exact absurd ⟨mark, h.sign, inner, same.symm⟩ bare
  | bare value =>
    cases o' with
    | enclosed mark' inner' =>
      cases h with
      | contains full bare => exact absurd ⟨mark', h'.sign, inner', same⟩ bare
    | bare value' => exact congrArg Operand.bare same

/-- The characters of the operators. -/
def isSign (c : Char) : Bool := c = '<' || c = '>' || c = '=' || c = '!'

/-- The name of the tag in front of the operator. -/
def testedTag (inner : List Char) : List Char :=
  Text.trimEnd (Text.trimStart (inner.takeWhile fun c => !isSign c))

theorem readNumeric?_eq_some_iff {q : Query} : readNumeric? inner = some q ↔
    ∃ op rest x, Comparison.read? (inner.dropWhile fun c => !isSign c) = some (op, rest) ∧
      isTagName (testedTag inner) = true ∧ Number.readFloat? (Text.trim (.ofList rest)) = some x ∧
      q = .numeric (.ofList (testedTag inner)) op x := by
  have unfolded : readNumeric? inner =
      (Comparison.read? (inner.dropWhile fun c => !isSign c)).bind fun found =>
        (guard (isTagName (testedTag inner) = true) : Option Unit).bind fun _ =>
          (Number.readFloat? (Text.trim (.ofList found.2))).bind fun x =>
            some (.numeric (.ofList (testedTag inner)) found.1 x) := rfl
  constructor
  · intro h
    rw [unfolded] at h
    obtain ⟨⟨op, rest⟩, found, h⟩ := Option.bind_eq_some_iff.mp h
    obtain ⟨_, guarded, h⟩ := Option.bind_eq_some_iff.mp h
    obtain ⟨x, number, h⟩ := Option.bind_eq_some_iff.mp h
    have named : isTagName (testedTag inner) = true := by
      by_contra refused
      rw [guard, if_neg refused] at guarded
      cases guarded
    exact ⟨op, rest, x, found, named, number, (Option.some.inj h).symm⟩
  · rintro ⟨op, rest, x, found, named, number, rfl⟩
    have passed : (guard (true = true) : Option Unit) = some () := rfl
    rw [unfolded, found, named, Option.bind_some, passed, Option.bind_some, number,
      Option.bind_some]

theorem isSign_of_blank {c : Char} (h : isBlank c = true) : isSign c = false := by
  rw [Bool.eq_false_iff]
  intro sign
  simp only [isSign, Bool.or_eq_true, decide_eq_true_eq, or_assoc] at sign
  rcases sign with rfl | rfl | rfl | rfl <;> exact absurd h (by decide)

theorem isSign_of_named (h : isTagName tag = true) {c : Char} (hc : c ∈ tag) :
    isSign c = false := by
  rw [Bool.eq_false_iff]
  intro sign
  simp only [isSign, Bool.or_eq_true, decide_eq_true_eq, or_assoc] at sign
  rcases sign with rfl | rfl | rfl | rfl <;> exact not_mem_of_named h (by decide) hc

theorem sign_head (op : Comparison) (rest : List Char) :
    ∀ c ∈ (op.sign ++ rest).head?, isSign c = true := by
  cases op <;> (rintro c ⟨⟩; rfl)

namespace Test

variable {t t' : Test} {x x' : Float}

theorem Reads.tag_core (h : t.Reads x) : Text.Core t.tag := (solid_of_named h.named).core

theorem Reads.number_core (h : t.Reads x) : Text.Core t.number := by
  have numeral := Number.numeral_of_readFloat? h.number
  rw [String.toList_ofList] at numeral
  have solid : Number.Solid t.number := ⟨numeral.1, fun c hc => (numeral.2 c hc).1⟩
  exact solid.core

/-- No operator stands in front of the operator. -/
theorem Reads.no_operator (h : t.Reads x) :
    ∀ c ∈ t.before ++ (t.tag ++ t.between), (!isSign c) = true := by
  intro c hc
  rw [Bool.not_eq_true']
  rcases List.mem_append.mp hc with before | hc
  · exact isSign_of_blank (h.before c before)
  rcases List.mem_append.mp hc with named | between
  · exact isSign_of_named h.named named
  · exact isSign_of_blank (h.between c between)

/-- What follows the operator does not make it longer. -/
theorem Reads.no_equals (h : t.Reads x) :
    (t.after ++ (t.number ++ t.behind)).head? ≠ some '=' := by
  intro head
  cases after : t.after with
  | nil =>
    obtain ⟨full, numeral⟩ := Number.numeral_of_readFloat? h.number
    rw [String.toList_ofList] at full numeral
    rw [after, List.nil_append, List.head?_append_of_ne_nil _ full] at head
    exact (numeral _ (List.mem_of_mem_head? head)).2 rfl
  | cons c cs =>
    rw [after] at head
    cases head
    exact absurd (h.after _ (after ▸ List.mem_cons_self)) (by decide)

theorem Reads.takeWhile_chars (h : t.Reads x) :
    t.chars.takeWhile (fun c => !isSign c) = t.before ++ (t.tag ++ t.between) :=
  Text.takeWhile_append_stop h.no_operator fun c hc => by simp [sign_head _ _ c hc]

theorem Reads.dropWhile_chars (h : t.Reads x) : t.chars.dropWhile (fun c => !isSign c) =
    t.op.sign ++ (t.after ++ (t.number ++ t.behind)) :=
  Text.dropWhile_append_stop h.no_operator fun c hc => by simp [sign_head _ _ c hc]

theorem readNumeric?_chars (h : t.Reads x) :
    readNumeric? t.chars = some (.numeric (.ofList t.tag) t.op x) := by
  have tag : testedTag t.chars = t.tag := by
    rw [testedTag, h.takeWhile_chars]
    exact Text.trim_padded h.before h.between h.tag_core
  have number : Text.trim (.ofList (t.after ++ (t.number ++ t.behind))) = .ofList t.number := by
    rw [Text.trim, String.toList_ofList, Text.trim_padded h.after h.behind h.number_core]
  rw [readNumeric?_eq_some_iff, h.dropWhile_chars, tag]
  refine ⟨t.op, _, x, Comparison.read?_sign t.op h.no_equals, h.named, ?_, rfl⟩
  rw [number]
  exact h.number

theorem exists_test {q : Query} (h : readNumeric? inner = some q) :
    ∃ (t : Test) (x : Float), t.chars = inner ∧ t.Reads x ∧
      q = .numeric (.ofList t.tag) t.op x := by
  obtain ⟨op, rest, x, found, named, number, rfl⟩ := readNumeric?_eq_some_iff.mp h
  obtain ⟨before, between, hb, hm, front⟩ :=
    Text.exists_padded (inner.takeWhile fun c => !isSign c)
  obtain ⟨after, behind, ha, he, last⟩ := Text.exists_padded rest
  rw [Text.trim, String.toList_ofList] at number
  refine ⟨⟨before, testedTag inner, between, op, after, Text.trimEnd (Text.trimStart rest), behind⟩,
    x, ?_, ⟨hb, hm, ha, he, named, number⟩, rfl⟩
  have parts : inner.takeWhile (fun c => !isSign c) ++ (op.sign ++ rest) = inner := by
    rw [← Comparison.eq_sign_append found]
    exact List.takeWhile_append_dropWhile
  rw [chars, last, testedTag, front]
  exact parts

/-- The inside of a test was written in one way. -/
theorem test_inj (h : t.Reads x) (h' : t'.Reads x') (same : t.chars = t'.chars) : t = t' := by
  have front := h.takeWhile_chars
  have behind := h.dropWhile_chars
  rw [same, h'.takeWhile_chars] at front
  rw [same, h'.dropWhile_chars] at behind
  have read := congrArg Comparison.read? behind
  rw [Comparison.read?_sign _ h.no_equals, Comparison.read?_sign _ h'.no_equals] at read
  obtain ⟨op, rest⟩ := Prod.mk.inj (Option.some.inj read)
  obtain ⟨before, tag, between⟩ :=
    Text.padded_inj h'.before h'.between h'.tag_core h.before h.between h.tag_core front
  obtain ⟨after, number, last⟩ :=
    Text.padded_inj h'.after h'.behind h'.number_core h.after h.behind h.number_core rest
  cases t
  cases t'
  simp only at before tag between op after number last
  rw [before, tag, between, op, after, number, last]

end Test

/-- A name in front of `=` does not look like the start of a test. -/
theorem numericInside?_tagged (named : isTagName tag = true) :
    numericInside? (tag ++ '=' :: value) = none := by
  rw [Option.eq_none_iff_forall_ne_some]
  intro inner some
  have whole := numericInside?_eq_some_iff.mp some
  match tag, named with
  | [_], _ => cases whole
  | a :: b :: rest, named =>
    obtain ⟨-, behind⟩ := List.cons.inj whole
    obtain ⟨rfl, -⟩ := List.cons.inj behind
    exact not_mem_of_named named (by decide) (List.mem_cons_of_mem a List.mem_cons_self)

/-- The text in front of the first `=`, and what follows. -/
theorem read?_of_not_numeric (h : numericInside? cs = none) :
    read? engine (.ofList cs) =
      match cs.drop (cs.takeWhile (· ≠ '=')).length with
      | [] => none
      | _ :: value =>
        if isTagName (cs.takeWhile (· ≠ '=')) = true then
          readValue? engine (.ofList (cs.takeWhile (· ≠ '='))) value
        else none := by
  rw [read?, String.toList_ofList]
  generalize numericInside? cs = inside at h
  cases h
  rfl

theorem takeWhile_tagged (named : isTagName tag = true) (value : List Char) :
    (tag ++ '=' :: value).takeWhile (· ≠ '=') = tag := by
  refine Text.takeWhile_append_stop (fun c hc => ?_) (by rintro c ⟨⟩; rfl)
  rw [decide_eq_true_iff]
  rintro rfl
  exact not_mem_of_named named (by decide) hc

theorem read?_tagged (named : isTagName tag = true) (value : List Char) :
    read? engine (.ofList (tag ++ '=' :: value)) = readValue? engine (.ofList tag) value := by
  rw [read?_of_not_numeric (numericInside?_tagged named), takeWhile_tagged named, List.drop_left]
  simp only [named, if_true]

theorem exists_tagged {q : Query} (outside : numericInside? cs = none)
    (h : read? engine (.ofList cs) = some q) : ∃ tag value, isTagName tag = true ∧
      cs = tag ++ '=' :: value ∧ readValue? engine (.ofList tag) value = some q := by
  have parts : cs.takeWhile (· ≠ '=') ++ cs.dropWhile (· ≠ '=') = cs :=
    List.takeWhile_append_dropWhile
  have behind := congrArg (List.drop (cs.takeWhile (· ≠ '=')).length) parts
  rw [List.drop_left] at behind
  have head := List.head?_dropWhile_not (· ≠ '=') cs
  rw [read?_of_not_numeric outside, ← behind] at h
  generalize cs.dropWhile (· ≠ '=') = rest at parts head h
  cases rest with
  | nil => cases h
  | cons c value =>
    have first : c = '=' := by simpa using head
    subst first
    simp only at h
    split at h
    next named => exact ⟨_, value, named, parts.symm, h⟩
    · cases h

theorem read?_chars {w : Writing} {q : Query} (h : w.Means engine q) :
    read? engine (.ofList w.chars) = some q := by
  cases h with
  | @tagged tag operand q named means =>
    rw [Writing.chars, read?_tagged named]
    exact readValue?_chars means
  | @numeric test value reads =>
    have inside : numericInside? (Writing.numeric test).chars = some test.chars :=
      numericInside?_eq_some_iff.mpr rfl
    rw [read?, String.toList_ofList, inside]
    exact Test.readNumeric?_chars reads

theorem exists_writing {q : Query} (h : read? engine (.ofList cs) = some q) :
    ∃ w : Writing, w.chars = cs ∧ w.Means engine q := by
  cases inside : numericInside? cs with
  | some inner =>
    rw [read?, String.toList_ofList, inside] at h
    obtain ⟨test, x, rfl, reads, rfl⟩ := Test.exists_test h
    exact ⟨.numeric test, (numericInside?_eq_some_iff.mp inside).symm, .numeric reads⟩
  | none =>
    obtain ⟨tag, value, named, rfl, read⟩ := exists_tagged inside h
    obtain ⟨operand, rfl, means⟩ := exists_operand read
    exact ⟨.tagged tag operand, rfl, .tagged named means⟩

/-- A text was written in one way. -/
theorem writing_inj {w w' : Writing} {q q' : Query} (h : w.Means engine q) (h' : w'.Means engine q')
    (same : w.chars = w'.chars) : w = w' := by
  have apart {tag : List Char} {operand : Operand} {test : Test} (named : isTagName tag = true) :
      (Writing.tagged tag operand).chars ≠ (Writing.numeric test).chars := by
    intro same
    have inside := numericInside?_eq_some_iff.mpr same
    rw [Writing.chars, numericInside?_tagged named] at inside
    cases inside
  cases h with
  | @tagged tag operand q named means =>
    cases h' with
    | @tagged tag' operand' q' named' means' =>
      have front := congrArg (List.takeWhile (· ≠ '=')) same
      simp only [Writing.chars, takeWhile_tagged named, takeWhile_tagged named'] at front
      subst front
      obtain ⟨-, behind⟩ := List.cons.inj (List.append_cancel_left same)
      rw [operand_inj means means' behind]
    | numeric reads' => exact absurd same (apart named)
  | @numeric test x reads =>
    cases h' with
    | tagged named' means' => exact absurd same.symm (apart named')
    | @numeric test' x' reads' =>
      have inner := List.append_cancel_right (List.cons.inj (List.cons.inj same).2).2
      rw [Test.test_inj reads reads' inner]

theorem Operand.Means.tag_eq {name : String} {operand : Operand} {q : Query}
    (h : operand.Means engine name q) : q.tag = name := by
  cases h <;> rfl

theorem Writing.Means.named {w : Writing} {q : Query} (h : w.Means engine q) :
    isTagName q.tag.toList = true := by
  cases h with
  | tagged named means =>
    rw [means.tag_eq, String.toList_ofList]
    exact named
  | numeric reads =>
    rw [tag, String.toList_ofList]
    exact reads.named

/-- A query is read back from each way to write it, and from nothing else. The text tells in which
way it was written. -/
theorem read?_writing (engine : RegexEngine) :
    (∀ (w : Writing) (q : Query), w.Means engine q → read? engine (.ofList w.chars) = some q) ∧
      ∀ (text : String) (q : Query), read? engine text = some q →
        isTagName q.tag.toList = true ∧
          ∃! w : Writing, w.chars = text.toList ∧ w.Means engine q := by
  refine ⟨fun w q => read?_chars, fun text q h => ?_⟩
  rw [← String.ofList_toList (s := text)] at h
  obtain ⟨w, whole, means⟩ := exists_writing h
  refine ⟨means.named, w, ⟨whole, means⟩, ?_⟩
  rintro w' ⟨whole', means'⟩
  exact writing_inj means' means (whole'.trans whole.symm)

/-- A quoted value with quotes, an equals sign and a line break in it, a regex, a bare value that
starts with a quote, and a test with blanks. -/
theorem read?_writing_quotes :
    let quoted := Writing.tagged "title".toList (.enclosed '"' "a=\"b\"\n".toList)
    let regex := Writing.tagged "album".toList (.enclosed '/' "^way".toList)
    let found := (Regex.engine "^way").get (by decide +kernel)
    let bare := Writing.tagged "artist".toList (.bare "\"Foo".toList)
    let test : Test := ⟨[' '], "~#rating".toList, ['\t'], .lessEqual, [' '], "5e-1".toList, ['\n']⟩
    let half := (Number.readFloat? "5e-1").get (by decide +kernel)
    quoted.Means Regex.engine (.equals "title" "a=\"b\"\n") ∧
      read? Regex.engine "title=\"a=\"b\"\n\"" = some (.equals "title" "a=\"b\"\n") ∧
      regex.Means Regex.engine (.matches "album" "^way" found) ∧
      read? Regex.engine "album=/^way/" = some (.matches "album" "^way" found) ∧
      (found "Way" = true ∧ found "The Best Way" = false) ∧
      bare.Means Regex.engine (.contains "artist" "\"foo") ∧
      read? Regex.engine "artist=\"Foo" = some (.contains "artist" "\"foo") ∧
      (Writing.numeric test).Means Regex.engine (.numeric "~#rating" .lessEqual half) ∧
      read? Regex.engine "#( ~#rating\t<= 5e-1\n)" = some (.numeric "~#rating" .lessEqual half) ∧
      isTagName "album".toList = true ∧
      ∃! w : Writing, w.chars = "album=/^way/".toList ∧
        w.Means Regex.engine (.matches "album" "^way" found) := by
  intro quoted regex found bare test half
  have equals : quoted.Means Regex.engine (.equals "title" "a=\"b\"\n") :=
    .tagged (by decide) (.equals (.inl rfl))
  have pattern : regex.Means Regex.engine (.matches "album" "^way" found) :=
    .tagged (by decide) (.pattern (Option.some_get _).symm)
  have contains : bare.Means Regex.engine (.contains "artist" "\"foo") :=
    .tagged (by decide) (.contains (by decide) (by decide))
  have numeric : (Writing.numeric test).Means Regex.engine (.numeric "~#rating" .lessEqual half) :=
    .numeric ⟨List.all_eq_true.mp rfl, List.all_eq_true.mp rfl, List.all_eq_true.mp rfl,
      List.all_eq_true.mp rfl, by decide, (Option.some_get _).symm⟩
  obtain ⟨reads, once⟩ := read?_writing Regex.engine
  have read := reads _ _ pattern
  obtain ⟨named, unique⟩ := once _ _ read
  exact ⟨equals, reads _ _ equals, pattern, read, ⟨by decide +kernel, by decide +kernel⟩, contains,
    reads _ _ contains, numeric, reads _ _ numeric, named, unique⟩

end Query

end SongPattern

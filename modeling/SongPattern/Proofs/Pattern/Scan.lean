import SongPattern.Proofs.Pattern.Lexeme

namespace SongPattern.Pattern

theorem map_eq_ok {ε α β : Type} {f : α → β} {e : Except ε α} {b : β} (h : e.map f = .ok b) :
    ∃ a, e = .ok a ∧ f a = b := by
  cases e with
  | error e => cases h
  | ok a => exact ⟨a, rfl, Except.ok.inj h⟩

/-- The text that is meant by a written one: a special character loses the backslash in front of
it, and any other escape stays as it is. -/
def unescapeChars : List Char → List Char
  | '\\' :: c :: cs =>
    if c ∈ ['\\', '<', '>', '|'] then c :: unescapeChars cs else '\\' :: c :: unescapeChars cs
  | c :: cs => c :: unescapeChars cs
  | [] => []

/-- Whether there is a bracket or a bar that no backslash escapes. -/
def hasOperator : List Char → Bool
  | '\\' :: _ :: cs => hasOperator cs
  | c :: cs => decide (c ∈ ['<', '>', '|']) || hasOperator cs
  | [] => false

/-- What is scanned in one go: a character that is no backslash, or a backslash and what it
escapes. -/
inductive Chunk : List Char → Prop where
  | plain {c : Char} : c ≠ '\\' → Chunk [c]
  | pair {c : Char} : c ≠ '\n' → Chunk ['\\', c]

variable {position : Nat} {kind : TokenKind} {c : Char} {chunk rest cs : List Char}
  {ts : List Token} {l : Lexeme}

theorem unescapeChars_plain (h : c ≠ '\\') (cs : List Char) :
    unescapeChars (c :: cs) = c :: unescapeChars cs := by
  rw [unescapeChars]
  exact fun _ _ slash => absurd slash h

theorem unescapeChars_pair (c : Char) (cs : List Char) :
    unescapeChars ('\\' :: c :: cs) = resolve c ++ unescapeChars cs := by
  have special : c ∈ ['\\', '<', '>', '|'] ↔ isSpecial c = true := by simp [isSpecial, or_assoc]
  simp only [unescapeChars, resolve, special]
  split <;> rfl

theorem hasOperator_plain (h : c ≠ '\\') (cs : List Char) :
    hasOperator (c :: cs) = (decide (c ∈ ['<', '>', '|']) || hasOperator cs) := by
  rw [hasOperator]
  exact fun _ _ slash => absurd slash h

theorem Chunk.unescapeChars_append (h : Chunk chunk) (cs : List Char) :
    unescapeChars (chunk ++ cs) = unescapeChars chunk ++ unescapeChars cs := by
  cases h with
  | plain hc => simp [unescapeChars_plain hc, unescapeChars]
  | pair => simp [unescapeChars_pair, unescapeChars]

theorem Chunk.hasOperator_append (h : Chunk chunk) (cs : List Char) :
    hasOperator (chunk ++ cs) = (hasOperator chunk || hasOperator cs) := by
  cases h with
  | plain hc => simp [hasOperator_plain hc, hasOperator]
  | pair => simp [hasOperator]

theorem Chunk.unescapeChars_ne_nil (h : Chunk chunk) : unescapeChars chunk ≠ [] := by
  cases h with
  | plain hc => simp [unescapeChars_plain hc]
  | pair =>
    rw [unescapeChars_pair, resolve]
    split <;> simp

theorem escapeChars_append (cs ds : List Char) :
    escapeChars (cs ++ ds) = escapeChars cs ++ escapeChars ds := by
  induction cs with
  | nil => rfl
  | cons c cs ih =>
    rw [List.cons_append, escapeChars, escapeChars, ih]
    split <;> rfl

/-- A character is written as one chunk, which means the character. -/
theorem chunk_escaped (c : Char) : Chunk (escapeChars [c]) ∧ hasOperator (escapeChars [c]) = false ∧
    unescapeChars (escapeChars [c]) = [c] := by
  rw [escapeChars, escapeChars]
  by_cases special : isSpecial c = true
  · have line : c ≠ '\n' := by
      rintro rfl
      exact absurd special (by decide)
    rw [if_pos special, unescapeChars_pair, resolve, if_pos special]
    exact ⟨.pair line, rfl, rfl⟩
  · rw [if_neg special]
    simp only [isSpecial, Bool.or_eq_true, decide_eq_true_eq, not_or] at special
    obtain ⟨⟨⟨slash, left⟩, right⟩, bar⟩ := special
    refine ⟨.plain slash, ?_, unescapeChars_plain slash []⟩
    rw [hasOperator_plain slash]
    simp [hasOperator, left, right, bar]

theorem prepend_prepend (position next : Nat) (text more : List Char) (ts : List Token) :
    prepend position text (prepend next more ts) = prepend position (text ++ more) ts := by
  cases ts with
  | nil => rw [prepend, prepend, prepend, if_pos rfl, String.ofList_append]
  | cons t ts =>
    rw [prepend, prepend]
    split
    · rw [prepend, if_pos rfl, String.ofList_append, String.append_assoc]
    · rw [prepend, if_pos rfl, String.ofList_append]

theorem prepend_of_head (position : Nat) (cs : List Char) (h : ∀ t ∈ ts.head?, t.kind ≠ .text) :
    prepend position cs ts = ⟨.text, .ofList cs, position⟩ :: ts := by
  cases ts with
  | nil => rfl
  | cons t ts => rw [prepend, if_neg (h t rfl)]

theorem prepend_head (position : Nat) (cs : List Char) (ts : List Token) :
    ∀ t ∈ (prepend position cs ts).head?, t.kind = .text := by
  intro t ht
  cases ts with
  | nil =>
    cases ht
    rfl
  | cons u us =>
    rw [prepend] at ht
    split at ht <;>
    · cases ht
      rfl

theorem utf8Len_pair (position : Nat) (c : Char) :
    position + String.utf8Len ['\\', c] = position + 1 + c.utf8Size := by
  have slash : Char.utf8Size '\\' = 1 := rfl
  simp only [String.utf8Len_cons, String.utf8Len_nil, slash]
  omega

theorem scan_chunk (h : Chunk chunk) (bare : hasOperator chunk = false) (position : Nat)
    (rest : List Char) :
    scan position (chunk ++ rest) =
      (scan (position + String.utf8Len chunk) rest).map
        (prepend position (unescapeChars chunk)) := by
  cases h with
  | @plain c hc =>
    have size : position + String.utf8Len [c] = position + c.utf8Size := by simp
    have other : c ≠ '<' ∧ c ≠ '>' ∧ c ≠ '|' := by
      rw [hasOperator_plain hc] at bare
      simpa [hasOperator] using bare
    rw [size, unescapeChars_plain hc, unescapeChars, List.singleton_append, scan]
    all_goals grind
  | pair line =>
    rw [utf8Len_pair, unescapeChars_pair, unescapeChars, List.append_nil, List.cons_append,
      List.cons_append, List.nil_append, scan, if_neg line]

theorem scan_operator (formed : l.Formed) (operator : l.1 ≠ .text) (free : Free l.1 rest)
    (position : Nat) :
    scan position (l.written ++ rest) =
      (scan (position + String.utf8Len l.written) rest).map (⟨l.1, l.2, position⟩ :: ·) := by
  obtain ⟨kind, s⟩ := l
  cases kind with
  | text => exact absurd rfl operator
  | bar =>
    cases formed
    rw [Lexeme.written, List.singleton_append, scan]
    · rfl
    · intro cs hc
      rw [hc] at free
      exact free rfl
  | finish => exact formed.elim
  | _ =>
    cases formed
    rfl

/-- A backslash that has nothing to escape. -/
theorem scan_stray (back : List Char) (behind : ∀ c ∈ back.head?, c = '\n') (position : Nat) :
    scan position ('\\' :: back) = .error (.leftover position) := by
  cases back with
  | nil => rfl
  | cons c back => rw [behind c rfl, scan, if_pos rfl]

/-- A source is taken apart as it is scanned: operators and chunks of text, up to its end or to a
backslash that has nothing to escape. -/
@[elab_as_elim]
theorem source_induction {motive : List Char → Prop} (nil : motive [])
    (operator : ∀ (l : Lexeme) (rest : List Char), l.Formed → l.1 ≠ .text → Free l.1 rest →
      motive rest → motive (l.written ++ rest))
    (chunk : ∀ chunk rest : List Char, Chunk chunk → hasOperator chunk = false →
      motive rest → motive (chunk ++ rest))
    (stray : ∀ back : List Char, (∀ c ∈ back.head?, c = '\n') → motive ('\\' :: back))
    (source : List Char) : motive source := by
  have anywhere (position : Nat) : motive source := by
    fun_induction scan position source with
    | case1 => exact nil
    | case2 _ cs ih => exact operator (.opening, "<") cs rfl nofun trivial ih
    | case3 _ cs ih => exact operator (.closing, ">") cs rfl nofun trivial ih
    | case4 _ cs ih => exact operator (.doubleBar, "||") cs rfl nofun trivial ih
    | case5 _ cs single ih =>
      have free : cs.head? ≠ some '|' := by
        intro double
        obtain ⟨rest, hc⟩ := List.head?_eq_some_iff.mp double
        exact single rest hc
      exact operator (.bar, "|") cs rfl nofun free ih
    | case6 _ cs => exact stray ('\n' :: cs) (by simp)
    | case7 _ c cs line ih => exact chunk ['\\', c] cs (.pair line) rfl ih
    | case8 => exact stray [] nofun
    | case9 _ c cs left right _ bar escapes ends ih =>
      have solid : c ≠ '\\' := by
        rintro rfl
        cases cs with
        | nil => exact ends rfl rfl
        | cons d cs => exact escapes d cs rfl rfl
      refine chunk [c] cs (.plain solid) ?_ ih
      rw [hasOperator_plain solid]
      simpa [hasOperator] using ⟨left, right, bar⟩
  exact anywhere 0

/-- What stands free of a token is read apart from it. -/
theorem apart_of_scan (free : Free kind cs) (h : scan position cs = .ok ts) :
    ∀ t ∈ ts.head?, Apart kind t.kind := by
  induction cs using source_induction with
  | nil =>
    cases h
    rintro t ⟨⟩
    cases kind <;> trivial
  | operator l rest formed operator behind =>
    rw [scan_operator formed operator behind] at h
    obtain ⟨us, _, rfl⟩ := map_eq_ok h
    rintro t ⟨⟩
    obtain ⟨next, s⟩ := l
    cases kind with
    | text => exact apart_text operator
    | bar =>
      cases next with
      | bar => exact free rfl
      | doubleBar => exact free rfl
      | _ => trivial
    | _ => trivial
  | chunk chunk rest piece bare =>
    rw [scan_chunk piece bare] at h
    obtain ⟨us, _, rfl⟩ := map_eq_ok h
    intro t ht
    rw [prepend_head _ _ _ t ht]
    cases kind with
    | text =>
      -- a text can only be free of an operator, and a chunk starts with none
      cases piece with
      | @plain c hc =>
        rw [hasOperator_plain hc] at bare
        have other : c ≠ '<' ∧ c ≠ '>' ∧ c ≠ '|' := by simpa [hasOperator] using bare
        have some := free c rfl
        simp [other] at some
      | pair =>
        have some := free _ rfl
        simp at some
    | _ => trivial
  | stray back behind =>
    rw [scan_stray back behind] at h
    cases h

theorem scan_escaped (c : Char) (position : Nat) (rest : List Char) :
    scan position (escapeChars [c] ++ rest) =
      (scan (position + String.utf8Len (escapeChars [c])) rest).map (prepend position [c]) := by
  obtain ⟨piece, bare, meant⟩ := chunk_escaped c
  rw [scan_chunk piece bare, meant]

theorem scan_text (position : Nat) (cs rest : List Char) (h : cs ≠ []) :
    scan position (escapeChars cs ++ rest) =
      (scan (position + String.utf8Len (escapeChars cs)) rest).map (prepend position cs) := by
  induction cs generalizing position with
  | nil => exact absurd rfl h
  | cons c cs ih =>
    have parts : escapeChars (c :: cs) = escapeChars [c] ++ escapeChars cs :=
      escapeChars_append [c] cs
    rw [parts, List.append_assoc, scan_escaped c position (escapeChars cs ++ rest)]
    by_cases hn : cs = []
    · rw [hn]
      simp [escapeChars]
    · rw [ih _ hn, String.utf8Len_append, ← Nat.add_assoc]
      cases scan (position + String.utf8Len (escapeChars [c]) + String.utf8Len (escapeChars cs))
          rest with
      | error e => rfl
      | ok ts => exact congrArg Except.ok (prepend_prepend position _ [c] cs ts)

/-- A token is read from how it is written, whatever comes behind it. -/
theorem scan_written (formed : l.Formed) (free : Free l.1 rest) (position : Nat) :
    scan position (l.written ++ rest) =
      (scan (position + String.utf8Len l.written) rest).map (⟨l.1, l.2, position⟩ :: ·) := by
  by_cases text : l.1 = .text
  · obtain ⟨kind, s⟩ := l
    cases text
    have full : s.toList ≠ [] := mt String.toList_eq_nil_iff.mp formed
    rw [Lexeme.written, scan_text position s.toList rest full]
    cases h : scan (position + String.utf8Len (escapeChars s.toList)) rest with
    | error e => rfl
    | ok ts =>
      have others : ∀ t ∈ ts.head?, t.kind ≠ .text := by
        intro t ht text
        have apart := apart_of_scan free h t ht
        rw [text] at apart
        exact apart
      have alone := prepend_of_head position s.toList others
      rw [String.ofList_toList] at alone
      exact congrArg Except.ok alone
  · exact scan_operator formed text free position

/-- Tokens are read from how they are written, whatever comes behind them. -/
theorem scan_append {ls : List Lexeme} (h : Spaced ls) {rest : List Char}
    (free : ∀ l ∈ ls.getLast?, Free l.1 rest) (position : Nat) :
    ∃ ts, ts.map Token.lexeme = ls ∧ scan position (writeLexemes ls ++ rest) =
      (scan (position + String.utf8Len (writeLexemes ls)) rest).map (ts ++ ·) := by
  induction ls generalizing position with
  | nil =>
    refine ⟨[], rfl, ?_⟩
    change scan position rest = (scan position rest).map ([] ++ ·)
    cases scan position rest <;> rfl
  | cons l ls ih =>
    obtain ⟨formed, apart, spaced⟩ := h
    have here : Free l.1 (writeLexemes ls ++ rest) := by
      cases ls with
      | nil => exact free l rfl
      | cons next ls =>
        rw [writeLexemes_cons, List.append_assoc]
        exact free_written spaced.1 (apart next rfl) _
    have last : ∀ l ∈ ls.getLast?, Free l.1 rest := by
      cases ls with
      | nil => exact nofun
      | cons next ls => exact free
    obtain ⟨ts, hts, scanned⟩ := ih spaced last (position + String.utf8Len l.written)
    refine ⟨⟨l.1, l.2, position⟩ :: ts, congrArg (l :: ·) hts, ?_⟩
    rw [writeLexemes_cons, List.append_assoc, scan_written formed here, scanned,
      String.utf8Len_append, Nat.add_assoc]
    cases scan (position + (String.utf8Len l.written + String.utf8Len (writeLexemes ls))) rest <;>
      rfl

theorem scan_writeLexemes {ls : List Lexeme} (h : Spaced ls) (position : Nat) :
    ∃ ts, scan position (writeLexemes ls) = .ok ts ∧ Finished ls ts := by
  obtain ⟨ts, hts, scanned⟩ := scan_append h (fun l _ => free_nil l.1) position
  rw [List.append_nil] at scanned
  refine ⟨_, scanned, ?_⟩
  rw [Finished, List.map_append, hts]
  rfl

theorem Finished.cons {ls : List Lexeme} (t : Token) (hf : Finished ls ts) :
    Finished (t.lexeme :: ls) (t :: ts) := congrArg (t.lexeme :: ·) hf

theorem Finished.apart {ls : List Lexeme} (hf : Finished ls ts)
    (h : ∀ t ∈ ts.head?, Apart kind t.kind) : ∀ next ∈ ls.head?, Apart kind next.1 := by
  intro next hn
  obtain ⟨more, rfl⟩ := List.head?_eq_some_iff.mp hn
  cases ts with
  | nil => cases hf
  | cons t us =>
    rw [← (List.cons.inj hf).1]
    exact h t rfl

/-- Text in front takes a text that comes next along. -/
theorem Finished.prepend {ls : List Lexeme} (hf : Finished ls ts) (h : Spaced ls)
    (position : Nat) (hc : cs ≠ []) :
    ∃ more, Spaced more ∧ Finished more (prepend position cs ts) := by
  have formed : String.ofList cs ≠ "" := mt String.ofList_eq_empty_iff.mp hc
  by_cases joins : ∃ t us, ts = t :: us ∧ t.kind = .text
  · obtain ⟨t, us, rfl, ht⟩ := joins
    cases ls with
    | nil =>
      have he := congrArg Prod.fst (List.cons.inj hf).1
      rw [Token.lexeme, ht] at he
      cases he
    | cons l ls =>
      obtain ⟨rfl, rest⟩ := List.cons.inj hf
      obtain ⟨_, apart, spaced⟩ := h
      refine ⟨(.text, .ofList cs ++ t.text) :: ls, ⟨?_, ?_, spaced⟩, ?_⟩
      · exact fun he => formed (String.append_eq_empty_iff.mp he).1
      · rw [Token.lexeme, ht] at apart
        exact apart
      · rw [Pattern.prepend, if_pos ht]
        exact Finished.cons _ rest
  · have alone : ∀ t ∈ ts.head?, t.kind ≠ .text := by
      intro t ht hk
      obtain ⟨us, rfl⟩ := List.head?_eq_some_iff.mp ht
      exact joins ⟨t, us, rfl, hk⟩
    have apart := hf.apart fun t ht => apart_text (alone t ht)
    refine ⟨(.text, .ofList cs) :: ls, ⟨formed, apart, h⟩, ?_⟩
    rw [prepend_of_head position cs alone]
    exact Finished.cons _ hf

theorem spaced_of_scan (h : scan position cs = .ok ts) : ∃ ls, Spaced ls ∧ Finished ls ts := by
  induction cs using source_induction generalizing position ts with
  | nil =>
    cases h
    exact ⟨[], trivial, rfl⟩
  | operator l rest formed operator free ih =>
    rw [scan_operator formed operator free] at h
    obtain ⟨us, hus, rfl⟩ := map_eq_ok h
    obtain ⟨ls, spaced, hf⟩ := ih hus
    exact ⟨l :: ls, ⟨formed, hf.apart (apart_of_scan free hus), spaced⟩,
      hf.cons ⟨l.1, l.2, position⟩⟩
  | chunk chunk rest piece bare ih =>
    rw [scan_chunk piece bare] at h
    obtain ⟨us, hus, rfl⟩ := map_eq_ok h
    obtain ⟨ls, spaced, hf⟩ := ih hus
    exact hf.prepend spaced position piece.unescapeChars_ne_nil
  | stray back behind =>
    rw [scan_stray back behind] at h
    cases h

end SongPattern.Pattern

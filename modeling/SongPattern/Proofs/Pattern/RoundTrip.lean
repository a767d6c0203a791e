import SongPattern.Proofs.Pattern.Reader

namespace SongPattern.Pattern

theorem spaced_suffix {ts us : List Token} (hs : us <:+ ts) (h : Spaced (ts.map Token.lexeme)) :
    Spaced (us.map Token.lexeme) := by
  induction ts with
  | nil => rwa [List.suffix_nil.mp hs]
  | cons t ts ih =>
    rcases List.suffix_cons_iff.mp hs with rfl | hs
    · exact h
    · exact ih hs h.2.2

def Heads (kinds : TokenKind → Prop) (ts : List Token) : Prop := ∀ t ∈ ts.head?, kinds t.kind

def StartsWith (kind : TokenKind) (ts : List Token) : Prop := ∃ t us, ts = t :: us ∧ t.kind = kind

/-- The nodes that are read off tokens, and what is left. Where there are none, either nothing was
read or a tag was dropped with all up to a closing. -/
structure NodesRead (levels : Nat) (ts : List Token) (nodes : List Node) (rest : List Token) :
    Prop where
  shaped : Shaped nodes
  depth : depthOf nodes ≤ levels
  suffix : rest <:+ ts
  stops : Heads (fun kind => kind ≠ .text ∧ kind ≠ .opening) rest
  text : startsWithText nodes = true → StartsWith .text ts
  empty : nodes = [] → rest = ts ∨ Heads (· = .closing) rest

/-- The tag that is read off tokens, and what is left. No text comes behind a tag that was
dropped. -/
structure TagRead (levels : Nat) (ts : List Token) (tag : Option Node) (rest : List Token) :
    Prop where
  shaped : ∀ node ∈ tag, node.Shaped ∧ node.depth ≤ levels + 1 ∧ node.isText = false
  suffix : rest <:+ ts
  dropped : tag = none → Heads (fun kind => kind = .opening ∨ kind = .closing) rest

structure ElseRead (levels : Nat) (ts : List Token) (no : Option (List Node))
    (rest : List Token) : Prop where
  shaped : ∀ nodes ∈ no, Shaped nodes ∧ depthOf nodes ≤ levels ∧ StartsWith .bar ts
  suffix : rest <:+ ts

structure AlternativesRead (levels : Nat) (ts : List Token) (more : List (List Node))
    (rest : List Token) : Prop where
  shaped : ShapedEach more
  depth : depthOfEach more ≤ levels
  suffix : rest <:+ ts
  some : StartsWith .doubleBar ts → more ≠ []

section Read

variable {n levels : Nat} {name : String} {first : Option (List Node)} {t : Token}
  {ts us rest : List Token}

theorem Heads.nil {kinds : TokenKind → Prop} : Heads kinds [] := fun t h =>
  absurd h (Option.not_mem_none t)

theorem Heads.cons {kinds : TokenKind → Prop} (h : kinds t.kind) : Heads kinds (t :: ts) := by
  rintro u ⟨⟩
  exact h

theorem Heads.of_cons {kinds : TokenKind → Prop} (h : Heads kinds (t :: ts)) : kinds t.kind :=
  h t rfl

theorem NodesRead.none (stops : Heads (fun kind => kind ≠ .text ∧ kind ≠ .opening) ts) :
    NodesRead levels ts [] ts :=
  ⟨trivial, Nat.zero_le _, List.suffix_refl _, stops, fun h => absurd h Bool.false_ne_true,
    fun _ => .inl rfl⟩

theorem TagRead.none (suffix : rest <:+ ts)
    (dropped : Heads (fun kind => kind = .opening ∨ kind = .closing) rest) :
    TagRead levels ts none rest :=
  ⟨fun node h => absurd h (Option.not_mem_none node), suffix, fun _ => dropped⟩

theorem TagRead.mono {tag : Option Node} (h : TagRead levels us tag rest) (hs : us <:+ ts) :
    TagRead levels ts tag rest :=
  ⟨h.shaped, h.suffix.trans hs, h.dropped⟩

theorem ElseRead.none : ElseRead levels ts none ts :=
  ⟨fun nodes h => absurd h (Option.not_mem_none nodes), List.suffix_refl _⟩

/-- Fewer than `n` tokens are read well. -/
def ReadBelow (n : Nat) : Prop :=
  ∀ levels ts, ts.length < n → Spaced (ts.map Token.lexeme) →
    NodesRead levels ts (readNodes levels ts).value (readNodes levels ts).rest

theorem closeTag_read {node : Node} (hn : node.Shaped ∧ node.depth ≤ levels + 1 ∧
    node.isText = false) :
    TagRead levels ts (closeTag node ts).value (closeTag node ts).rest := by
  cases ts with
  | nil => exact .none (List.suffix_refl _) .nil
  | cons t ts =>
    by_cases h : t.kind = .closing
    · rw [(closeTag_closing node h).1, (closeTag_closing node h).2]
      refine ⟨?_, List.suffix_cons t ts, fun h => absurd h (Option.some_ne_none _)⟩
      rintro node ⟨⟩
      exact hn
    · rw [(closeTag_other node h).1, (closeTag_other node h).2]
      exact .none (skipTo_suffix _ _) fun u hu => .inl (skipTo_head _ _ u hu)

theorem readElse_read (levels : Nat) (ih : ReadBelow n) (hl : ts.length ≤ n)
    (spaced : Spaced (ts.map Token.lexeme)) :
    ElseRead levels ts (readElse levels ts).value (readElse levels ts).rest := by
  cases ts with
  | nil =>
    rw [readElse_nil.1, readElse_nil.2]
    exact .none
  | cons t ts =>
    by_cases h : t.kind = .bar
    · have no := ih levels ts hl spaced.2.2
      have gives := readElse_bar h (readNodes levels ts).gives
      rw [gives.1, gives.2]
      refine ⟨?_, no.suffix.trans (List.suffix_cons t ts)⟩
      rintro nodes ⟨⟩
      exact ⟨no.shaped, no.depth, t, ts, rfl, h⟩
    · rw [(readElse_other h).1, (readElse_other h).2]
      exact .none

theorem readAlternatives_read (levels : Nat) (ih : ReadBelow n) (hl : ts.length ≤ n)
    (spaced : Spaced (ts.map Token.lexeme)) :
    AlternativesRead levels ts (readAlternatives levels ts).value
      (readAlternatives levels ts).rest := by
  induction hk : ts.length using Nat.strongRecOn generalizing ts with
  | ind k ihk =>
    cases ts with
    | nil =>
      rw [readAlternatives_nil.1, readAlternatives_nil.2]
      refine ⟨trivial, Nat.zero_le _, List.suffix_refl _, ?_⟩
      rintro ⟨t, us, h, _⟩
      cases h
    | cons t ts =>
      by_cases h : t.kind = .doubleBar
      · have next := ih levels ts hl spaced.2.2
        have shorter := next.suffix.length_le
        rw [List.length_cons] at hl hk
        have others := ihk _ (by omega) (by omega) (spaced_suffix next.suffix spaced.2.2) rfl
        have gives := readAlternatives_doubleBar h (readNodes levels ts).gives
          (readAlternatives levels (readNodes levels ts).rest).gives
        rw [gives.1, gives.2]
        exact ⟨⟨next.shaped, others.shaped⟩, Nat.max_le.mpr ⟨next.depth, others.depth⟩,
          (others.suffix.trans next.suffix).trans (List.suffix_cons t ts),
          fun _ => List.cons_ne_nil _ _⟩
      · rw [(readAlternatives_other h).1, (readAlternatives_other h).2]
        refine ⟨trivial, Nat.zero_le _, List.suffix_refl _, ?_⟩
        rintro ⟨u, us, ⟨⟩, hd⟩
        exact absurd hd h

/-- An empty branch is not followed by another one: two bars would be one token. -/
theorem full_of_else {nodes : List Node} (hb : t.kind = .bar)
    (spaced : Spaced ((t :: ts).map Token.lexeme)) (yes : NodesRead levels ts nodes rest)
    (bar : StartsWith .bar rest) : nodes ≠ [] := by
  intro he
  obtain ⟨u, us, rfl, hu⟩ := bar
  rcases yes.empty he with rfl | closing
  · have apart := spaced.2.1 u.lexeme rfl
    rw [Token.lexeme, Token.lexeme, hb, hu] at apart
    exact apart
  · have first := closing.of_cons
    rw [hu] at first
    cases first

theorem readBody_read (ih : ReadBelow n) (hl : ts.length ≤ n)
    (spaced : Spaced (ts.map Token.lexeme)) (hname : IsName name)
    (hfirst : ∀ nodes ∈ first, Shaped nodes ∧ depthOf nodes ≤ levels ∧
      (StartsWith .doubleBar ts → startsWithTag nodes = true)) :
    TagRead levels ts (readBody levels name first ts).value
      (readBody levels name first ts).rest := by
  cases ts with
  | nil =>
    rw [readBody_nil.1, readBody_nil.2]
    exact .none (List.suffix_refl _) .nil
  | cons t ts =>
    by_cases hb : t.kind = .bar
    · have yes := ih levels ts hl spaced.2.2
      have hmid := yes.suffix.length_le
      have no := readElse_read levels ih
        (Nat.le_trans hmid (Nat.le_of_lt hl)) (spaced_suffix yes.suffix spaced.2.2)
      have gives : (readBody levels name first (t :: ts)).Gives _ _ := readBody_bar hb
        (readNodes levels ts).gives (readElse levels (readNodes levels ts).rest).gives
        (Reading.gives _)
      rw [gives.1, gives.2]
      refine (closeTag_read ?_).mono
        ((no.suffix.trans yes.suffix).trans (List.suffix_cons t ts))
      cases hno : (readElse levels (readNodes levels ts).rest).value with
      | none => exact ⟨⟨hname, yes.shaped⟩, Nat.succ_le_succ yes.depth, rfl⟩
      | some nodes =>
        obtain ⟨shaped, depth, bar⟩ := no.shaped nodes hno
        exact ⟨⟨hname, full_of_else hb spaced yes bar, yes.shaped, shaped⟩,
          Nat.succ_le_succ (Nat.max_le.mpr ⟨yes.depth, depth⟩), rfl⟩
    · by_cases hd : t.kind = .doubleBar ∧ first ≠ none
      · obtain ⟨hd, hf⟩ := hd
        obtain ⟨nodes, rfl⟩ := Option.ne_none_iff_exists'.mp hf
        obtain ⟨shaped, depth, tagged⟩ := hfirst nodes rfl
        have starts : StartsWith .doubleBar (t :: ts) := ⟨t, ts, rfl, hd⟩
        have others := readAlternatives_read levels ih hl spaced
        have gives : (readBody levels name (some nodes) (t :: ts)).Gives _ _ :=
          readBody_doubleBar hd (readAlternatives levels (t :: ts)).gives (Reading.gives _)
        rw [gives.1, gives.2]
        refine (closeTag_read ?_).mono others.suffix
        have two := Nat.succ_le_succ (List.length_pos_iff.mpr (others.some starts))
        exact ⟨⟨two, tagged starts, shaped, others.shaped⟩,
          Nat.succ_le_succ (Nat.max_le.mpr ⟨depth, others.depth⟩), rfl⟩
      · have single (h : t.kind = .doubleBar) : first = none :=
          Classical.not_not.mp fun hf => hd ⟨h, hf⟩
        have gives : (readBody levels name first (t :: ts)).Gives _ _ :=
          readBody_other hb single (Reading.gives _)
        rw [gives.1, gives.2]
        exact closeTag_read ⟨hname, Nat.succ_le_succ (Nat.zero_le _), rfl⟩

theorem text_ne_empty (h : t.lexeme.Formed) (hk : t.kind = .text ∨ t.kind = .opening) :
    t.text ≠ "" := by
  rw [Token.lexeme] at h
  rcases hk with hk | hk
  · rw [hk] at h
    exact h
  · rw [hk] at h
    have mark : t.text = "<" := h
    rw [mark]
    decide

/-- An opening is read as nodes that start with a tag, or as none with a closing behind it. -/
theorem tagged_of_opening {nodes : List Node} (ho : t.kind = .opening)
    (read : NodesRead levels (t :: ts) nodes rest) (starts : StartsWith .doubleBar rest) :
    startsWithTag nodes = true := by
  obtain ⟨u, us, rfl, hu⟩ := starts
  cases nodes with
  | nil =>
    rcases read.empty rfl with same | closing
    · cases same
      rw [ho] at hu
      cases hu
    · have first := closing.of_cons
      rw [hu] at first
      cases first
  | cons node nodes =>
    cases node with
    | text s =>
      obtain ⟨v, vs, ⟨⟩, hv⟩ := read.text rfl
      rw [ho] at hv
      cases hv
    | _ => rfl

theorem readTag_read (levels : Nat) (ih : ReadBelow n) (hl : ts.length < n)
    (spaced : Spaced (ts.map Token.lexeme)) :
    TagRead levels ts (readTag levels ts).value (readTag levels ts).rest := by
  cases ts with
  | nil =>
    rw [readTag_nil.1, readTag_nil.2]
    exact .none (List.suffix_refl _) .nil
  | cons t ts =>
    by_cases ht : t.kind = .text
    · have gives : (readTag levels (t :: ts)).Gives _ _ := readTag_text ht (Reading.gives _)
      rw [gives.1, gives.2]
      have named := isName_normalizeName (text_ne_empty spaced.1 (.inl ht))
      refine (readBody_read ih (Nat.le_of_lt (Nat.lt_of_succ_lt hl)) spaced.2.2 named ?_).mono
        (List.suffix_cons t ts)
      exact fun nodes h => absurd h (Option.not_mem_none nodes)
    · by_cases ho : t.kind = .opening
      · have nodes := ih levels (t :: ts) hl spaced
        have named := isName_normalizeName (text_ne_empty spaced.1 (.inr ho))
        have gives := readTag_opening ho (readNodes levels (t :: ts)).gives (Reading.gives _)
        rw [gives.1, gives.2]
        refine (readBody_read ih (Nat.le_of_lt (Nat.lt_of_le_of_lt nodes.suffix.length_le hl))
          (spaced_suffix nodes.suffix spaced) named ?_).mono nodes.suffix
        rintro _ ⟨⟩
        exact ⟨nodes.shaped, nodes.depth, tagged_of_opening ho nodes⟩
      · rw [(readTag_other ht ho).1, (readTag_other ht ho).2]
        exact .none (skipTo_suffix _ _) fun u hu => .inr (skipTo_head _ _ u hu)

theorem NodesRead.cons_text {nodes : List Node} (h : NodesRead levels ts nodes rest)
    (ht : t.kind = .text) (spaced : Spaced ((t :: ts).map Token.lexeme)) :
    NodesRead levels (t :: ts) (.text t.text :: nodes) rest := by
  have alone : startsWithText nodes = false := by
    refine Bool.eq_false_iff.mpr fun text => ?_
    obtain ⟨u, us, rfl, hu⟩ := h.text text
    have apart := spaced.2.1 u.lexeme rfl
    rw [Token.lexeme, Token.lexeme, ht, hu] at apart
    exact apart
  exact ⟨⟨text_ne_empty spaced.1 (.inl ht), fun _ => alone, h.shaped⟩,
    Nat.max_le.mpr ⟨Nat.zero_le _, h.depth⟩, h.suffix.trans (List.suffix_cons t ts), h.stops,
    fun _ => ⟨t, ts, rfl, ht⟩, fun h => absurd h (List.cons_ne_nil _ _)⟩

theorem NodesRead.cons_tag {node : Node} {nodes : List Node}
    (h : NodesRead (levels + 1) us nodes rest) (tag : TagRead levels ts (some node) us) :
    NodesRead (levels + 1) (t :: ts) (node :: nodes) rest := by
  obtain ⟨shaped, depth, isTag⟩ := tag.shaped node rfl
  have text : node.isText ≠ true := Bool.eq_false_iff.mp isTag
  exact ⟨⟨shaped, fun h => absurd h text, h.shaped⟩, Nat.max_le.mpr ⟨depth, h.depth⟩,
    (h.suffix.trans tag.suffix).trans (List.suffix_cons t ts), h.stops, fun h => absurd h text,
    fun h => absurd h (List.cons_ne_nil _ _)⟩

/-- Where an opening and what follows are dropped, the nodes go on with a tag or stop at a
closing. -/
theorem NodesRead.dropped {nodes : List Node} (h : NodesRead levels us nodes rest)
    (heads : Heads (fun kind => kind = .opening ∨ kind = .closing) us) (suffix : us <:+ ts) :
    NodesRead levels (t :: ts) nodes rest := by
  refine ⟨h.shaped, h.depth, (h.suffix.trans suffix).trans (List.suffix_cons t ts), h.stops, ?_,
    ?_⟩
  · intro text
    obtain ⟨u, vs, rfl, hu⟩ := h.text text
    have first := heads.of_cons
    rw [hu] at first
    rcases first with first | first <;> cases first
  · intro he
    rcases h.empty he with rfl | closing
    · exact .inr fun u hu => (heads u hu).resolve_left (h.stops u hu).2
    · exact .inr closing

theorem readBelow (n : Nat) : ReadBelow n := by
  induction n with
  | zero => exact fun _ _ h => absurd h (Nat.not_lt_zero _)
  | succ n ih =>
    intro levels ts hl spaced
    cases ts with
    | nil =>
      rw [readNodes_nil.1, readNodes_nil.2]
      exact .none .nil
    | cons t ts =>
      have shorter : ts.length < n := Nat.lt_of_succ_lt_succ hl
      by_cases ht : t.kind = .text
      · have more := ih levels ts shorter spaced.2.2
        have gives := readNodes_text ht (readNodes levels ts).gives
        rw [gives.1, gives.2]
        exact more.cons_text ht spaced
      · by_cases ho : t.kind = .opening
        · cases levels with
          | zero =>
            have suffix := skipTo_suffix .closing ts
            have more := ih 0 (skipTo .closing ts)
              (Nat.lt_of_le_of_lt (skipTo_le _ _) shorter) (spaced_suffix suffix spaced.2.2)
            have gives := readNodes_deep ho (readNodes 0 (skipTo .closing ts)).gives
            rw [gives.1, gives.2]
            exact more.dropped (fun u hu => .inr (skipTo_head _ _ u hu)) suffix
          | succ levels =>
            have tag := readTag_read levels ih shorter spaced.2.2
            have more := ih (levels + 1) _ (Nat.lt_of_le_of_lt tag.suffix.length_le shorter)
              (spaced_suffix tag.suffix spaced.2.2)
            have gives := readNodes_opening ho (readTag levels ts).gives
              (readNodes (levels + 1) (readTag levels ts).rest).gives
            rw [gives.1, gives.2]
            cases hv : (readTag levels ts).value with
            | some node =>
              rw [hv] at tag
              exact more.cons_tag tag
            | none => exact more.dropped (tag.dropped hv) tag.suffix
        · rw [(readNodes_stop ht ho).1, (readNodes_stop ht ho).2]
          exact .none (.cons ⟨ht, ho⟩)

end Read

theorem parse_printNodes {nodes : List Node} (h : Canonical nodes) :
    parse (printNodes nodes) = .ok nodes := by
  obtain ⟨shaped, depth⟩ := h
  have spaced := spaced_lexemes.2.1 nodes shaped [] trivial stops_nil
  rw [List.append_nil] at spaced
  exact parse_of_reads (print_eq_write.2.1 nodes) spaced
    (readsBack_lexemes.2.1 nodes maxDepth shaped depth)

theorem parse_of_print {nodes : List Node} {source : String} (h : Canonical nodes)
    (printed : printNodes nodes = source) : parse source = .ok nodes := by
  rw [← printed]
  exact parse_printNodes h

theorem canonical_of_tokenize {source : String} {ts : List Token} (h : tokenize source = .ok ts) :
    Canonical (parseTokens ts) := by
  obtain ⟨ls, spaced, finished⟩ := spaced_of_scan h
  have tokens := takeWhile_of_finished spaced finished
  rw [← tokens] at spaced
  have read := readBelow _ maxDepth _ (Nat.lt_succ_self _) spaced
  exact ⟨read.shaped, read.depth⟩

theorem canonical_of_parse {source : String} {nodes : List Node}
    (h : parse source = .ok nodes) : Canonical nodes := by
  obtain ⟨ts, hts, rfl⟩ := map_eq_ok h
  exact canonical_of_tokenize hts

/-- The patterns that can be read are the canonical ones, and each of them can be read from how it
is printed. -/
theorem parse_canonical :
    (∀ nodes, Canonical nodes → parse (printNodes nodes) = .ok nodes) ∧
    (∀ source ts, tokenize source = .ok ts →
      ∃ nodes, parse source = .ok nodes ∧ Canonical nodes) ∧
    (∀ nodes, (∃ source, parse source = .ok nodes) ↔ Canonical nodes) ∧
    ∀ source nodes, parse source = .ok nodes → parse (printNodes nodes) = .ok nodes := by
  have canonical {source : String} {nodes : List Node} (h : parse source = .ok nodes) :
      Canonical nodes := by
    obtain ⟨ts, hts, rfl⟩ := map_eq_ok h
    exact canonical_of_tokenize hts
  refine ⟨fun _ => parse_printNodes, ?_, ?_, fun _ _ h => parse_printNodes (canonical h)⟩
  · intro source ts h
    refine ⟨parseTokens ts, ?_, canonical_of_tokenize h⟩
    rw [parse, h]
    rfl
  · intro nodes
    constructor
    · rintro ⟨source, h⟩
      exact canonical h
    · exact fun h => ⟨printNodes nodes, parse_printNodes h⟩

theorem parse_canonical_escaped :
    let nodes : List Node := [.text "a|", .condition "~a~b" [.tag "<"] (some []),
      .disjunction [[.tag "c", .text "\\"], []]]
    Canonical nodes ∧ printNodes nodes = "a\\|<~a~b|<\\<>|><<c>\\\\||>" ∧
      parse "a\\|<~a~b|<\\<>|><<c>\\\\||>" = .ok nodes := by
  intro nodes
  have h : Canonical nodes := by
    refine ⟨?_, by decide⟩
    simp only [nodes, Shaped, Node.Shaped, ShapedEach, IsName]
    decide
  have printed : printNodes nodes = "a\\|<~a~b|<\\<>|><<c>\\\\||>" := by decide +kernel
  refine ⟨h, printed, ?_⟩
  rw [← printed]
  exact parse_canonical.1 nodes h

end SongPattern.Pattern

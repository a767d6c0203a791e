import SongPattern.Proofs.Pattern.Descent
import SongPattern.Proofs.Pattern.Seam

namespace SongPattern

/-- An error in a part of a pattern as one in the pattern, where the part comes behind so many
bytes. -/
def PatternError.behind (bytes : Nat) : PatternError → PatternError
  | .leftover position => .leftover (bytes + position)
  | e => e

namespace Pattern

def Token.behind (bytes : Nat) (t : Token) : Token := ⟨t.kind, t.text, bytes + t.position⟩

theorem lexemes_behind (bytes : Nat) (ts : List Token) :
    (ts.map (Token.behind bytes)).map Token.lexeme = ts.map Token.lexeme := by
  rw [List.map_map]
  rfl

theorem prepend_behind (bytes position : Nat) (text : List Char) (ts : List Token) :
    prepend (bytes + position) text (ts.map (Token.behind bytes)) =
      (prepend position text ts).map (Token.behind bytes) := by
  cases ts with
  | nil => rfl
  | cons t ts =>
    have kind : (t.behind bytes).kind = t.kind := rfl
    rw [List.map_cons, prepend, prepend, kind]
    split <;> rfl

/-- What was read somewhere, as it is read further on. -/
def readBehind (bytes : Nat) (r : Except PatternError (List Token)) :
    Except PatternError (List Token) :=
  (r.map (List.map (Token.behind bytes))).mapError (PatternError.behind bytes)

theorem readBehind_cons (bytes : Nat) (t : Token) (r : Except PatternError (List Token)) :
    (readBehind bytes r).map (t.behind bytes :: ·) = readBehind bytes (r.map (t :: ·)) := by
  cases r <;> rfl

theorem readBehind_prepend (bytes position : Nat) (text : List Char)
    (r : Except PatternError (List Token)) :
    (readBehind bytes r).map (prepend (bytes + position) text) =
      readBehind bytes (r.map (prepend position text)) := by
  cases r with
  | error e => rfl
  | ok ts => exact congrArg Except.ok (prepend_behind bytes position text ts)

theorem scan_behind (bytes position : Nat) (cs : List Char) :
    scan (bytes + position) cs = readBehind bytes (scan position cs) := by
  induction cs using source_induction generalizing position with
  | nil => rfl
  | operator l rest formed operator free ih =>
    rw [scan_operator formed operator free, scan_operator formed operator free, Nat.add_assoc, ih]
    exact readBehind_cons bytes ⟨l.1, l.2, position⟩ _
  | chunk chunk rest piece bare ih =>
    rw [scan_chunk piece bare, scan_chunk piece bare, Nat.add_assoc, ih]
    exact readBehind_prepend bytes position (unescapeChars chunk) _
  | stray back behind =>
    rw [scan_stray back behind, scan_stray back behind]
    rfl

/-- A pattern that is written token by token is read in front of any other one, where its last
token stands free of that. -/
theorem tokenize_append {ls : List Lexeme} {front source : String} (spaced : Spaced ls)
    (written : front.toList = writeLexemes ls)
    (free : ∀ l ∈ ls.getLast?, Free l.1 source.toList) :
    ∃ ts, ts.map Token.lexeme = ls ∧ tokenize (front ++ source) =
      (readBehind front.utf8ByteSize (tokenize source)).map (ts ++ ·) := by
  obtain ⟨ts, hts, scanned⟩ := scan_append spaced free 0
  have size : 0 + String.utf8Len (writeLexemes ls) = front.utf8ByteSize + 0 := by
    rw [← written, String.utf8Len_toList, Nat.zero_add, Nat.add_zero]
  refine ⟨ts, hts, ?_⟩
  rw [tokenize, String.toList_append, written, scanned, size, scan_behind]
  rfl

/-- Where the tokens of one pattern are read as nodes in front of those of another, so is what is
written. -/
theorem parse_append {ls : List Lexeme} {front source : String} {nodes : List Node}
    (spaced : Spaced ls) (written : front.toList = writeLexemes ls)
    (free : ∀ l ∈ ls.getLast?, Free l.1 source.toList)
    (reads : ∀ ts us, ts.map Token.lexeme = ls → tokenize source = .ok us →
      parseTokens (ts ++ us) = nodes ++ parseTokens us) :
    parse (front ++ source) =
      ((parse source).map (nodes ++ ·)).mapError (PatternError.behind front.utf8ByteSize) := by
  obtain ⟨ts, hts, tokens⟩ := tokenize_append spaced written free
  rw [parse, tokens, parse]
  cases h : tokenize source with
  | error e => rfl
  | ok us =>
    have same : parseTokens (ts ++ us.map (Token.behind front.utf8ByteSize)) =
        parseTokens (ts ++ us) :=
      parseTokens_congr (by rw [List.map_append, lexemes_behind, List.map_append])
    exact congrArg Except.ok (same.trans (reads ts us hts h))

theorem parseTokens_of_unfinished {ts : List Token} (h : ∀ t ∈ ts, t.kind ≠ .finish) :
    parseTokens ts = (readNodes maxDepth ts).value := by
  have all : ts.takeWhile (·.kind ≠ .finish) = ts :=
    List.takeWhile_eq_self_iff.mpr fun t ht => decide_eq_true (h t ht)
  rw [parseTokens, all]

/-- Only what stands before the first finish is read. -/
theorem parseTokens_append {ts : List Token} (h : ∀ t ∈ ts, t.kind ≠ .finish) (us : List Token) :
    parseTokens (ts ++ us) =
      (readNodes maxDepth (ts ++ us.takeWhile (·.kind ≠ .finish))).value := by
  rw [parseTokens, List.takeWhile_append_of_pos fun t ht => decide_eq_true (h t ht)]

theorem unfinished_of_spaced {ls : List Lexeme} {ts : List Token} (spaced : Spaced ls)
    (hts : ts.map Token.lexeme = ls) : ∀ t ∈ ts, t.kind ≠ .finish := by
  intro t ht
  rw [← hts] at spaced
  exact finish_not_formed (formed_of_spaced spaced _ (List.mem_map_of_mem ht))

theorem ReadsBack.parseTokens {ls : List Lexeme} {nodes : List Node} {ts : List Token}
    (h : ReadsBack maxDepth ls nodes) (spaced : Spaced ls) (hts : ts.map Token.lexeme = ls)
    (us : List Token) : Pattern.parseTokens (ts ++ us) = nodes ++ Pattern.parseTokens us := by
  rw [parseTokens_append (unfinished_of_spaced spaced hts)]
  have front := unfinished_front us
  obtain ⟨vs, hvs, more⟩ := h (ts ++ us.takeWhile (·.kind ≠ .finish)) _
    (by rw [List.map_append, hts])
  have rest : ∀ t ∈ vs, t.kind ≠ .finish := by
    intro t ht
    obtain ⟨u, hu, same⟩ := List.mem_map.mp (hvs ▸ List.mem_map_of_mem ht)
    have kind : u.kind = t.kind := congrArg Prod.fst same
    rw [← kind]
    exact front u hu
  -- the tokens that are left over are those of `us` but for their places
  have same := parseTokens_congr hvs
  rw [parseTokens_of_unfinished rest, parseTokens_of_unfinished front] at same
  rw [(more _ _ (Reading.gives _)).1, same]
  rfl

/-- Nodes that do not end with a text end with the closing of a tag. -/
theorem closing_last {nodes : List Node} (h : endsWithText nodes = false) :
    ∀ l ∈ (lexemesOf nodes).getLast?, l.1 = .closing := by
  rcases List.eq_nil_or_concat nodes with rfl | ⟨front, last, rfl⟩
  · exact nofun
  · have tag : last.isText = false := by simpa [endsWithText] using h
    obtain ⟨ls, hls⟩ := lexemes_last tag
    rw [List.concat_eq_append, lexemesOf_append, lexemesOf, lexemesOf, List.append_nil, hls,
      ← List.append_assoc, List.getLast?_concat]
    rintro l ⟨⟩
    rfl

theorem parse_print_append {nodes : List Node} (canonical : Canonical nodes)
    (closed : endsWithText nodes = false) (source : String) :
    parse (printNodes nodes ++ source) = ((parse source).map (nodes ++ ·)).mapError
      (PatternError.behind (printNodes nodes).utf8ByteSize) := by
  obtain ⟨shaped, depth⟩ := canonical
  have spaced := spaced_lexemes.2.1 nodes shaped [] trivial stops_nil
  rw [List.append_nil] at spaced
  refine parse_append spaced (print_eq_write.2.1 nodes) ?_ ?_
  · intro l hl
    rw [closing_last closed l hl]
    trivial
  · intro ts us hts _
    exact (readsBack_lexemes.2.1 nodes maxDepth shaped depth).parseTokens spaced hts us

/-- Where a pattern starts with a tag, or is empty, so do its tokens. -/
theorem tokens_head {source : String} {ts : List Token}
    (starts : ∀ c ∈ source.toList.head?, c = '<') (h : tokenize source = .ok ts) :
    ∀ t ∈ ts.head?, t.kind = .opening ∨ t.kind = .finish := by
  rw [tokenize] at h
  cases hs : source.toList with
  | nil =>
    rw [hs] at h
    cases h
    rintro t ⟨⟩
    exact .inr rfl
  | cons c cs =>
    rw [hs] at h starts
    rw [starts c rfl, scan] at h
    obtain ⟨us, _, rfl⟩ := map_eq_ok h
    rintro t ⟨⟩
    exact .inl rfl

/-- A tag that goes on with another tag, or with nothing, is not closed, and nothing behind its name
is lost. -/
theorem readBody_unclosed {levels : Nat} {name : String} {ts : List Token}
    (starts : ∀ t ∈ ts.head?, t.kind = .opening) :
    (readBody levels name none ts).Gives none ts := by
  cases ts with
  | nil => exact readBody_nil
  | cons t ts =>
    have opening : t.kind = .opening := starts t rfl
    have stays : skipTo .opening (t :: ts) = t :: ts :=
      List.dropWhile_cons_of_neg (by simp [opening])
    have close : (closeTag (.tag name) (t :: ts)).Gives none (skipTo .opening (t :: ts)) :=
      closeTag_other _ (by simp [opening])
    rw [stays] at close
    exact readBody_other (by simp [opening]) (fun _ => rfl) close

theorem parseTokens_unclosed {o n : Token} (ho : o.kind = .opening) (hn : n.kind = .text)
    {us : List Token} (starts : ∀ t ∈ us.head?, t.kind = .opening ∨ t.kind = .finish) :
    parseTokens (o :: n :: us) = parseTokens us := by
  have front : ∀ t ∈ (us.takeWhile (·.kind ≠ .finish)).head?, t.kind = .opening := by
    cases us with
    | nil => exact nofun
    | cons u us =>
      by_cases finish : u.kind = .finish
      · rw [List.takeWhile_cons_of_neg (by simp [finish])]
        exact nofun
      · rw [List.takeWhile_cons_of_pos (by simp [finish])]
        rintro t ⟨⟩
        exact (starts u rfl).resolve_right finish
  have whole : (readNodes maxDepth (o :: n :: us.takeWhile (·.kind ≠ .finish))).Gives _ _ :=
    readNodes_opening ho (readTag_text hn (readBody_unclosed front)) (Reading.gives _)
  have tokens : ∀ t ∈ [o, n], t.kind ≠ .finish := by
    simp [ho, hn]
  exact (parseTokens_append tokens us).trans whole.1

theorem parse_unclosed_append {name : String} (full : name ≠ "") {source : String}
    (starts : ∀ c ∈ source.toList.head?, c = '<') :
    parse ("<" ++ escape name ++ source) =
      (parse source).mapError (PatternError.behind ("<" ++ escape name).utf8ByteSize) := by
  have spaced : Spaced [(.opening, "<"), (.text, name)] :=
    ⟨rfl, fun _ _ => trivial, full, nofun, trivial⟩
  have written : ("<" ++ escape name).toList = writeLexemes [(.opening, "<"), (.text, name)] := by
    rw [String.toList_append, ← written_text]
    simp [writeLexemes, Lexeme.written]
  have free : ∀ l ∈ [((.opening, "<") : Lexeme), (.text, name)].getLast?,
      Free l.1 source.toList := by
    rintro l ⟨⟩ c hc
    exact .inl (starts c hc)
  have reads (ts us : List Token) (hts : ts.map Token.lexeme = [(.opening, "<"), (.text, name)])
      (h : tokenize source = .ok us) : parseTokens (ts ++ us) = [] ++ parseTokens us := by
    obtain ⟨o, ts, rfl, ho, hts⟩ := List.map_eq_cons_iff.mp hts
    obtain ⟨n, ts, rfl, hn, hts⟩ := List.map_eq_cons_iff.mp hts
    cases List.map_eq_nil_iff.mp hts
    exact parseTokens_unclosed (kind_of_lexeme ho) (kind_of_lexeme hn) (tokens_head starts h)
  rw [parse_append spaced written free reads]
  cases parse source <;> rfl

/-- What cannot be read stays where it is. Closed tags in front of any pattern are read as ever, and
a name that is not closed takes nothing of a tag behind it along. Either way, reading fails only
where it fails without them. -/
theorem parse_recovers :
    (∀ nodes source, Canonical nodes → endsWithText nodes = false →
      parse (printNodes nodes ++ source) = ((parse source).map (nodes ++ ·)).mapError
        (PatternError.behind (printNodes nodes).utf8ByteSize)) ∧
    ∀ name source, name ≠ "" → (∀ c ∈ source.toList.head?, c = '<') →
      parse ("<" ++ escape name ++ source) =
        (parse source).mapError (PatternError.behind ("<" ++ escape name).utf8ByteSize) :=
  ⟨fun _ source canonical closed => parse_print_append canonical closed source,
    fun _ _ full starts => parse_unclosed_append full starts⟩

theorem parse_recovers_unclosed :
    let nodes : List Node := [.text "a", .tag "b"]
    Canonical nodes ∧ endsWithText nodes = false ∧ "x|" ≠ "" ∧
      (∀ c ∈ "<b>".toList.head?, c = '<') ∧ parse "<x\\|<b>" = .ok [.tag "b"] ∧
      parse "a<b><x\\|<b>" = .ok [.text "a", .tag "b", .tag "b"] := by
  intro nodes
  have canonical : Canonical nodes := by decide +kernel
  have closed : endsWithText nodes = false := by decide
  have full : "x|" ≠ "" := by decide
  have starts : ∀ c ∈ "<b>".toList.head?, c = '<' := by simp
  have printed : printNodes nodes = "a<b>" := by decide +kernel
  have written : "<" ++ escape "x|" ++ "<b>" = "<x\\|<b>" := by decide +kernel
  have tag : parse "<b>" = .ok [.tag "b"] := parse_of_print (by decide +kernel) (by decide +kernel)
  have dropped := parse_recovers.2 "x|" "<b>" full starts
  have behind := parse_recovers.1 nodes "<x\\|<b>" canonical closed
  rw [written, tag] at dropped
  rw [printed, dropped] at behind
  exact ⟨canonical, closed, full, starts, dropped, behind⟩

end Pattern

end SongPattern

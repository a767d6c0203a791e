import SongPattern.Proofs.Pattern.Canonical
import SongPattern.Proofs.Pattern.Scan

namespace SongPattern.Pattern

theorem skipTo_suffix (kind : TokenKind) (ts : List Token) : skipTo kind ts <:+ ts :=
  List.dropWhile_suffix _

theorem skipTo_head (kind : TokenKind) (ts : List Token) :
    ∀ t ∈ (skipTo kind ts).head?, t.kind = kind := by
  intro t ht
  have h := List.head?_dropWhile_not (fun t : Token => decide (t.kind ≠ kind)) ts
  rw [skipTo] at ht
  rw [Option.mem_def.mp ht] at h
  simpa using h

def Reading.Gives {α : Type} {ts : List Token} (r : Reading α ts) (value : α)
    (rest : List Token) : Prop :=
  r.value = value ∧ r.rest = rest

theorem Reading.gives {α : Type} {ts : List Token} (r : Reading α ts) : r.Gives r.value r.rest :=
  ⟨rfl, rfl⟩

section Steps

variable {levels : Nat} {name : String} {first : Option (List Node)} {t : Token}
  {ts mid rest : List Token} {nodes : List Node}

theorem readNodes_nil : (readNodes levels []).Gives [] [] := by
  rw [readNodes]
  exact ⟨rfl, rfl⟩

theorem readNodes_text (h : t.kind = .text) (more : (readNodes levels ts).Gives nodes rest) :
    (readNodes levels (t :: ts)).Gives (.text t.text :: nodes) rest := by
  obtain ⟨rfl, rfl⟩ := more
  rw [readNodes.eq_def]
  simp only [h]
  exact ⟨rfl, rfl⟩

theorem readNodes_opening {tag : Option Node} (h : t.kind = .opening)
    (ht : (readTag levels ts).Gives tag mid)
    (more : (readNodes (levels + 1) mid).Gives nodes rest) :
    (readNodes (levels + 1) (t :: ts)).Gives (tag.toList ++ nodes) rest := by
  obtain ⟨rfl, rfl⟩ := ht
  obtain ⟨rfl, rfl⟩ := more
  rw [readNodes.eq_def]
  simp only [h]
  exact ⟨rfl, rfl⟩

theorem readNodes_deep (h : t.kind = .opening)
    (more : (readNodes 0 (skipTo .closing ts)).Gives nodes rest) :
    (readNodes 0 (t :: ts)).Gives nodes rest := by
  obtain ⟨rfl, rfl⟩ := more
  rw [readNodes.eq_def]
  simp only [h]
  exact ⟨rfl, rfl⟩

theorem readNodes_stop (ht : t.kind ≠ .text) (ho : t.kind ≠ .opening) :
    (readNodes levels (t :: ts)).Gives [] (t :: ts) := by
  rw [readNodes.eq_def]
  cases hk : t.kind with
  | text => exact absurd hk ht
  | opening => exact absurd hk ho
  | _ =>
    simp only [hk]
    exact ⟨rfl, rfl⟩

theorem readTag_nil : (readTag levels []).Gives none [] := by
  rw [readTag]
  exact ⟨rfl, rfl⟩

theorem readTag_text {tag : Option Node} (h : t.kind = .text)
    (body : (readBody levels (normalizeName t.text) none ts).Gives tag rest) :
    (readTag levels (t :: ts)).Gives tag rest := by
  obtain ⟨rfl, rfl⟩ := body
  rw [readTag.eq_def]
  simp only [h]
  exact ⟨rfl, rfl⟩

theorem readTag_opening {tag : Option Node} (h : t.kind = .opening)
    (hn : (readNodes levels (t :: ts)).Gives nodes mid)
    (body : (readBody levels (normalizeName t.text) (some nodes) mid).Gives tag rest) :
    (readTag levels (t :: ts)).Gives tag rest := by
  obtain ⟨rfl, rfl⟩ := hn
  obtain ⟨rfl, rfl⟩ := body
  rw [readTag.eq_def]
  simp only [h]
  exact ⟨rfl, rfl⟩

theorem readTag_other (ht : t.kind ≠ .text) (ho : t.kind ≠ .opening) :
    (readTag levels (t :: ts)).Gives none (skipTo .closing (t :: ts)) := by
  rw [readTag.eq_def]
  cases hk : t.kind with
  | text => exact absurd hk ht
  | opening => exact absurd hk ho
  | _ =>
    simp only [hk]
    exact ⟨rfl, rfl⟩

theorem readBody_nil : (readBody levels name first []).Gives none [] := by
  rw [readBody]
  exact ⟨rfl, rfl⟩

theorem readBody_bar {no : Option (List Node)} {behind : List Token} {tag : Option Node}
    (h : t.kind = .bar) (yes : (readNodes levels ts).Gives nodes mid)
    (hno : (readElse levels mid).Gives no behind)
    (close : (closeTag (.condition name nodes no) behind).Gives tag rest) :
    (readBody levels name first (t :: ts)).Gives tag rest := by
  obtain ⟨rfl, rfl⟩ := yes
  obtain ⟨rfl, rfl⟩ := hno
  obtain ⟨rfl, rfl⟩ := close
  rw [readBody.eq_def]
  simp only [h]
  exact ⟨rfl, rfl⟩

theorem readBody_doubleBar {more : List (List Node)} {tag : Option Node} (h : t.kind = .doubleBar)
    (others : (readAlternatives levels (t :: ts)).Gives more mid)
    (close : (closeTag (.disjunction (nodes :: more)) mid).Gives tag rest) :
    (readBody levels name (some nodes) (t :: ts)).Gives tag rest := by
  obtain ⟨rfl, rfl⟩ := others
  obtain ⟨rfl, rfl⟩ := close
  rw [readBody.eq_def]
  simp only [h]
  exact ⟨rfl, rfl⟩

theorem readBody_other {tag : Option Node} (hb : t.kind ≠ .bar)
    (hd : t.kind = .doubleBar → first = none)
    (close : (closeTag (.tag name) (t :: ts)).Gives tag rest) :
    (readBody levels name first (t :: ts)).Gives tag rest := by
  obtain ⟨rfl, rfl⟩ := close
  rw [readBody.eq_def]
  cases hk : t.kind with
  | bar => exact absurd hk hb
  | doubleBar =>
    cases hd hk
    simp only [hk]
    exact ⟨rfl, rfl⟩
  | _ =>
    simp only [hk]
    exact ⟨rfl, rfl⟩

theorem readElse_nil : (readElse levels []).Gives none [] := by
  rw [readElse]
  exact ⟨rfl, rfl⟩

theorem readElse_bar (h : t.kind = .bar) (no : (readNodes levels ts).Gives nodes rest) :
    (readElse levels (t :: ts)).Gives (some nodes) rest := by
  obtain ⟨rfl, rfl⟩ := no
  rw [readElse, if_pos h]
  exact ⟨rfl, rfl⟩

theorem readElse_other (h : t.kind ≠ .bar) : (readElse levels (t :: ts)).Gives none (t :: ts) := by
  rw [readElse, if_neg h]
  exact ⟨rfl, rfl⟩

theorem readAlternatives_nil : (readAlternatives levels []).Gives [] [] := by
  rw [readAlternatives]
  exact ⟨rfl, rfl⟩

theorem readAlternatives_doubleBar {more : List (List Node)} (h : t.kind = .doubleBar)
    (next : (readNodes levels ts).Gives nodes mid)
    (others : (readAlternatives levels mid).Gives more rest) :
    (readAlternatives levels (t :: ts)).Gives (nodes :: more) rest := by
  obtain ⟨rfl, rfl⟩ := next
  obtain ⟨rfl, rfl⟩ := others
  rw [readAlternatives, if_pos h]
  exact ⟨rfl, rfl⟩

theorem readAlternatives_other (h : t.kind ≠ .doubleBar) :
    (readAlternatives levels (t :: ts)).Gives [] (t :: ts) := by
  rw [readAlternatives, if_neg h]
  exact ⟨rfl, rfl⟩

theorem closeTag_closing (node : Node) (h : t.kind = .closing) :
    (closeTag node (t :: ts)).Gives (some node) ts := by
  rw [closeTag, if_pos h]
  exact ⟨rfl, rfl⟩

theorem closeTag_other (node : Node) (h : t.kind ≠ .closing) :
    (closeTag node (t :: ts)).Gives none (skipTo .opening (t :: ts)) := by
  rw [closeTag, if_neg h]
  exact ⟨rfl, rfl⟩

end Steps

/-- Nodes are read off the tokens `ls`, whatever comes behind. -/
def ReadsBack (levels : Nat) (ls : List Lexeme) (nodes : List Node) : Prop :=
  ∀ ts behind, ts.map Token.lexeme = ls ++ behind → ∃ us, us.map Token.lexeme = behind ∧
    ∀ more rest, (readNodes levels us).Gives more rest →
      (readNodes levels ts).Gives (nodes ++ more) rest

section Printed

variable {levels : Nat} {ts : List Token} {ls behind : List Lexeme} {nodes : List Node}

theorem kind_of_lexeme {t : Token} {l : Lexeme} (h : t.lexeme = l) : t.kind = l.1 :=
  congrArg Prod.fst h

/-- Nodes that are followed by a token that starts none. -/
theorem ReadsBack.gives (h : ReadsBack levels ls nodes) {l : Lexeme}
    (hts : ts.map Token.lexeme = ls ++ l :: behind) (ht : l.1 ≠ .text) (ho : l.1 ≠ .opening) :
    ∃ t us, t.lexeme = l ∧ us.map Token.lexeme = behind ∧
      (readNodes levels ts).Gives nodes (t :: us) := by
  obtain ⟨us, hus, more⟩ := h ts (l :: behind) hts
  obtain ⟨t, us, rfl, rfl, hb⟩ := List.map_eq_cons_iff.mp hus
  have stop := more [] (t :: us) (readNodes_stop ht ho)
  rw [List.append_nil] at stop
  exact ⟨t, us, rfl, hb, stop⟩

/-- A tag in front of tokens, as one of the nodes. -/
theorem readsBack_tag {node : Node} (h : ∀ ts behind, ts.map Token.lexeme = ls ++ behind →
      ∃ us, us.map Token.lexeme = behind ∧ (readTag levels ts).Gives (some node) us) :
    ReadsBack (levels + 1) ((.opening, "<") :: ls) [node] := by
  intro ts behind hts
  obtain ⟨t, ts, rfl, ht, hts⟩ := List.map_eq_cons_iff.mp hts
  obtain ⟨us, hus, tag⟩ := h ts behind hts
  exact ⟨us, hus, fun more rest hm => readNodes_opening (kind_of_lexeme ht) tag hm⟩

theorem readsBack_named {name : String} {node : Node}
    (h : ∀ ts behind, ts.map Token.lexeme = ls ++ behind → ∃ us, us.map Token.lexeme = behind ∧
      (readBody levels (normalizeName name) none ts).Gives (some node) us) :
    ReadsBack (levels + 1) ((.opening, "<") :: (.text, name) :: ls) [node] := by
  refine readsBack_tag fun ts behind hts => ?_
  obtain ⟨t, ts, rfl, ht, hts⟩ := List.map_eq_cons_iff.mp hts
  obtain ⟨us, hus, body⟩ := h ts behind hts
  refine ⟨us, hus, readTag_text (kind_of_lexeme ht) ?_⟩
  have text : t.text = name := congrArg Prod.snd ht
  rw [text]
  exact body

theorem readsBack_when (predicate : String) {yes : List Node}
    (h : ReadsBack levels (lexemesOf yes) yes) :
    ReadsBack (levels + 1) (Node.condition predicate yes none).lexemes
      [.condition (normalizeName predicate) yes none] := by
  refine readsBack_named fun ts behind hts => ?_
  rw [List.cons_append, List.append_assoc] at hts
  obtain ⟨t, ts, rfl, ht, hts⟩ := List.map_eq_cons_iff.mp hts
  obtain ⟨u, us, hu, hus, yes⟩ := h.gives hts (by decide) (by decide)
  have closing : u.kind = .closing := kind_of_lexeme hu
  refine ⟨us, hus, readBody_bar (kind_of_lexeme ht) yes (readElse_other ?_)
    (closeTag_closing _ closing)⟩
  rw [closing]
  decide

theorem readsBack_either (predicate : String) {yes no : List Node}
    (hyes : ReadsBack levels (lexemesOf yes) yes) (hno : ReadsBack levels (lexemesOf no) no) :
    ReadsBack (levels + 1) (Node.condition predicate yes (some no)).lexemes
      [.condition (normalizeName predicate) yes (some no)] := by
  refine readsBack_named fun ts behind hts => ?_
  rw [List.cons_append, List.append_assoc, List.cons_append, List.append_assoc] at hts
  obtain ⟨t, ts, rfl, ht, hts⟩ := List.map_eq_cons_iff.mp hts
  obtain ⟨u, us, hu, hus, yes⟩ := hyes.gives hts (by decide) (by decide)
  obtain ⟨v, vs, hv, hvs, no⟩ := hno.gives hus (by decide) (by decide)
  exact ⟨vs, hvs, readBody_bar (kind_of_lexeme ht) yes (readElse_bar (kind_of_lexeme hu) no)
    (closeTag_closing _ (kind_of_lexeme hv))⟩

/-- Nodes that start with a tag start with an opening. -/
theorem opening_of_tagged (h : startsWithTag nodes = true)
    (hts : ts.map Token.lexeme = lexemesOf nodes ++ behind) :
    ∃ t us, ts = t :: us ∧ t.kind = .opening := by
  cases nodes with
  | nil => cases h
  | cons node nodes =>
    rcases lexemes_head node with ⟨s, rfl⟩ | ⟨_, ls, hls⟩
    · cases h
    · rw [lexemesOf, hls] at hts
      obtain ⟨t, us, rfl, ht, _⟩ := List.map_eq_cons_iff.mp hts
      exact ⟨t, us, rfl, kind_of_lexeme ht⟩

theorem readAlternatives_gives {alternatives : List (List Node)}
    (h : ∀ nodes ∈ alternatives, ReadsBack levels (lexemesOf nodes) nodes)
    (hts : ts.map Token.lexeme =
      (lexemesOfEach alternatives).flatMap ((.doubleBar, "||") :: ·) ++ (.closing, ">") :: behind) :
    ∃ t us, t.kind = .closing ∧ us.map Token.lexeme = behind ∧
      (readAlternatives levels ts).Gives alternatives (t :: us) := by
  induction alternatives generalizing ts with
  | nil =>
    obtain ⟨t, us, rfl, ht, hus⟩ := List.map_eq_cons_iff.mp hts
    have closing : t.kind = .closing := kind_of_lexeme ht
    refine ⟨t, us, closing, hus, readAlternatives_other ?_⟩
    rw [closing]
    decide
  | cons nodes more ih =>
    obtain ⟨first, others⟩ := List.forall_mem_cons.mp h
    rw [lexemesOfEach, List.flatMap_cons, List.append_assoc] at hts
    obtain ⟨t, ts, rfl, ht, hts⟩ := List.map_eq_cons_iff.mp hts
    cases more with
    | nil =>
      obtain ⟨u, us, hu, hus, gives⟩ := first.gives hts (by decide) (by decide)
      have closing : u.kind = .closing := kind_of_lexeme hu
      refine ⟨u, us, closing, hus, readAlternatives_doubleBar (kind_of_lexeme ht) gives
        (readAlternatives_other ?_)⟩
      rw [closing]
      decide
    | cons next more =>
      obtain ⟨u, us, hu, hus, gives⟩ := first.gives hts (by decide) (by decide)
      have rest : (u :: us).map Token.lexeme =
          (lexemesOfEach (next :: more)).flatMap ((.doubleBar, "||") :: ·) ++
            (.closing, ">") :: behind := by
        rw [List.map_cons, hu, hus]
        rfl
      obtain ⟨v, vs, hv, hvs, gives'⟩ := ih others rest
      exact ⟨v, vs, hv, hvs, readAlternatives_doubleBar (kind_of_lexeme ht) gives gives'⟩

theorem readsBack_lexemes :
    (∀ node : Node, ∀ levels, node.Shaped → node.depth ≤ levels →
      ReadsBack levels node.lexemes [node]) ∧
    (∀ nodes, ∀ levels, Shaped nodes → depthOf nodes ≤ levels →
      ReadsBack levels (lexemesOf nodes) nodes) ∧
    ∀ alternatives, ∀ levels, ShapedEach alternatives → depthOfEach alternatives ≤ levels →
      ∀ nodes ∈ alternatives, ReadsBack levels (lexemesOf nodes) nodes := by
  apply Node.induction
  case text =>
    intro s levels _ _ ts behind hts
    obtain ⟨t, us, rfl, ht, hus⟩ := List.map_eq_cons_iff.mp hts
    refine ⟨us, hus, fun more rest hm => ?_⟩
    have text : t.text = s := congrArg Prod.snd ht
    rw [← text]
    exact readNodes_text (kind_of_lexeme ht) hm
  case tag =>
    intro name levels hn hl
    cases levels with
    | zero => exact absurd hl (Nat.not_succ_le_zero 0)
    | succ levels =>
      refine readsBack_named fun ts behind hts => ?_
      obtain ⟨t, us, rfl, ht, hus⟩ := List.map_eq_cons_iff.mp hts
      have closing : t.kind = .closing := kind_of_lexeme ht
      rw [hn.2]
      refine ⟨us, hus, readBody_other ?_ (fun _ => rfl) (closeTag_closing _ closing)⟩
      rw [closing]
      decide
  case when =>
    intro predicate yes ih levels h hl
    cases levels with
    | zero => exact absurd hl (Nat.not_succ_le_zero _)
    | succ levels =>
      have reads := readsBack_when predicate
        (ih levels h.2 (Nat.le_of_succ_le_succ hl))
      rwa [h.1.2] at reads
  case either =>
    intro predicate yes no ihyes ihno levels h hl
    cases levels with
    | zero => exact absurd hl (Nat.not_succ_le_zero _)
    | succ levels =>
      obtain ⟨name, _, hyes, hno⟩ := h
      obtain ⟨lyes, lno⟩ := Nat.max_le.mp (Nat.le_of_succ_le_succ hl)
      have reads := readsBack_either predicate (ihyes levels hyes lyes)
        (ihno levels hno lno)
      rwa [name.2] at reads
  case disjunction =>
    intro alternatives ih levels h hl
    obtain ⟨two, tagged, shaped⟩ := h
    obtain ⟨first, next, more, rfl⟩ : ∃ first next more, alternatives = first :: next :: more := by
      match alternatives, two with
      | first :: next :: more, _ => exact ⟨first, next, more, rfl⟩
    cases levels with
    | zero => exact absurd hl (Nat.not_succ_le_zero _)
    | succ levels =>
      have all := ih levels shaped (Nat.le_of_succ_le_succ hl)
      obtain ⟨hfirst, others⟩ := List.forall_mem_cons.mp all
      refine readsBack_tag fun ts behind hts => ?_
      rw [lexemesOfEach, joinLexemes, List.append_assoc, List.append_assoc] at hts
      obtain ⟨t, ts, rfl, opening⟩ := opening_of_tagged tagged hts
      obtain ⟨u, us, hu, hus, gives⟩ := hfirst.gives hts (by decide) (by decide)
      have rest : (u :: us).map Token.lexeme =
          (lexemesOfEach (next :: more)).flatMap ((.doubleBar, "||") :: ·) ++
            (.closing, ">") :: behind := by
        rw [List.map_cons, hu, hus, lexemesOfEach]
        rfl
      obtain ⟨v, vs, closing, hvs, gives'⟩ := readAlternatives_gives others rest
      exact ⟨vs, hvs, readTag_opening opening gives (readBody_doubleBar (kind_of_lexeme hu) gives'
        (closeTag_closing _ closing))⟩
  case nil =>
    intro levels _ _ ts behind hts
    exact ⟨ts, hts, fun more rest hm => hm⟩
  case cons =>
    intro node nodes ihnode ihnodes levels h hl ts behind hts
    obtain ⟨lnode, lnodes⟩ := Nat.max_le.mp hl
    rw [lexemesOf, List.append_assoc] at hts
    obtain ⟨us, hus, first⟩ := ihnode levels h.1 lnode ts _ hts
    obtain ⟨vs, hvs, others⟩ := ihnodes levels h.2.2 lnodes us _ hus
    exact ⟨vs, hvs, fun more rest hm => first _ _ (others more rest hm)⟩
  case none =>
    intro levels _ _
    exact List.forall_mem_nil _
  case more =>
    intro nodes alternatives ihnodes ihmore levels h hl
    obtain ⟨lnodes, lmore⟩ := Nat.max_le.mp hl
    exact List.forall_mem_cons.mpr ⟨ihnodes levels h.1 lnodes, ihmore levels h.2 lmore⟩

end Printed

/-- What is written so that it can be told apart is read as these nodes. -/
theorem parse_of_reads {source : String} {ls : List Lexeme} {nodes : List Node}
    (written : source.toList = writeLexemes ls) (spaced : Spaced ls)
    (reads : ReadsBack maxDepth ls nodes) : parse source = .ok nodes := by
  obtain ⟨ts, scanned, finished⟩ := scan_writeLexemes spaced 0
  have tokens := takeWhile_of_finished spaced finished
  rw [← List.append_nil ls] at tokens
  obtain ⟨us, hus, gives⟩ := reads _ [] tokens
  cases List.map_eq_nil_iff.mp hus
  have value := (gives [] [] readNodes_nil).1
  rw [List.append_nil] at value
  rw [parse, tokenize, written, scanned]
  exact congrArg Except.ok value

end SongPattern.Pattern

import SongPattern.Proofs.Pattern.Reader

namespace SongPattern.Pattern

/-- A token list as it is gone through: one that does not end with a finish gets one. -/
def terminated (ls : List Lexeme) : List Lexeme :=
  if ls.getLast?.any (·.1 = .finish) then ls else ls ++ [(.finish, "")]

/-- One token further. The last token is never left. -/
def advance (ls : List Lexeme) (i : Nat) : Nat := if i + 1 < ls.length then i + 1 else i

/-- Tokens are skipped from one index to another, up to one of this kind or a finish. -/
inductive Skips (ls : List Lexeme) (kind : TokenKind) : Nat → Nat → Prop where
  | stop {i : Nat} {l : Lexeme} (here : ls[i]? = some l) (stops : l.1 = kind ∨ l.1 = .finish) :
    Skips ls kind i i
  | pass {i j : Nat} {l : Lexeme} (here : ls[i]? = some l) (other : l.1 ≠ kind)
    (unfinished : l.1 ≠ .finish) (rest : Skips ls kind (advance ls i) j) : Skips ls kind i j

/-- A tag is closed, or dropped where it is not. -/
inductive ClosesAt (ls : List Lexeme) (node : Node) : Nat → Option Node → Nat → Prop where
  | closed {i : Nat} {s : String} (here : ls[i]? = some (.closing, s)) :
    ClosesAt ls node i (some node) (advance ls i)
  | dropped {i j : Nat} {l : Lexeme} (here : ls[i]? = some l) (other : l.1 ≠ .closing)
    (skip : Skips ls .opening i j) : ClosesAt ls node i none j

mutual

/-- Nodes are read from one index to another, `depth` tags deep. Each step looks up the token at an
index, so there is none where that is out of range, and what is read is read in finitely many
steps. -/
inductive NodesAt (ls : List Lexeme) : (depth i : Nat) → List Node → Nat → Prop where
  | text {depth i j : Nat} {s : String} {nodes : List Node} (here : ls[i]? = some (.text, s))
    (rest : NodesAt ls depth (advance ls i) nodes j) : NodesAt ls depth i (.text s :: nodes) j
  | tag {depth i j k : Nat} {s : String} {tag : Option Node} {nodes : List Node}
    (here : ls[i]? = some (.opening, s)) (room : depth < maxDepth)
    (one : TagAt ls (depth + 1) (advance ls i) tag k) (rest : NodesAt ls depth k nodes j) :
    NodesAt ls depth i (tag.toList ++ nodes) j
  | deep {depth i j k : Nat} {s : String} {nodes : List Node}
    (here : ls[i]? = some (.opening, s)) (full : maxDepth ≤ depth)
    (skip : Skips ls .closing (advance ls i) k) (rest : NodesAt ls depth k nodes j) :
    NodesAt ls depth i nodes j
  | stop {depth i : Nat} {l : Lexeme} (here : ls[i]? = some l) (text : l.1 ≠ .text)
    (opening : l.1 ≠ .opening) : NodesAt ls depth i [] i

/-- A tag is read behind its opening. -/
inductive TagAt (ls : List Lexeme) : (depth i : Nat) → Option Node → Nat → Prop where
  | named {depth i j : Nat} {s : String} {tag : Option Node} (here : ls[i]? = some (.text, s))
    (body : BodyAt ls depth (normalizeName s) none (advance ls i) tag j) : TagAt ls depth i tag j
  | nested {depth i j k : Nat} {s : String} {first : List Node} {tag : Option Node}
    (here : ls[i]? = some (.opening, s)) (nodes : NodesAt ls depth i first k)
    (body : BodyAt ls depth (normalizeName s) (some first) k tag j) : TagAt ls depth i tag j
  | nameless {depth i j : Nat} {l : Lexeme} (here : ls[i]? = some l) (text : l.1 ≠ .text)
    (opening : l.1 ≠ .opening) (skip : Skips ls .closing i j) : TagAt ls depth i none j

/-- A tag is read behind its name, or behind the nodes that it starts with. -/
inductive BodyAt (ls : List Lexeme) :
    (depth : Nat) → (name : String) → (first : Option (List Node)) → (i : Nat) → Option Node →
      Nat → Prop where
  | condition {depth i j k m : Nat} {s name : String} {first no : Option (List Node)}
    {yes : List Node} {tag : Option Node} (here : ls[i]? = some (.bar, s))
    (nodes : NodesAt ls depth (advance ls i) yes k) (otherwise : ElseAt ls depth k no m)
    (close : ClosesAt ls (.condition name yes no) m tag j) : BodyAt ls depth name first i tag j
  | disjunction {depth i j k : Nat} {s name : String} {first : List Node}
    {more : List (List Node)} {tag : Option Node} (here : ls[i]? = some (.doubleBar, s))
    (others : AlternativesAt ls depth i more k)
    (close : ClosesAt ls (.disjunction (first :: more)) k tag j) :
    BodyAt ls depth name (some first) i tag j
  | plain {depth i j : Nat} {l : Lexeme} {name : String} {first : Option (List Node)}
    {tag : Option Node} (here : ls[i]? = some l) (bar : l.1 ≠ .bar)
    (single : l.1 = .doubleBar → first = none) (close : ClosesAt ls (.tag name) i tag j) :
    BodyAt ls depth name first i tag j

inductive ElseAt (ls : List Lexeme) :
    (depth i : Nat) → Option (List Node) → Nat → Prop where
  | some {depth i j : Nat} {s : String} {no : List Node} (here : ls[i]? = some (.bar, s))
    (nodes : NodesAt ls depth (advance ls i) no j) : ElseAt ls depth i (some no) j
  | none {depth i : Nat} {l : Lexeme} (here : ls[i]? = some l) (bar : l.1 ≠ .bar) :
    ElseAt ls depth i none i

inductive AlternativesAt (ls : List Lexeme) :
    (depth i : Nat) → List (List Node) → Nat → Prop where
  | more {depth i j k : Nat} {s : String} {next : List Node} {others : List (List Node)}
    (here : ls[i]? = some (.doubleBar, s)) (nodes : NodesAt ls depth (advance ls i) next k)
    (rest : AlternativesAt ls depth k others j) : AlternativesAt ls depth i (next :: others) j
  | none {depth i : Nat} {l : Lexeme} (here : ls[i]? = some l) (doubleBar : l.1 ≠ .doubleBar) :
    AlternativesAt ls depth i [] i

end

/-- `front` are the tokens before the first finish of a list. -/
structure Cut (ls : List Lexeme) (front : List Token) : Prop where
  split : ∃ s back, ls = front.map Token.lexeme ++ (.finish, s) :: back
  unfinished : ∀ t ∈ front, t.kind ≠ .finish

theorem unfinished_front (ts : List Token) :
    ∀ t ∈ ts.takeWhile (·.kind ≠ .finish), t.kind ≠ .finish := by
  intro t ht
  have passed := List.mem_takeWhile_imp ht
  exact of_decide_eq_true passed

theorem cut_terminated (ts : List Token) :
    Cut (terminated (ts.map Token.lexeme)) (ts.takeWhile (·.kind ≠ .finish)) := by
  have parts : ts.takeWhile (·.kind ≠ .finish) ++ skipTo .finish ts = ts :=
    List.takeWhile_append_dropWhile
  have unfinished := unfinished_front ts
  refine ⟨?_, unfinished⟩
  cases hb : skipTo .finish ts with
  | nil =>
    -- there is no finish, so the one behind it is the first
    rw [hb, List.append_nil] at parts
    rw [parts] at unfinished ⊢
    have ends : (ts.map Token.lexeme).getLast?.any (·.1 = .finish) = false := by
      rw [Option.any_eq_false]
      intro l hl
      obtain ⟨t, ht, rfl⟩ := List.mem_map.mp (List.mem_of_getLast? hl)
      exact decide_eq_false (unfinished t ht)
    rw [terminated, ends]
    exact ⟨"", [], rfl⟩
  | cons t back =>
    have finish : t.kind = .finish := skipTo_head .finish ts t (by rw [hb]; rfl)
    have whole : ts.map Token.lexeme = (ts.takeWhile (·.kind ≠ .finish)).map Token.lexeme ++
        (.finish, t.text) :: back.map Token.lexeme := by
      have h := congrArg (List.map Token.lexeme) parts
      rw [hb, List.map_append, List.map_cons, Token.lexeme, finish] at h
      exact h.symm
    rw [terminated]
    split
    · exact ⟨t.text, _, whole⟩
    · refine ⟨t.text, back.map Token.lexeme ++ [(.finish, "")], ?_⟩
      rw [← List.cons_append, ← List.append_assoc, ← whole]

section Cut

variable {ls : List Lexeme} {front : List Token} {i : Nat} {l : Lexeme}

theorem Cut.exists_here (cut : Cut ls front) (hi : i ≤ front.length) : ∃ l, ls[i]? = some l := by
  obtain ⟨s, back, rfl⟩ := cut.split
  have bound : i < (front.map Token.lexeme ++ (.finish, s) :: back).length := by
    simp
    omega
  exact ⟨_, List.getElem?_eq_getElem bound⟩

/-- A token that is no finish is left behind. -/
theorem Cut.token (cut : Cut ls front) (hi : i ≤ front.length) (here : ls[i]? = some l)
    (unfinished : l.1 ≠ .finish) :
    ∃ t, t.lexeme = l ∧ front.drop i = t :: front.drop (advance ls i) ∧ i < advance ls i ∧
      advance ls i ≤ front.length := by
  obtain ⟨s, back, rfl⟩ := cut.split
  rcases Nat.lt_or_eq_of_le hi with inside | rfl
  · rw [List.getElem?_append_left (by simpa using inside), List.getElem?_map,
      List.getElem?_eq_getElem inside, Option.map_some, Option.some.injEq] at here
    have room : i + 1 < (front.map Token.lexeme ++ (.finish, s) :: back).length := by
      simp
      omega
    rw [advance, if_pos room]
    exact ⟨front[i], here, List.drop_eq_getElem_cons inside, Nat.lt_succ_self i, inside⟩
  · rw [List.getElem?_append_right (by simp)] at here
    have finish : ((.finish, s) : Lexeme) = l := by simpa using here
    rw [← finish] at unfinished
    exact absurd rfl unfinished

theorem Cut.drop_of_finish (cut : Cut ls front) (hi : i ≤ front.length) (here : ls[i]? = some l)
    (finish : l.1 = .finish) : front.drop i = [] := by
  obtain ⟨s, back, rfl⟩ := cut.split
  rcases Nat.lt_or_eq_of_le hi with inside | rfl
  · rw [List.getElem?_append_left (by simpa using inside)] at here
    obtain ⟨t, ht, rfl⟩ := List.mem_map.mp (List.mem_of_getElem? here)
    exact absurd finish (cut.unfinished t ht)
  · exact List.drop_length

end Cut

/-- A reader that starts at index `i` gives `value`, and leaves off at index `j`. -/
structure Reaches {α : Type} (front : List Token) (i : Nat) (r : Reading α (front.drop i))
    (value : α) (j : Nat) : Prop where
  le : i ≤ j
  bound : j ≤ front.length
  gives : r.Gives value (front.drop j)

section Reaches

variable {ls : List Lexeme} {front : List Token}

theorem Skips.reaches {kind : TokenKind} {i j : Nat} (cut : Cut ls front) (h : Skips ls kind i j)
    (hi : i ≤ front.length) :
    i ≤ j ∧ j ≤ front.length ∧ skipTo kind (front.drop i) = front.drop j := by
  induction h with
  | @stop i l here stops =>
    refine ⟨Nat.le_refl _, hi, ?_⟩
    by_cases finish : l.1 = .finish
    · rw [cut.drop_of_finish hi here finish]
      rfl
    · obtain ⟨t, rfl, drop, _⟩ := cut.token hi here finish
      have same : t.kind = kind := stops.resolve_right finish
      rw [drop, skipTo, List.dropWhile_cons_of_neg (by simp [same])]
  | pass here other unfinished _ ih =>
    obtain ⟨t, rfl, drop, step, le⟩ := cut.token hi here unfinished
    obtain ⟨further, bound, skipped⟩ := ih le
    refine ⟨step.le.trans further, bound, ?_⟩
    have passed : t.kind ≠ kind := other
    rw [drop, skipTo, List.dropWhile_cons_of_pos (by simp [passed])]
    exact skipped

theorem ClosesAt.reaches {node : Node} {tag : Option Node} {i j : Nat} (cut : Cut ls front)
    (h : ClosesAt ls node i tag j) (hi : i ≤ front.length) :
    Reaches front i (closeTag node (front.drop i)) tag j := by
  cases h with
  | closed here =>
    obtain ⟨t, ht, drop, step, le⟩ := cut.token hi here nofun
    refine ⟨step.le, le, ?_⟩
    rw [drop]
    exact closeTag_closing node (kind_of_lexeme ht)
  | @dropped _ l here other skip =>
    obtain ⟨le, bound, skipped⟩ := skip.reaches cut hi
    refine ⟨le, bound, ?_⟩
    rw [← skipped]
    by_cases finish : l.1 = .finish
    · rw [cut.drop_of_finish hi here finish]
      exact ⟨rfl, rfl⟩
    · obtain ⟨t, rfl, drop, _⟩ := cut.token hi here finish
      rw [drop]
      exact closeTag_other node other

mutual

/-- What is read by index is what the readers give, one rule for each of their steps. -/
theorem NodesAt.reaches (cut : Cut ls front) {depth i j : Nat} {nodes : List Node} :
    NodesAt ls depth i nodes j → i ≤ front.length →
      Reaches front i (readNodes (maxDepth - depth) (front.drop i)) nodes j
  | .text (s := s) here rest, hi => by
    obtain ⟨t, ht, drop, step, le⟩ := cut.token hi here nofun
    have more := NodesAt.reaches cut rest le
    have text : t.text = s := congrArg Prod.snd ht
    refine ⟨step.le.trans more.le, more.bound, ?_⟩
    rw [drop, ← text]
    exact readNodes_text (kind_of_lexeme ht) more.gives
  | .tag here room one rest, hi => by
    obtain ⟨t, ht, drop, step, le⟩ := cut.token hi here nofun
    have tag := TagAt.reaches cut one le
    have more := NodesAt.reaches cut rest tag.bound
    have levels : maxDepth - depth = maxDepth - (depth + 1) + 1 := by omega
    refine ⟨step.le.trans (tag.le.trans more.le), more.bound, ?_⟩
    have gives := more.gives
    rw [levels] at gives ⊢
    rw [drop]
    exact readNodes_opening (kind_of_lexeme ht) tag.gives gives
  | .deep here full skip rest, hi => by
    obtain ⟨t, ht, drop, step, le⟩ := cut.token hi here nofun
    obtain ⟨before, bound, skipped⟩ := skip.reaches cut le
    have more := NodesAt.reaches cut rest bound
    have levels : maxDepth - depth = 0 := by omega
    refine ⟨step.le.trans (before.trans more.le), more.bound, ?_⟩
    have gives := more.gives
    rw [levels, ← skipped] at gives
    rw [levels, drop]
    exact readNodes_deep (kind_of_lexeme ht) gives
  | .stop (l := l) here text opening, hi => by
    refine ⟨Nat.le_refl _, hi, ?_⟩
    by_cases finish : l.1 = .finish
    · rw [cut.drop_of_finish hi here finish]
      exact readNodes_nil
    · obtain ⟨t, rfl, drop, _⟩ := cut.token hi here finish
      rw [drop]
      exact readNodes_stop text opening

theorem TagAt.reaches (cut : Cut ls front) {depth i j : Nat} {tag : Option Node} :
    TagAt ls depth i tag j → i ≤ front.length →
      Reaches front i (readTag (maxDepth - depth) (front.drop i)) tag j
  | .named (s := s) here body, hi => by
    obtain ⟨t, ht, drop, step, le⟩ := cut.token hi here nofun
    have text : t.text = s := congrArg Prod.snd ht
    have rest := BodyAt.reaches cut body le
    refine ⟨step.le.trans rest.le, rest.bound, ?_⟩
    have gives := rest.gives
    rw [← text] at gives
    rw [drop]
    exact readTag_text (kind_of_lexeme ht) gives
  | .nested (s := s) here nodes body, hi => by
    -- the opening is left for the nodes that the tag starts with
    obtain ⟨t, ht, drop, _⟩ := cut.token hi here nofun
    have text : t.text = s := congrArg Prod.snd ht
    have first := NodesAt.reaches cut nodes hi
    have rest := BodyAt.reaches cut body first.bound
    refine ⟨Nat.le_trans first.le rest.le, rest.bound, ?_⟩
    have gives := rest.gives
    have firstGives := first.gives
    rw [← text] at gives
    rw [drop] at firstGives ⊢
    exact readTag_opening (kind_of_lexeme ht) firstGives gives
  | .nameless (l := l) here text opening skip, hi => by
    obtain ⟨le, bound, skipped⟩ := skip.reaches cut hi
    refine ⟨le, bound, ?_⟩
    rw [← skipped]
    by_cases finish : l.1 = .finish
    · rw [cut.drop_of_finish hi here finish]
      exact readTag_nil
    · obtain ⟨t, rfl, drop, _⟩ := cut.token hi here finish
      rw [drop]
      exact readTag_other text opening

theorem BodyAt.reaches (cut : Cut ls front) {depth i j : Nat} {name : String}
    {first : Option (List Node)} {tag : Option Node} :
    BodyAt ls depth name first i tag j → i ≤ front.length →
      Reaches front i (readBody (maxDepth - depth) name first (front.drop i)) tag j
  | .condition here nodes otherwise close, hi => by
    obtain ⟨t, ht, drop, step, le⟩ := cut.token hi here nofun
    have yes := NodesAt.reaches cut nodes le
    have no := ElseAt.reaches cut otherwise yes.bound
    have rest := close.reaches cut no.bound
    refine ⟨step.le.trans (yes.le.trans (no.le.trans rest.le)), rest.bound, ?_⟩
    rw [drop]
    exact readBody_bar (kind_of_lexeme ht) yes.gives no.gives rest.gives
  | .disjunction here others close, hi => by
    obtain ⟨t, ht, drop, step, le⟩ := cut.token hi here nofun
    have more := AlternativesAt.reaches cut others hi
    have rest := close.reaches cut more.bound
    refine ⟨more.le.trans rest.le, rest.bound, ?_⟩
    have gives := more.gives
    rw [drop] at gives ⊢
    exact readBody_doubleBar (kind_of_lexeme ht) gives rest.gives
  | .plain (l := l) here bar single close, hi => by
    have rest := close.reaches cut hi
    refine ⟨rest.le, rest.bound, ?_⟩
    have gives := rest.gives
    by_cases finish : l.1 = .finish
    · rw [cut.drop_of_finish hi here finish] at gives ⊢
      rw [readBody]
      exact gives
    · obtain ⟨t, rfl, drop, _⟩ := cut.token hi here finish
      rw [drop] at gives ⊢
      exact readBody_other bar single gives

theorem ElseAt.reaches (cut : Cut ls front) {depth i j : Nat} {no : Option (List Node)} :
    ElseAt ls depth i no j → i ≤ front.length →
      Reaches front i (readElse (maxDepth - depth) (front.drop i)) no j
  | .some here nodes, hi => by
    obtain ⟨t, ht, drop, step, le⟩ := cut.token hi here nofun
    have rest := NodesAt.reaches cut nodes le
    refine ⟨step.le.trans rest.le, rest.bound, ?_⟩
    rw [drop]
    exact readElse_bar (kind_of_lexeme ht) rest.gives
  | .none (l := l) here bar, hi => by
    refine ⟨Nat.le_refl _, hi, ?_⟩
    by_cases finish : l.1 = .finish
    · rw [cut.drop_of_finish hi here finish]
      exact readElse_nil
    · obtain ⟨t, rfl, drop, _⟩ := cut.token hi here finish
      rw [drop]
      exact readElse_other bar

theorem AlternativesAt.reaches (cut : Cut ls front) {depth i j : Nat}
    {others : List (List Node)} :
    AlternativesAt ls depth i others j → i ≤ front.length →
      Reaches front i (readAlternatives (maxDepth - depth) (front.drop i)) others j
  | .more here nodes rest, hi => by
    obtain ⟨t, ht, drop, step, le⟩ := cut.token hi here nofun
    have next := NodesAt.reaches cut nodes le
    have more := AlternativesAt.reaches cut rest next.bound
    refine ⟨step.le.trans (next.le.trans more.le), more.bound, ?_⟩
    rw [drop]
    exact readAlternatives_doubleBar (kind_of_lexeme ht) next.gives more.gives
  | .none (l := l) here doubleBar, hi => by
    refine ⟨Nat.le_refl _, hi, ?_⟩
    by_cases finish : l.1 = .finish
    · rw [cut.drop_of_finish hi here finish]
      exact readAlternatives_nil
    · obtain ⟨t, rfl, drop, _⟩ := cut.token hi here finish
      rw [drop]
      exact readAlternatives_other doubleBar

end

theorem exists_skips (cut : Cut ls front) (kind : TokenKind) {i : Nat} (hi : i ≤ front.length) :
    ∃ j, Skips ls kind i j := by
  induction h : front.length - i using Nat.strong_induction_on generalizing i with
  | h n ih =>
    obtain ⟨l, here⟩ := cut.exists_here hi
    by_cases stops : l.1 = kind ∨ l.1 = .finish
    · exact ⟨i, .stop here stops⟩
    · obtain ⟨other, unfinished⟩ := not_or.mp stops
      -- one token less before the finish
      obtain ⟨_, _, _, step, le⟩ := cut.token hi here unfinished
      obtain ⟨j, rest⟩ := ih _ (by omega) le rfl
      exact ⟨j, .pass here other unfinished rest⟩

theorem exists_closes (cut : Cut ls front) (node : Node) {i : Nat} (hi : i ≤ front.length) :
    ∃ tag j, ClosesAt ls node i tag j := by
  obtain ⟨⟨kind, s⟩, here⟩ := cut.exists_here hi
  by_cases closing : kind = .closing
  · rw [closing] at here
    exact ⟨_, _, .closed here⟩
  · obtain ⟨j, skip⟩ := exists_skips cut .opening hi
    exact ⟨none, j, .dropped here closing skip⟩

/-- Nodes and alternatives are read at every index with fewer than `n` tokens before the finish. -/
structure ReadAbove (ls : List Lexeme) (front : List Token) (n : Nat) : Prop where
  nodes : ∀ depth i, i ≤ front.length → front.length < i + n → ∃ nodes j, NodesAt ls depth i nodes j
  alternatives : ∀ depth i, i ≤ front.length → front.length < i + n →
    ∃ others j, AlternativesAt ls depth i others j

section Above

variable {n i : Nat} (depth : Nat) (cut : Cut ls front) (ih : ReadAbove ls front n)
include cut ih

theorem exists_else (hi : i ≤ front.length) (near : front.length < i + n) :
    ∃ no j, ElseAt ls depth i no j := by
  obtain ⟨⟨kind, s⟩, here⟩ := cut.exists_here hi
  by_cases bar : kind = .bar
  · rw [bar] at here
    obtain ⟨_, _, _, step, le⟩ := cut.token hi here nofun
    obtain ⟨no, j, nodes⟩ := ih.nodes depth _ le (by omega)
    exact ⟨some no, j, .some here nodes⟩
  · exact ⟨none, i, .none here bar⟩

theorem exists_body (name : String) (first : Option (List Node)) (hi : i ≤ front.length)
    (near : front.length < i + n) : ∃ tag j, BodyAt ls depth name first i tag j := by
  obtain ⟨⟨kind, s⟩, here⟩ := cut.exists_here hi
  by_cases bar : kind = .bar
  · rw [bar] at here
    obtain ⟨_, _, _, step, le⟩ := cut.token hi here nofun
    obtain ⟨yes, k, nodes⟩ := ih.nodes depth _ le (by omega)
    have behind := nodes.reaches cut le
    obtain ⟨no, m, otherwise⟩ := exists_else depth cut ih behind.bound
      (Nat.lt_of_lt_of_le near (Nat.add_le_add_right (step.le.trans behind.le) n))
    obtain ⟨tag, j, close⟩ := exists_closes cut (.condition name yes no)
      (otherwise.reaches cut behind.bound).bound
    exact ⟨tag, j, .condition here nodes otherwise close⟩
  · by_cases single : kind = .doubleBar → first = none
    · obtain ⟨tag, j, close⟩ := exists_closes cut (.tag name) hi
      exact ⟨tag, j, .plain here bar single close⟩
    · obtain ⟨rfl, some⟩ := Classical.not_imp.mp single
      -- no token is passed here: each alternative starts with its double bar
      obtain ⟨nodes, rfl⟩ := Option.ne_none_iff_exists'.mp some
      obtain ⟨more, k, others⟩ := ih.alternatives depth i hi near
      obtain ⟨tag, j, close⟩ := exists_closes cut (.disjunction (nodes :: more))
        (others.reaches cut hi).bound
      exact ⟨tag, j, .disjunction here others close⟩

theorem exists_tag (hi : i ≤ front.length) (near : front.length < i + n) :
    ∃ tag j, TagAt ls depth i tag j := by
  obtain ⟨⟨kind, s⟩, here⟩ := cut.exists_here hi
  by_cases text : kind = .text
  · rw [text] at here
    obtain ⟨_, _, _, step, le⟩ := cut.token hi here nofun
    obtain ⟨tag, j, body⟩ := exists_body depth cut ih (normalizeName s) none le (by omega)
    exact ⟨tag, j, .named here body⟩
  · by_cases opening : kind = .opening
    · rw [opening] at here
      obtain ⟨first, k, nodes⟩ := ih.nodes depth i hi near
      have behind := nodes.reaches cut hi
      obtain ⟨tag, j, body⟩ := exists_body depth cut ih (normalizeName s) (some first)
        behind.bound (Nat.lt_of_lt_of_le near (Nat.add_le_add_right behind.le n))
      exact ⟨tag, j, .nested here nodes body⟩
    · obtain ⟨j, skip⟩ := exists_skips cut .closing hi
      exact ⟨none, j, .nameless here text opening skip⟩

theorem exists_nodes (hi : i ≤ front.length) (near : front.length < i + (n + 1)) :
    ∃ nodes j, NodesAt ls depth i nodes j := by
  obtain ⟨⟨kind, s⟩, here⟩ := cut.exists_here hi
  by_cases text : kind = .text
  · rw [text] at here
    obtain ⟨_, _, _, step, le⟩ := cut.token hi here nofun
    obtain ⟨nodes, j, rest⟩ := ih.nodes depth _ le (by omega)
    exact ⟨_, j, .text here rest⟩
  · by_cases opening : kind = .opening
    · rw [opening] at here
      obtain ⟨_, _, _, step, le⟩ := cut.token hi here nofun
      have shorter : front.length < advance ls i + n := by omega
      rcases Nat.lt_or_ge depth maxDepth with room | full
      · obtain ⟨tag, k, one⟩ := exists_tag (depth + 1) cut ih le shorter
        have behind := one.reaches cut le
        obtain ⟨nodes, j, rest⟩ := ih.nodes depth k behind.bound
          (Nat.lt_of_lt_of_le shorter (Nat.add_le_add_right behind.le n))
        exact ⟨_, j, .tag here room one rest⟩
      · obtain ⟨k, skip⟩ := exists_skips cut .closing le
        obtain ⟨behind, bound, _⟩ := skip.reaches cut le
        obtain ⟨nodes, j, rest⟩ := ih.nodes depth k bound
          (Nat.lt_of_lt_of_le shorter (Nat.add_le_add_right behind n))
        exact ⟨nodes, j, .deep here full skip rest⟩
    · exact ⟨[], i, .stop here text opening⟩

theorem exists_alternatives (hi : i ≤ front.length) (near : front.length < i + (n + 1)) :
    ∃ others j, AlternativesAt ls depth i others j := by
  obtain ⟨⟨kind, s⟩, here⟩ := cut.exists_here hi
  by_cases doubleBar : kind = .doubleBar
  · rw [doubleBar] at here
    obtain ⟨_, _, _, step, le⟩ := cut.token hi here nofun
    have shorter : front.length < advance ls i + n := by omega
    obtain ⟨next, k, nodes⟩ := ih.nodes depth _ le shorter
    have behind := nodes.reaches cut le
    obtain ⟨others, j, rest⟩ := ih.alternatives depth k behind.bound
      (Nat.lt_of_lt_of_le shorter (Nat.add_le_add_right behind.le n))
    exact ⟨_, j, .more here nodes rest⟩
  · exact ⟨[], i, .none here doubleBar⟩

end Above

theorem readAbove (cut : Cut ls front) (n : Nat) : ReadAbove ls front n := by
  induction n with
  | zero =>
    exact ⟨fun _ _ hi near => absurd near hi.not_gt, fun _ _ hi near => absurd near hi.not_gt⟩
  | succ n ih =>
    exact ⟨fun depth _ hi near => exists_nodes depth cut ih hi near,
      fun depth _ hi near => exists_alternatives depth cut ih hi near⟩

end Reaches

/-- The nodes of a token list are what is read by index, and nothing else is. -/
theorem nodesAt_iff (ts : List Token) (nodes : List Node) :
    (∃ stop, NodesAt (terminated (ts.map Token.lexeme)) 0 0 nodes stop) ↔
      nodes = parseTokens ts := by
  have cut := cut_terminated ts
  have sound {other : List Node} {stop : Nat}
      (h : NodesAt (terminated (ts.map Token.lexeme)) 0 0 other stop) : other = parseTokens ts :=
    (h.reaches cut (Nat.zero_le _)).gives.1.symm
  constructor
  · rintro ⟨stop, h⟩
    exact sound h
  · rintro rfl
    obtain ⟨nodes, stop, h⟩ := (readAbove cut _).nodes 0 0 (Nat.zero_le _)
      (Nat.lt_add_left 0 (Nat.lt_succ_self _))
    have same := sound h
    rw [same] at h
    exact ⟨stop, h⟩

/-- Where a token was found does not matter to what is read. -/
theorem parseTokens_congr {ts us : List Token}
    (same : ts.map Token.lexeme = us.map Token.lexeme) : parseTokens ts = parseTokens us := by
  have h := (nodesAt_iff ts (parseTokens ts)).mpr rfl
  rw [same] at h
  exact (nodesAt_iff us _).mp h

end SongPattern.Pattern

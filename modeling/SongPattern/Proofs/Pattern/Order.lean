import Mathlib.Data.List.Forall2
import SongPattern.Proofs.Pattern.Descent
import SongPattern.Proofs.Pattern.Mention
import SongPattern.Proofs.Pattern.Seam

namespace SongPattern.Pattern

/-- A literal is the text of a text token. A name is that of a token that can start a tag, as names
are read. -/
def Mention.Of : Mention → Lexeme → Prop
  | .literal s, l => l.1 = .text ∧ s = l.2
  | .tag name, l | .predicate name, l =>
    (l.1 = .text ∨ l.1 = .opening) ∧ name = normalizeName l.2

/-- Each mention is of a token of its own, at one index behind the other. -/
def Found (ls : List Lexeme) (mentions : List Mention) (i j : Nat) : Prop :=
  ∃ places : List Nat, places.Pairwise (· < ·) ∧ (∀ p ∈ places, i ≤ p ∧ p < j) ∧
    List.Forall₂ (fun m p => ∃ l, ls[p]? = some l ∧ Mention.Of m l) mentions places

section Found

variable {ls : List Lexeme} {i j k : Nat} {m : Mention} {mentions more : List Mention}

theorem found_nil (ls : List Lexeme) (i j : Nat) : Found ls [] i j := ⟨[], .nil, nofun, .nil⟩

theorem Found.mono {i' j' : Nat} (h : Found ls mentions i j) (hi : i' ≤ i) (hj : j ≤ j') :
    Found ls mentions i' j' := by
  obtain ⟨places, ordered, bounds, of⟩ := h
  exact ⟨places, ordered,
    fun p hp => ⟨hi.trans (bounds p hp).1, Nat.lt_of_lt_of_le (bounds p hp).2 hj⟩, of⟩

theorem Found.append (h : Found ls mentions i j) (hm : Found ls more j k) (hi : i ≤ j)
    (hk : j ≤ k) : Found ls (mentions ++ more) i k := by
  obtain ⟨front, ordered, bounds, of⟩ := h
  obtain ⟨back, ordered', bounds', of'⟩ := hm
  refine ⟨front ++ back, List.pairwise_append.mpr ⟨ordered, ordered', ?_⟩, ?_,
    List.rel_append of of'⟩
  · intro p hp q hq
    exact Nat.lt_of_lt_of_le (bounds p hp).2 (bounds' q hq).1
  · rw [List.forall_mem_append]
    exact ⟨fun p hp => ⟨(bounds p hp).1, Nat.lt_of_lt_of_le (bounds p hp).2 hk⟩,
      fun p hp => ⟨hi.trans (bounds' p hp).1, (bounds' p hp).2⟩⟩

theorem Found.cons {l : Lexeme} (here : ls[i]? = some l) (of : m.Of l)
    (h : Found ls mentions j k) (hi : i < j) (hk : j ≤ k) : Found ls (m :: mentions) i k := by
  have one : Found ls [m] i j :=
    ⟨[i], List.pairwise_singleton _ _, List.forall_mem_singleton.mpr ⟨Nat.le_refl _, hi⟩,
      .cons ⟨l, here, of⟩ .nil⟩
  exact one.append h hi.le hk

end Found

section Order

variable {ls : List Lexeme} {front : List Token} {depth i j : Nat}

/-- What a closed tag mentions is kept, and what is dropped mentions nothing. -/
theorem ClosesAt.found {node : Node} {tag : Option Node} {p : Nat} (cut : Cut ls front)
    (h : ClosesAt ls node i tag j) (hi : i ≤ front.length)
    (inside : Found ls (mentionsOf [node]) p i) : Found ls (mentionsOf tag.toList) p j := by
  have behind := (h.reaches cut hi).le
  cases h with
  | closed => exact inside.mono (Nat.le_refl _) behind
  | dropped => exact found_nil ls p j

/-- An opening is always left behind. -/
theorem NodesAt.lt_of_opening {nodes : List Node} {s : String} (cut : Cut ls front)
    (h : NodesAt ls depth i nodes j) (hi : i ≤ front.length)
    (opening : ls[i]? = some (.opening, s)) : i < j := by
  obtain ⟨_, _, _, step, le⟩ := cut.token hi opening (by simp)
  cases h with
  | text here rest => exact step.trans_le (rest.reaches cut le).le
  | tag here room one rest =>
    have tag := one.reaches cut le
    exact step.trans_le (tag.le.trans (rest.reaches cut tag.bound).le)
  | deep here full skip rest =>
    obtain ⟨skipped, bound, _⟩ := skip.reaches cut le
    exact step.trans_le (skipped.trans (rest.reaches cut bound).le)
  | stop here text other =>
    rw [opening] at here
    cases here
    exact absurd rfl other

mutual

theorem NodesAt.found (cut : Cut ls front) {depth i j : Nat} {nodes : List Node} :
    NodesAt ls depth i nodes j → i ≤ front.length → Found ls (mentionsOf nodes) i j
  | .text here rest, hi => by
    obtain ⟨_, _, _, step, le⟩ := cut.token hi here nofun
    exact .cons here ⟨rfl, rfl⟩ (NodesAt.found cut rest le) step (rest.reaches cut le).le
  | .tag here room one rest, hi => by
    obtain ⟨_, _, _, step, le⟩ := cut.token hi here nofun
    have tag := one.reaches cut le
    have first := (TagAt.found cut one le).mono step.le (Nat.le_refl _)
    rw [mentionsOf_append]
    exact first.append (NodesAt.found cut rest tag.bound) (step.le.trans tag.le)
      (rest.reaches cut tag.bound).le
  | .deep here full skip rest, hi => by
    obtain ⟨_, _, _, step, le⟩ := cut.token hi here nofun
    obtain ⟨skipped, bound, _⟩ := skip.reaches cut le
    exact (NodesAt.found cut rest bound).mono (step.le.trans skipped) (Nat.le_refl _)
  | .stop .., _ => found_nil ls _ _

theorem TagAt.found (cut : Cut ls front) {depth i j : Nat} {tag : Option Node} :
    TagAt ls depth i tag j → i ≤ front.length → Found ls (mentionsOf tag.toList) i j
  | .named here body, hi => by
    obtain ⟨_, _, _, step, le⟩ := cut.token hi here nofun
    exact BodyAt.found cut body le here ⟨.inl rfl, rfl⟩ step nofun
  | .nested here nodes body, hi => by
    have first := nodes.reaches cut hi
    refine BodyAt.found cut body first.bound here ⟨.inr rfl, rfl⟩
      (nodes.lt_of_opening cut hi here) ?_
    rintro _ ⟨⟩
    exact NodesAt.found cut nodes hi
  | .nameless .., _ => found_nil ls _ _

/-- The name of a tag is found where the tag starts; so is what the nodes that it starts with
mention. Only one of both is kept. -/
theorem BodyAt.found (cut : Cut ls front) {depth i j p : Nat} {s : String} {kind : TokenKind}
    {name : String} {first : Option (List Node)} {tag : Option Node} :
    BodyAt ls depth name first i tag j → i ≤ front.length → ls[p]? = some (kind, s) →
      (kind = .text ∨ kind = .opening) ∧ name = normalizeName s → p < i →
      (∀ nodes ∈ first, Found ls (mentionsOf nodes) p i) → Found ls (mentionsOf tag.toList) p j
  | .condition here nodes otherwise close, hi, start, named, before, _ => by
    obtain ⟨_, _, _, step, le⟩ := cut.token hi here nofun
    have yes := nodes.reaches cut le
    have no := otherwise.reaches cut yes.bound
    have branches := (NodesAt.found cut nodes le).append (ElseAt.found cut otherwise yes.bound)
      yes.le no.le
    refine close.found cut no.bound ?_
    rw [mentionsOf_condition]
    exact .cons start named branches (before.trans step) (yes.le.trans no.le)
  | .disjunction here others close, hi, start, named, before, first => by
    have more := others.reaches cut hi
    refine close.found cut more.bound ?_
    rw [mentionsOf_disjunction]
    exact (first _ rfl).append (AlternativesAt.found cut others hi) before.le more.le
  | .plain here bar single close, hi, start, named, before, _ =>
    close.found cut hi (.cons start named (found_nil ls _ _) before (Nat.le_refl _))

theorem ElseAt.found (cut : Cut ls front) {depth i j : Nat} {no : Option (List Node)} :
    ElseAt ls depth i no j → i ≤ front.length → Found ls (mentionsOf (no.getD [])) i j
  | .some here nodes, hi => by
    obtain ⟨_, _, _, step, le⟩ := cut.token hi here nofun
    exact (NodesAt.found cut nodes le).mono step.le (Nat.le_refl _)
  | .none .., _ => found_nil ls _ _

theorem AlternativesAt.found (cut : Cut ls front) {depth i j : Nat}
    {others : List (List Node)} :
    AlternativesAt ls depth i others j → i ≤ front.length → Found ls (mentionsOfEach others) i j
  | .more here nodes rest, hi => by
    obtain ⟨_, _, _, step, le⟩ := cut.token hi here nofun
    have next := nodes.reaches cut le
    exact ((NodesAt.found cut nodes le).mono step.le (Nat.le_refl _)).append
      (AlternativesAt.found cut rest next.bound) (step.le.trans next.le)
      (rest.reaches cut next.bound).le
  | .none .., _ => found_nil ls _ _

end

end Order

theorem depthOf_condition (predicate : String) (yes : List Node) (no : Option (List Node)) :
    depthOf [.condition predicate yes no] = max (depthOf yes) (depthOf (no.getD [])) + 1 := by
  cases no <;> simp [depthOf, Node.depth]

theorem depthOf_disjunction (alternatives : List (List Node)) :
    depthOf [.disjunction alternatives] = depthOfEach alternatives + 1 := by
  simp [depthOf, Node.depth]

section Depth

variable {ls : List Lexeme}

theorem ClosesAt.depth_le {node : Node} {tag : Option Node} {i j levels : Nat}
    (h : ClosesAt ls node i tag j) (node_le : depthOf [node] ≤ levels) :
    depthOf tag.toList ≤ levels := by
  cases h with
  | closed => exact node_le
  | dropped => exact Nat.zero_le _

mutual

theorem NodesAt.depth_le {depth i j : Nat} {nodes : List Node} :
    NodesAt ls depth i nodes j → depthOf nodes ≤ maxDepth - depth
  | .text here rest => by
    rw [depthOf]
    exact Nat.max_le.mpr ⟨Nat.zero_le _, NodesAt.depth_le rest⟩
  | .tag here room one rest => by
    have tag := TagAt.depth_le one
    have levels : maxDepth - (depth + 1) + 1 = maxDepth - depth := by omega
    rw [levels] at tag
    rw [depthOf_append]
    exact Nat.max_le.mpr ⟨tag, NodesAt.depth_le rest⟩
  | .deep here full skip rest => NodesAt.depth_le rest
  | .stop .. => Nat.zero_le _

theorem TagAt.depth_le {depth i j : Nat} {tag : Option Node} :
    TagAt ls depth i tag j → depthOf tag.toList ≤ maxDepth - depth + 1
  | .named here body => BodyAt.depth_le body nofun
  | .nested here nodes body => by
    refine BodyAt.depth_le body ?_
    rintro _ ⟨⟩
    exact NodesAt.depth_le nodes
  | .nameless .. => Nat.zero_le _

theorem BodyAt.depth_le {depth i j : Nat} {name : String} {first : Option (List Node)}
    {tag : Option Node} :
    BodyAt ls depth name first i tag j → (∀ nodes ∈ first, depthOf nodes ≤ maxDepth - depth) →
      depthOf tag.toList ≤ maxDepth - depth + 1
  | .condition here nodes otherwise close, _ => by
    refine close.depth_le ?_
    rw [depthOf_condition]
    exact Nat.succ_le_succ (Nat.max_le.mpr ⟨NodesAt.depth_le nodes, ElseAt.depth_le otherwise⟩)
  | .disjunction here others close, first => by
    refine close.depth_le ?_
    rw [depthOf_disjunction, depthOfEach]
    exact Nat.succ_le_succ (Nat.max_le.mpr ⟨first _ rfl, AlternativesAt.depth_le others⟩)
  | .plain here bar single close, _ => close.depth_le (Nat.succ_le_succ (Nat.zero_le _))

theorem ElseAt.depth_le {depth i j : Nat} {no : Option (List Node)} :
    ElseAt ls depth i no j → depthOf (no.getD []) ≤ maxDepth - depth
  | .some here nodes => NodesAt.depth_le nodes
  | .none .. => Nat.zero_le _

theorem AlternativesAt.depth_le {depth i j : Nat} {others : List (List Node)} :
    AlternativesAt ls depth i others j → depthOfEach others ≤ maxDepth - depth
  | .more here nodes rest => by
    rw [depthOfEach]
    exact Nat.max_le.mpr ⟨NodesAt.depth_le nodes, AlternativesAt.depth_le rest⟩
  | .none .. => Nat.zero_le _

end

end Depth

/-- What is no finish stands in the token list itself, at the same index. -/
theorem getElem?_terminated {ls : List Lexeme} {p : Nat} {l : Lexeme}
    (h : (terminated ls)[p]? = some l) (unfinished : l.1 ≠ .finish) : ls[p]? = some l := by
  rw [terminated] at h
  split at h
  · exact h
  · rw [List.getElem?_append] at h
    split at h
    · exact h
    · have finish := List.mem_singleton.mp (List.mem_of_getElem? h)
      rw [finish] at unfinished
      exact absurd rfl unfinished

theorem Mention.Of.unfinished {m : Mention} {l : Lexeme} (h : m.Of l) : l.1 ≠ .finish := by
  obtain ⟨kind, s⟩ := l
  rintro rfl
  cases m with
  | literal => cases h.1
  | tag | predicate => rcases h.1 with h | h <;> cases h

/-- Any token list is read by index in finitely many steps, without leaving it, and in one way only.
What is read is not too deep, and mentions the texts of some of the tokens, in their order. -/
theorem parseTokens_inOrder (ts : List Token) :
    (∀ nodes, (∃ stop, NodesAt (terminated (ts.map Token.lexeme)) 0 0 nodes stop) ↔
      nodes = parseTokens ts) ∧
    depthOf (parseTokens ts) ≤ maxDepth ∧
    ∃ places : List Nat, places.Pairwise (· < ·) ∧
      List.Forall₂ (fun m p => ∃ t, ts[p]? = some t ∧ Mention.Of m t.lexeme)
        (mentionsOf (parseTokens ts)) places := by
  obtain ⟨stop, h⟩ := (nodesAt_iff ts (parseTokens ts)).mpr rfl
  refine ⟨nodesAt_iff ts, h.depth_le, ?_⟩
  obtain ⟨places, ordered, _, of⟩ := h.found (cut_terminated ts) (Nat.zero_le _)
  refine ⟨places, ordered, of.imp ?_⟩
  rintro m p ⟨l, hl, hm⟩
  have own := getElem?_terminated hl hm.unfinished
  rw [List.getElem?_map, Option.map_eq_some_iff] at own
  obtain ⟨t, ht, rfl⟩ := own
  exact ⟨t, ht, hm⟩

end SongPattern.Pattern

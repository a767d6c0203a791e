import Mathlib.Data.List.Forall2
import SongPattern.Proofs.Program.Mention
import SongPattern.Proofs.Program.Recall

namespace SongPattern.Program

open Pattern (Node Mention mentionsOf mentionsOfEach allIdle predicatesOf)

def Instr.query? : Instr → Option Nat
  | .query index _ => some index
  | _ => none

/-- A predicate that is a query is loaded where its answer is not known yet. -/
def newQuery (parser : QueryParser) (known : List String) (predicate : String) : List String :=
  if predicate ∈ known ∨ parser predicate = none then [] else [predicate]

/-- What is known behind a node. -/
def knownBehind (parser : QueryParser) (known : List String) : Node → List String
  | .condition predicate yes no =>
    if allIdle yes && allIdle (no.getD []) then known
    else newQuery parser known predicate ++ known
  | .text _ | .tag _ | .disjunction _ => known

mutual

/-- The predicates that a query is put into the code for, in their order, where those in `known`
have their answers. There is no code for an idle condition. -/
def queriedIn (parser : QueryParser) (known : List String) : Node → List String
  | .text _ | .tag _ => []
  | .condition predicate yes none =>
    if allIdle yes then []
    else
      newQuery parser known predicate ++
        queriedOf parser (newQuery parser known predicate ++ known) yes
  | .condition predicate yes (some no) =>
    if allIdle yes && allIdle no then []
    else
      newQuery parser known predicate ++
        (queriedOf parser (newQuery parser known predicate ++ known) yes ++
          queriedOf parser (newQuery parser known predicate ++ known) no)
  | .disjunction alternatives => queriedOfEach parser known alternatives

def queriedOf (parser : QueryParser) (known : List String) : List Node → List String
  | [] => []
  | node :: nodes =>
    queriedIn parser known node ++ queriedOf parser (knownBehind parser known node) nodes

def queriedOfEach (parser : QueryParser) (known : List String) : List (List Node) → List String
  | [] => []
  | nodes :: more => queriedOf parser known nodes ++ queriedOfEach parser known more

end

theorem not_mem_asked {parser : QueryParser} {p : Progress} {text : String}
    (h : p.Recorded parser) (new : p.matcherIndex.lookup text = none)
    (other : text ∉ p.notQueries) : text ∉ p.asked := by
  rw [h.index] at new
  rw [h.others] at other
  intro mem
  cases query : parser text with
  | none => exact other (List.mem_filter.mpr ⟨mem, by simp [query]⟩)
  | some matcher => exact not_mem_of_lookup new (List.mem_filter.mpr ⟨mem, by simp [query]⟩)

theorem asked_ask {parser : QueryParser} {p : Progress} (h : p.Recorded parser) (text : String) :
    (p.ask parser text).2.asked = addNew p.asked [text] := by
  unfold Progress.ask
  cases known : p.matcherIndex.lookup text with
  | some index =>
    rw [h.index] at known
    have seen : text ∈ accepted parser p.asked := List.mem_of_getElem? (finds_of_lookup known)
    exact (addNew_of_mem (List.mem_filter.mp seen).1).symm
  | none =>
    dsimp only
    split
    next other =>
      rw [h.others] at other
      exact (addNew_of_mem (List.mem_filter.mp other).1).symm
    next other =>
      have step : addNew p.asked [text] = p.asked ++ [text] :=
        if_neg (not_mem_asked h known other)
      rw [step, Progress.askNew]
      split <;> rfl

/-- What is known of the predicates where the compiler has `scope` and `p`: those in `known` have
their answers in slots, and all of them were asked about. -/
structure Informed (parser : QueryParser) (known : List String) (scope : Scope) (p : Progress) :
    Prop where
  answers : scope.queries.map (·.1) = known
  asked : ∀ text ∈ known, text ∈ p.asked
  recorded : p.Recorded parser

/-- A part of the pattern with these predicates was compiled behind `p`. The queries in its code are
for `queried`, and the predicates in `known` have their answers behind it. -/
structure Block.Asks (parser : QueryParser) (p : Progress) (b : Block)
    (predicates queried known : List String) : Prop where
  asked : b.progress.asked = addNew p.asked predicates
  before : p.asked <+: b.progress.asked
  informed : Informed parser known b.scope b.progress
  queries : List.Forall₂ (fun index text => Finds parser b.progress.asked text (some index))
    (b.code.filterMap Instr.query?) queried

theorem queries_moved (start : Nat) (code : List Instr) :
    (moved start code).filterMap Instr.query? = code.filterMap Instr.query? := by
  rw [moved, List.filterMap_map]
  congr 1
  funext instr
  cases instr <;> rfl

theorem queries_append (code block : List Instr) :
    (append code block).filterMap Instr.query? =
      code.filterMap Instr.query? ++ block.filterMap Instr.query? := by
  rw [append_eq, List.filterMap_append, queries_moved]

theorem queries_branch (slot : Nat) (yes no : List Instr) :
    (branch slot [] yes no).filterMap Instr.query? =
      yes.filterMap Instr.query? ++ no.filterMap Instr.query? := by
  by_cases emptyYes : yes = []
  · subst emptyYes
    by_cases emptyNo : no = []
    · subst emptyNo
      rfl
    · rw [branch_no slot [] emptyNo, queries_append, queries_append]
      rfl
  · by_cases emptyNo : no = []
    · subst emptyNo
      rw [branch_yes slot [] emptyYes, queries_append, queries_append, List.filterMap_nil,
        List.append_nil]
      rfl
    · rw [branch_both slot [] emptyYes emptyNo, queries_append, queries_append, queries_append,
        queries_append]
      rfl

theorem queries_laidOut (mark stop start : Nat) (blocks : List (List Instr)) :
    (laidOut mark stop start blocks).filterMap Instr.query? =
      blocks.flatten.filterMap Instr.query? := by
  induction blocks generalizing start with
  | nil => rfl
  | cons block blocks ih =>
    rw [laidOut, List.filterMap_append, queries_moved, List.filterMap_cons_none rfl, ih,
      List.flatten_cons, List.filterMap_append]

section Asks

variable {literal : String → String} {parser : QueryParser} {known : List String} {scope : Scope}
  {p q : Progress}

theorem Informed.later (h : Informed parser known scope p) (before : p.asked <+: q.asked)
    (recorded : q.Recorded parser) : Informed parser known scope q :=
  ⟨h.answers, fun text ht => before.subset (h.asked text ht), recorded⟩

/-- Code without queries changes nothing here. -/
theorem Informed.asks (h : Informed parser known scope p) {code : List Instr}
    (none : code.filterMap Instr.query? = []) :
    Block.Asks parser p ⟨code, scope, p⟩ [] [] known :=
  ⟨rfl, List.prefix_refl _, h, none ▸ .nil⟩

theorem found_mono {texts later queried : List String} {queries : List Nat}
    (h : List.Forall₂ (fun index text => Finds parser texts text (some index)) queries queried)
    (hp : texts <+: later) :
    List.Forall₂ (fun index text => Finds parser later text (some index)) queries queried :=
  h.imp fun _ _ found => found.mono hp

theorem Block.Asks.append {first rest : Block} {preds preds' queried queried' known' : List String}
    (hf : first.Asks parser p preds queried known)
    (hr : rest.Asks parser first.progress preds' queried' known') :
    Block.Asks parser p { rest with code := append first.code rest.code } (preds ++ preds')
      (queried ++ queried') known' := by
  refine ⟨?_, hf.before.trans hr.before, hr.informed, ?_⟩
  · rw [addNew_append, ← hf.asked]
    exact hr.asked
  · rw [queries_append]
    exact List.rel_append (found_mono hf.queries hr.before) hr.queries

theorem asks_loadValue (h : Informed parser known scope p) (key : String) :
    (loadValue key scope p).block.Asks parser p [] [] known := by
  unfold loadValue
  split
  · exact h.asks rfl
  · exact ⟨rfl, List.prefix_refl _, ⟨h.answers, h.asked, h.recorded⟩, .nil⟩

theorem asks_loadPredicate (h : Informed parser known scope p) (predicate : String) :
    (loadPredicate parser predicate scope p).block.Asks parser p [predicate]
      (newQuery parser known predicate) (newQuery parser known predicate ++ known) := by
  unfold loadPredicate newQuery
  cases hl : scope.queries.lookup predicate with
  | some slot =>
    have old : predicate ∈ known := by
      rw [← h.answers]
      exact List.mem_map_of_mem (mem_of_lookup hl)
    rw [if_pos (.inl old)]
    exact ⟨(addNew_of_mem (h.asked _ old)).symm, List.prefix_refl _, h, .nil⟩
  | none =>
    -- it may have been asked about elsewhere, so the table decides and not the scope
    have new : predicate ∉ known := by
      rw [← h.answers, List.mem_map]
      rintro ⟨entry, he, rfl⟩
      have other := List.lookup_eq_none_iff.mp hl entry he
      simp at other
    obtain ⟨before, _, recorded, finds⟩ := ask_correct h.recorded predicate
    have asked := asked_ask h.recorded predicate
    rcases hask : p.ask parser predicate with ⟨index?, q⟩
    rw [hask] at asked before recorded finds
    have informed := h.later before.asked recorded
    cases index? with
    | none =>
      have value := asks_loadValue informed predicate
      rw [if_pos (.inr finds)]
      exact ⟨value.asked.trans asked, before.asked.trans value.before, value.informed,
        value.queries⟩
    | some index =>
      obtain ⟨matcher, query, _⟩ := finds.matcher
      have accepted : ¬(predicate ∈ known ∨ parser predicate = none) := by simp [new, query]
      rw [if_neg accepted]
      refine ⟨asked, before.asked, ⟨congrArg (predicate :: ·) h.answers, ?_, recorded⟩,
        .cons finds .nil⟩
      rw [List.singleton_append, List.forall_mem_cons]
      refine ⟨?_, informed.asked⟩
      have mem : predicate ∈ addNew p.asked [predicate] :=
        mem_addNew_iff.mpr (.inr (List.mem_singleton_self predicate))
      rwa [← asked] at mem

/-- A condition has the queries of its predicate and of its branches, unless nothing is put into the
code for them. -/
theorem asks_conditionBlock {load : Loaded} {yes no : Block} {predicate : String}
    {new preds preds' queried queried' known' known'' : List String} {idle : Bool}
    (h : Informed parser known scope p)
    (hl : load.block.Asks parser p [predicate] new (new ++ known))
    (hy : yes.Asks parser load.block.progress preds queried known')
    (hn : no.Asks parser yes.progress preds' queried' known'')
    (hi : idle = true ↔ yes.code = [] ∧ no.code = []) :
    (conditionBlock scope load yes no).Asks parser p (predicate :: (preds ++ preds'))
      (if idle then [] else new ++ (queried ++ queried'))
      (if idle then known else new ++ known) := by
  have asked : no.progress.asked = addNew p.asked (predicate :: (preds ++ preds')) := by
    rw [hn.asked, hy.asked, hl.asked, ← addNew_append, ← addNew_append]
    rfl
  have behind := hy.before.trans hn.before
  have before := hl.before.trans behind
  by_cases none : yes.code = [] ∧ no.code = []
  · rw [conditionBlock_of_nil none, if_pos (hi.mpr none), if_pos (hi.mpr none)]
    -- its code and its slot are dropped, what was asked is not
    exact ⟨asked, before, h.later before hn.informed.recorded, .nil⟩
  · rw [conditionBlock_of_not_nil none, if_neg (mt hi.mp none), if_neg (mt hi.mp none)]
    refine ⟨asked, before, hl.informed.later behind hn.informed.recorded, ?_⟩
    rw [queries_append, queries_branch]
    refine List.rel_append (found_mono hl.queries behind) ?_
    exact List.rel_append (found_mono hy.queries hn.before) hn.queries

theorem asks_compile :
    (∀ node known scope p, Informed parser known scope p →
      (compileNode literal parser node scope p).Asks parser p
        (node.mentions.filterMap Mention.predicate?) (queriedIn parser known node)
        (knownBehind parser known node)) ∧
    (∀ nodes known scope p, Informed parser known scope p → ∃ known',
      (compileNodes literal parser nodes scope p []).Asks parser p (predicatesOf nodes)
        (queriedOf parser known nodes) known') ∧
    ∀ alternatives known scope p, Informed parser known scope p →
      Block.Asks parser p
        ⟨(blocksOf literal parser alternatives scope p).flatten, scope,
          progressBehind literal parser alternatives scope p⟩
        ((mentionsOfEach alternatives).filterMap Mention.predicate?)
        (queriedOfEach parser known alternatives) known := by
  apply Node.induction
  case text =>
    intro s known scope p h
    rw [compileNode]
    exact h.asks rfl
  case tag =>
    intro name known scope p h
    have added : Informed parser known scope (p.addTags (Pattern.tagParts name)) :=
      ⟨h.answers, h.asked, h.recorded⟩
    have load := asks_loadValue added name
    rw [compileNode, Node.mentions]
    refine ⟨load.asked, load.before, load.informed, ?_⟩
    rw [List.filterMap_append]
    exact List.rel_append load.queries .nil
  case when =>
    intro predicate yes ih known scope p h
    have load := asks_loadPredicate h predicate
    obtain ⟨_, branch⟩ := ih _ _ _ load.informed
    have without := h.later (load.before.trans branch.before) branch.informed.recorded
    have whole := asks_conditionBlock h load branch (without.asks rfl)
      ((code_eq_nil_iff.2.1 yes _ _).symm.trans (and_iff_left rfl).symm)
    rw [List.append_nil, List.append_nil] at whole
    rw [compileNode, Node.mentions, queriedIn, knownBehind, Option.getD_none, allIdle,
      Bool.and_true]
    exact whole
  case either =>
    intro predicate yes no ihyes ihno known scope p h
    have load := asks_loadPredicate h predicate
    obtain ⟨_, first⟩ := ihyes _ _ _ load.informed
    obtain ⟨_, second⟩ := ihno _ _ _ (load.informed.later first.before first.informed.recorded)
    have whole := asks_conditionBlock h load first second (Bool.and_eq_true_iff.trans
      (and_congr (code_eq_nil_iff.2.1 yes _ _) (code_eq_nil_iff.2.1 no _ _)).symm)
    have own : (Mention.predicate predicate :: (mentionsOf yes ++ mentionsOf no)).filterMap
        Mention.predicate? = predicate :: (predicatesOf yes ++ predicatesOf no) :=
      congrArg (predicate :: ·) List.filterMap_append
    rw [compileNode, Node.mentions, own, queriedIn, knownBehind, Option.getD_some]
    exact whole
  case disjunction =>
    intro alternatives ih known scope p h
    have marked : Informed parser known scope { p with marks := p.marks + 1 } :=
      ⟨h.answers, h.asked, h.recorded⟩
    have each := ih known scope _ marked
    rw [compileNode_disjunction, Node.mentions, queriedIn, knownBehind]
    refine ⟨each.asked, each.before, each.informed, ?_⟩
    rw [List.filterMap_cons_none rfl, queries_laidOut]
    exact each.queries
  case nil =>
    intro known scope p h
    rw [compileNodes]
    exact ⟨known, h.asks rfl⟩
  case cons =>
    intro node nodes ihnode ihnodes known scope p h
    have first := ihnode _ _ _ h
    obtain ⟨known', rest⟩ := ihnodes _ _ _ first.informed
    have whole := first.append rest
    refine ⟨known', ?_⟩
    rw [compileNodes_cons, predicatesOf, mentionsOf, List.filterMap_append, queriedOf]
    exact whole
  case none =>
    intro known scope p h
    exact h.asks rfl
  case more =>
    intro nodes alternatives ihnodes ihmore known scope p h
    obtain ⟨_, first⟩ := ihnodes known scope p h
    have others := ihmore known scope _ (h.later first.before first.informed.recorded)
    have before := first.before.trans others.before
    rw [mentionsOfEach, List.filterMap_append, queriedOfEach, blocksOf, progressBehind]
    refine ⟨?_, before, h.later before others.informed.recorded, ?_⟩
    · rw [addNew_append]
      exact others.asked.trans (congrArg (addNew · _) first.asked)
    · rw [List.flatten_cons, List.filterMap_append]
      exact List.rel_append (found_mono first.queries others.before) others.queries

end Asks

section Congr

variable {literal : String → String} {parser other : QueryParser}

theorem loadPredicate_congr {predicate : String} (same : other predicate = parser predicate)
    (scope : Scope) (p : Progress) :
    loadPredicate other predicate scope p = loadPredicate parser predicate scope p := by
  have ask : p.ask other predicate = p.ask parser predicate := by
    unfold Progress.ask Progress.askNew
    rw [same]
  rw [loadPredicate, loadPredicate, ask]

theorem compile_congr :
    (∀ node, (∀ text ∈ node.mentions.filterMap Mention.predicate?, other text = parser text) →
      compileNode literal other node = compileNode literal parser node) ∧
    (∀ nodes, (∀ text ∈ predicatesOf nodes, other text = parser text) →
      compileNodes literal other nodes = compileNodes literal parser nodes) ∧
    ∀ alternatives,
      (∀ text ∈ (mentionsOfEach alternatives).filterMap Mention.predicate?,
        other text = parser text) → ∀ mark,
      compileAlternatives literal other mark alternatives =
        compileAlternatives literal parser mark alternatives := by
  apply Node.induction
  case text =>
    intro s _
    rfl
  case tag =>
    intro name _
    rfl
  case when =>
    intro predicate yes ih h
    rw [Node.mentions, List.filterMap_cons] at h
    obtain ⟨own, branch⟩ := List.forall_mem_cons.mp h
    funext scope p
    rw [compileNode, compileNode, loadPredicate_congr own, ih branch]
  case either =>
    intro predicate yes no ihyes ihno h
    rw [Node.mentions, List.filterMap_cons, List.filterMap_append] at h
    obtain ⟨own, branches⟩ := List.forall_mem_cons.mp h
    obtain ⟨hyes, hno⟩ := List.forall_mem_append.mp branches
    funext scope p
    rw [compileNode, compileNode, loadPredicate_congr own, ihyes hyes, ihno hno]
  case disjunction =>
    intro alternatives ih h
    rw [Node.mentions] at h
    funext scope p
    rw [compileNode, compileNode, ih h]
  case nil =>
    intro _
    rfl
  case cons =>
    intro node nodes ihnode ihnodes h
    rw [predicatesOf, mentionsOf, List.filterMap_append, List.forall_mem_append] at h
    funext scope p code
    rw [compileNodes, compileNodes, ihnode h.1, ihnodes h.2]
  case none =>
    intro _ mark
    rfl
  case more =>
    intro nodes alternatives ihnodes ihmore h mark
    rw [mentionsOfEach, List.filterMap_append, List.forall_mem_append] at h
    funext scope p code checks
    rw [compileAlternatives, compileAlternatives, ihnodes h.1, ihmore h.2]

end Congr

/-- A compilation asks whether a text is a query for the predicates of all conditions, in their
order and once each, and for nothing else. The queries of the program are those that were accepted,
in this order, and each query in the code is the one that the predicate it is for was read as. -/
theorem compile_asks (mode : Mode) (literal : String → String) (parser : QueryParser)
    (nodes : List Node) :
    let c := compile mode literal parser nodes
    c.asked = (predicatesOf nodes).eraseDups ∧
    (∀ other : QueryParser, (∀ text ∈ c.asked, other text = parser text) →
      compile mode literal other nodes = c) ∧
    c.program.queries = c.asked.filterMap parser ∧
    List.Forall₂ (fun index text => ∃ matcher, parser text = some matcher ∧
        c.program.queries[index]? = some matcher ∧
        (c.asked.filter fun text => (parser text).isSome)[index]? = some text)
      (c.program.code.filterMap Instr.query?) (queriedOf parser [] nodes) := by
  intro c
  have start : Informed parser [] .empty .start := ⟨rfl, nofun, ⟨rfl, rfl, rfl⟩⟩
  obtain ⟨_, asks⟩ := @asks_compile literal parser |>.2.1 nodes [] .empty .start start
  have asked : c.asked = (predicatesOf nodes).eraseDups := asks.asked.trans (addNew_nil _)
  have queries : c.program.queries = c.asked.filterMap parser := asks.informed.recorded.matchers
  refine ⟨asked, ?_, queries, ?_⟩
  · intro other same
    have all : ∀ text ∈ predicatesOf nodes, other text = parser text := by
      rw [asked] at same
      exact fun text ht => same text (List.mem_eraseDups.mpr ht)
    rw [compile, compile_congr.2.1 nodes all]
    rfl
  · rw [queries]
    refine asks.queries.imp fun index text found => ?_
    obtain ⟨matcher, query, place⟩ := found.matcher
    exact ⟨matcher, query, place, found⟩

/-- A query is asked about once, and put into the code wherever its answer may not be there yet. -/
theorem compile_asks_twice :
    let parser : QueryParser := fun text => if text = "a" then none else some fun _ => true
    let other : QueryParser := fun text => if text = "c" then none else parser text
    let nodes : List Node := [.condition "b" [] none,
      .condition "a" [.condition "x" [.text "1"] none] none, .condition "x" [.text "2"] none]
    let c := compile .joined id parser nodes
    c.asked = ["b", "a", "x"] ∧ (∀ text ∈ c.asked, other text = parser text) ∧
      compile .joined id other nodes = c ∧ c.program.code.filterMap Instr.query? = [1, 1] ∧
      queriedOf parser [] nodes = ["x", "x"] := by
  intro parser other nodes c
  have asks := compile_asks .joined id parser nodes
  have asked : c.asked = ["b", "a", "x"] := asks.1.trans (by decide +kernel)
  have same : ∀ text ∈ c.asked, other text = parser text := by
    rw [asked]
    simp [other]
  exact ⟨asked, same, asks.2.1 other same, by decide +kernel, by decide +kernel⟩

end SongPattern.Program

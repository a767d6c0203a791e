import SongPattern.Proofs.Program.Code

namespace SongPattern.Program

open Pattern (Node)

variable {literal : String → String} {parser : QueryParser} {scope : Scope} {p q : Progress}

/-- The texts that the parser takes for queries. -/
def accepted (parser : QueryParser) (texts : List String) : List String :=
  texts.filter fun text => (parser text).isSome

def refused (parser : QueryParser) (texts : List String) : List String :=
  texts.filter fun text => (parser text).isNone

/-- The tables hold the answers to the texts that the parser was asked about, and no others. -/
structure Tables (parser : QueryParser) (asked : List String) (matchers : List Matcher)
    (matcherIndex : List (String × Nat)) (notQueries : List String) : Prop where
  matchers : matchers = asked.filterMap parser
  index : matcherIndex = (accepted parser asked).zipIdx
  others : notQueries = refused parser asked

def Progress.Recorded (parser : QueryParser) (p : Progress) : Prop :=
  Tables parser p.asked p.matchers p.matcherIndex p.notQueries

structure Progress.Before (p q : Progress) : Prop where
  slots : p.slots ≤ q.slots
  marks : p.marks ≤ q.marks
  asked : p.asked <+: q.asked
  matchers : p.matchers <+: q.matchers

theorem Progress.Before.refl (p : Progress) : p.Before p :=
  ⟨Nat.le_refl _, Nat.le_refl _, List.prefix_refl _, List.prefix_refl _⟩

theorem Progress.Before.trans {p q s : Progress} (h₁ : p.Before q) (h₂ : q.Before s) :
    p.Before s :=
  ⟨Nat.le_trans h₁.slots h₂.slots, Nat.le_trans h₁.marks h₂.marks, h₁.asked.trans h₂.asked,
    h₁.matchers.trans h₂.matchers⟩

/-- `index?` tells rightly where `text` stands among the asked texts that are queries. -/
def Finds (parser : QueryParser) (asked : List String) (text : String) : Option Nat → Prop
  | none => parser text = none
  | some index => (accepted parser asked)[index]? = some text

theorem getElem?_filterMap {α β : Type} (f : α → Option β) (as : List α) (i : Nat) :
    (as.filterMap f)[i]? = (as.filter fun a => (f a).isSome)[i]?.bind f := by
  induction as generalizing i with
  | nil => rfl
  | cons a as ih =>
    cases found : f a with
    | none => rw [List.filterMap_cons_none found, List.filter_cons_of_neg (by simp [found]), ih]
    | some b =>
      rw [List.filterMap_cons_some found, List.filter_cons_of_pos (by simp [found])]
      cases i with
      | zero => exact found.symm
      | succ i => exact ih i

theorem length_accepted (parser : QueryParser) (texts : List String) :
    (accepted parser texts).length = (texts.filterMap parser).length := by
  rw [accepted, List.length_filterMap_eq_countP, List.countP_eq_length_filter]

theorem Finds.matcher {asked : List String} {text : String} {index : Nat}
    (h : Finds parser asked text (some index)) :
    ∃ matcher, parser text = some matcher ∧ (asked.filterMap parser)[index]? = some matcher := by
  have mem : text ∈ accepted parser asked := List.mem_of_getElem? h
  obtain ⟨matcher, query⟩ := Option.isSome_iff_exists.mp (List.mem_filter.mp mem).2
  refine ⟨matcher, query, ?_⟩
  rw [getElem?_filterMap]
  exact (congrArg (·.bind parser) h).trans query

theorem Finds.mono {asked later : List String} {text : String} {index : Nat}
    (h : Finds parser asked text (some index)) (hp : asked <+: later) :
    Finds parser later text (some index) := by
  obtain ⟨bound, _⟩ := List.getElem?_eq_some_iff.mp h
  obtain ⟨rest, whole⟩ := hp.filter fun text => (parser text).isSome
  rw [Finds, accepted, ← whole]
  exact (List.getElem?_append_left bound).trans h

theorem mem_of_lookup {α : Type} {key : String} {value : α} {entries : List (String × α)}
    (h : entries.lookup key = some value) : (key, value) ∈ entries := by
  obtain ⟨before, after, rfl, _⟩ := List.lookup_eq_some_iff.mp h
  exact List.mem_append_right _ List.mem_cons_self

theorem finds_of_lookup {asked : List String} {text : String} {index : Nat}
    (h : (accepted parser asked).zipIdx.lookup text = some index) :
    Finds parser asked text (some index) :=
  List.mem_zipIdx_iff_getElem?.mp (mem_of_lookup h)

theorem not_mem_of_lookup {texts : List String} {text : String}
    (h : texts.zipIdx.lookup text = none) : text ∉ texts := by
  intro mem
  obtain ⟨i, _, place⟩ := List.getElem_of_mem mem
  have entry : (text, i) ∈ texts.zipIdx :=
    List.mem_zipIdx_iff_getElem?.mpr (List.getElem?_eq_some_iff.mpr ⟨_, place⟩)
  have other := List.lookup_eq_none_iff.mp h _ entry
  simp at other

/-- What an answer is, and that the tables are kept. -/
theorem askNew_correct (h : p.Recorded parser) (text : String) :
    (p.askNew parser text).2.Recorded parser ∧
      Finds parser (p.askNew parser text).2.asked text (p.askNew parser text).1 := by
  unfold Progress.askNew
  cases query : parser text with
  | none =>
    refine ⟨⟨?_, ?_, ?_⟩, query⟩
    · rw [List.filterMap_append, List.filterMap_cons_none query, List.filterMap_nil,
        List.append_nil, h.matchers]
    · rw [accepted, List.filter_append, List.filter_cons_of_neg (by simp [query]), List.filter_nil,
        List.append_nil]
      exact h.index
    · rw [refused, List.filter_append, List.filter_cons_of_pos (by simp [query]), List.filter_nil,
        h.others]
      rfl
  | some matcher =>
    have last : accepted parser (p.asked ++ [text]) = accepted parser p.asked ++ [text] := by
      rw [accepted, List.filter_append, List.filter_cons_of_pos (by simp [query]), List.filter_nil]
      rfl
    have place : p.matchers.length = (accepted parser p.asked).length := by
      rw [h.matchers, length_accepted]
    refine ⟨⟨?_, ?_, ?_⟩, ?_⟩
    · rw [List.filterMap_append, List.filterMap_cons_some query, List.filterMap_nil, h.matchers]
    · rw [last, List.zipIdx_append, ← h.index, place, Nat.zero_add]
      rfl
    · rw [refused, List.filter_append, List.filter_cons_of_neg (by simp [query]), List.filter_nil,
        List.append_nil]
      exact h.others
    · dsimp only
      rw [Finds, last, place, List.getElem?_concat_length]

theorem before_askNew (p : Progress) (text : String) : p.Before (p.askNew parser text).2 := by
  unfold Progress.askNew
  split
  · exact ⟨Nat.le_refl _, Nat.le_refl _, List.prefix_append _ _, List.prefix_append _ _⟩
  · exact ⟨Nat.le_refl _, Nat.le_refl _, List.prefix_append _ _, List.prefix_refl _⟩

theorem ask_correct (h : p.Recorded parser) (text : String) :
    p.Before (p.ask parser text).2 ∧ (p.ask parser text).2.slots = p.slots ∧
      (p.ask parser text).2.Recorded parser ∧
      Finds parser (p.ask parser text).2.asked text (p.ask parser text).1 := by
  unfold Progress.ask
  cases known : p.matcherIndex.lookup text with
  | some index =>
    rw [h.index] at known
    exact ⟨.refl p, rfl, h, finds_of_lookup known⟩
  | none =>
    dsimp only
    split
    next seen =>
      rw [h.others] at seen
      exact ⟨.refl p, rfl, h, Option.isNone_iff_eq_none.mp (List.mem_filter.mp seen).2⟩
    · obtain ⟨recorded, finds⟩ := askNew_correct h text
      refine ⟨before_askNew p text, ?_, recorded, finds⟩
      unfold Progress.askNew
      split <;> rfl

def Scope.Below (scope : Scope) (n : Nat) : Prop :=
  (∀ entry ∈ scope.values, entry.2 < n) ∧ ∀ entry ∈ scope.queries, entry.2 < n

theorem Scope.Below.mono {m n : Nat} (h : scope.Below m) (hle : m ≤ n) : scope.Below n :=
  ⟨fun entry he => Nat.lt_of_lt_of_le (h.1 entry he) hle,
    fun entry he => Nat.lt_of_lt_of_le (h.2 entry he) hle⟩

theorem Scope.Below.addValue {n : Nat} (h : scope.Below n) (key : String) :
    Scope.Below { scope with values := (key, n) :: scope.values } (n + 1) := by
  have hm := h.mono (Nat.le_succ n)
  refine ⟨?_, hm.2⟩
  intro entry he
  rcases List.mem_cons.mp he with rfl | he
  · exact Nat.lt_succ_self n
  · exact hm.1 entry he

theorem Scope.Below.addQuery {n : Nat} (h : scope.Below n) (text : String) :
    Scope.Below { scope with queries := (text, n) :: scope.queries } (n + 1) := by
  have hm := h.mono (Nat.le_succ n)
  refine ⟨hm.1, ?_⟩
  intro entry he
  rcases List.mem_cons.mp he with rfl | he
  · exact Nat.lt_succ_self n
  · exact hm.2 entry he

/-- All slots of the scope have been handed out, and the tables are right. -/
structure Ready (parser : QueryParser) (scope : Scope) (p : Progress) : Prop where
  below : scope.Below p.slots
  recorded : p.Recorded parser

theorem ready_start (parser : QueryParser) : Ready parser .empty .start :=
  ⟨⟨nofun, nofun⟩, ⟨rfl, rfl, rfl⟩⟩

/-- Behind a part of the pattern, the scope in front of it can be gone on with. -/
theorem Ready.later {scope' : Scope} (h : Ready parser scope p) (before : p.Before q)
    (behind : Ready parser scope' q) : Ready parser scope q :=
  ⟨h.below.mono before.slots, behind.recorded⟩

/-- What compiling a part of the pattern does to the counts and tables. -/
structure Leaves (parser : QueryParser) (p : Progress) (scope : Scope) (q : Progress) : Prop where
  before : p.Before q
  ready : Ready parser scope q

theorem Leaves.refl (h : Ready parser scope p) : Leaves parser p scope p := ⟨.refl p, h⟩

/-- A predicate is answered by its own query slot, or as the value of the tag of that name. -/
def Tells (parser : QueryParser) (predicate : String) (scope : Scope) (slot : Nat) : Prop :=
  (predicate, slot) ∈ scope.queries ∨
    parser predicate = none ∧ (predicate, slot) ∈ scope.values

theorem Tells.lt {predicate : String} {slot n : Nat} (h : Tells parser predicate scope slot)
    (below : scope.Below n) : slot < n := by
  rcases h with h | ⟨_, h⟩
  · exact below.2 _ h
  · exact below.1 _ h

theorem leaves_loadValue (key : String) (h : Ready parser scope p) :
    Leaves parser p (loadValue key scope p).block.scope (loadValue key scope p).block.progress := by
  unfold loadValue
  cases scope.values.lookup key with
  | some slot => exact .refl h
  | none =>
    exact ⟨⟨Nat.le_succ _, Nat.le_refl _, List.prefix_refl _, List.prefix_refl _⟩,
      ⟨h.below.addValue key, h.recorded⟩⟩

theorem mem_loadValue (key : String) (scope : Scope) (p : Progress) :
    (key, (loadValue key scope p).slot) ∈ (loadValue key scope p).block.scope.values := by
  unfold loadValue
  cases known : scope.values.lookup key with
  | some slot => exact mem_of_lookup known
  | none => exact List.mem_cons_self

theorem ready_ask (h : Ready parser scope p) (text : String) :
    Ready parser scope (p.ask parser text).2 := by
  obtain ⟨_, slots, recorded, _⟩ := ask_correct h.recorded text
  refine ⟨?_, recorded⟩
  rw [slots]
  exact h.below

theorem leaves_loadPredicate (predicate : String) (h : Ready parser scope p) :
    Leaves parser p (loadPredicate parser predicate scope p).block.scope
      (loadPredicate parser predicate scope p).block.progress := by
  unfold loadPredicate
  cases scope.queries.lookup predicate with
  | some slot => exact .refl h
  | none =>
    have before := (ask_correct h.recorded predicate).1
    have ready := ready_ask h predicate
    rcases asked : p.ask parser predicate with ⟨index?, q⟩
    rw [asked] at before ready
    cases index? with
    | none =>
      have value := leaves_loadValue predicate ready
      exact ⟨before.trans value.before, value.ready⟩
    | some index =>
      exact ⟨⟨Nat.le_succ_of_le before.slots, before.marks, before.asked, before.matchers⟩,
        ⟨ready.below.addQuery predicate, ready.recorded⟩⟩

theorem tells_loadPredicate (predicate : String) (h : Ready parser scope p) :
    Tells parser predicate (loadPredicate parser predicate scope p).block.scope
      (loadPredicate parser predicate scope p).slot := by
  unfold loadPredicate
  cases known : scope.queries.lookup predicate with
  | some slot => exact .inl (mem_of_lookup known)
  | none =>
    obtain ⟨_, _, _, finds⟩ := ask_correct h.recorded predicate
    rcases asked : p.ask parser predicate with ⟨index?, q⟩
    rw [asked] at finds
    cases index? with
    | none => exact .inr ⟨finds, mem_loadValue predicate scope q⟩
    | some index => exact .inl List.mem_cons_self

theorem leaves_conditionBlock {load : Loaded} {yes no : Block} (h : Ready parser scope p)
    (hl : Leaves parser p load.block.scope load.block.progress)
    (hyes : Leaves parser load.block.progress yes.scope yes.progress)
    (hno : Leaves parser yes.progress no.scope no.progress) :
    Leaves parser p (conditionBlock scope load yes no).scope
      (conditionBlock scope load yes no).progress := by
  have behind := hyes.before.trans hno.before
  by_cases none : yes.code = [] ∧ no.code = []
  · rw [conditionBlock_of_nil none]
    exact ⟨hl.before.trans behind, h.later (hl.before.trans behind) hno.ready⟩
  · rw [conditionBlock_of_not_nil none]
    exact ⟨hl.before.trans behind, hl.ready.later behind hno.ready⟩

theorem Progress.before_addTags (p : Progress) (tags : List String) : p.Before (p.addTags tags) :=
  ⟨Nat.le_refl _, Nat.le_refl _, List.prefix_refl _, List.prefix_refl _⟩

theorem Ready.addTags (h : Ready parser scope p) (tags : List String) :
    Ready parser scope (p.addTags tags) := ⟨h.below, h.recorded⟩

theorem Progress.before_mark (p : Progress) : p.Before { p with marks := p.marks + 1 } :=
  ⟨Nat.le_refl _, Nat.le_succ _, List.prefix_refl _, List.prefix_refl _⟩

theorem Ready.mark (h : Ready parser scope p) :
    Ready parser scope { p with marks := p.marks + 1 } := ⟨h.below, h.recorded⟩

/-- One case for each kind of node. -/
theorem leaves_compile :
    (∀ node scope p, Ready parser scope p →
      Leaves parser p (compileNode literal parser node scope p).scope
        (compileNode literal parser node scope p).progress) ∧
    (∀ nodes scope p, Ready parser scope p →
      Leaves parser p (compileNodes literal parser nodes scope p []).scope
        (compileNodes literal parser nodes scope p []).progress) ∧
    ∀ alternatives scope p, Ready parser scope p →
      Leaves parser p scope (progressBehind literal parser alternatives scope p) := by
  apply Node.induction
  case text =>
    intro s scope p h
    exact .refl h
  case tag =>
    intro name scope p h
    have load := leaves_loadValue name (h.addTags (Pattern.tagParts name))
    exact ⟨(p.before_addTags _).trans load.before, load.ready⟩
  case when =>
    intro predicate yes ih scope p h
    have load := leaves_loadPredicate predicate h
    have hyes := ih _ _ load.ready
    have behind := h.later (load.before.trans hyes.before) hyes.ready
    exact leaves_conditionBlock h load hyes (.refl behind)
  case either =>
    intro predicate yes no ihyes ihno scope p h
    have load := leaves_loadPredicate predicate h
    have hyes := ihyes _ _ load.ready
    exact leaves_conditionBlock h load hyes (ihno _ _ (load.ready.later hyes.before hyes.ready))
  case disjunction =>
    intro alternatives ih scope p h
    have tried := ih scope _ h.mark
    rw [compileNode_disjunction]
    exact ⟨p.before_mark.trans tried.before, tried.ready⟩
  case nil =>
    intro scope p h
    exact .refl h
  case cons =>
    intro node nodes ihnode ihnodes scope p h
    have first := ihnode scope p h
    have rest := ihnodes _ _ first.ready
    rw [compileNodes_cons]
    exact ⟨first.before.trans rest.before, rest.ready⟩
  case none =>
    intro scope p h
    exact .refl h
  case more =>
    intro nodes alternatives ihnodes ihmore scope p h
    have first := ihnodes scope p h
    have rest := ihmore scope _ (h.later first.before first.ready)
    exact ⟨first.before.trans rest.before, rest.ready⟩

end SongPattern.Program

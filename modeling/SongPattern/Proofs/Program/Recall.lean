import SongPattern.Proofs.Program.Evaluator
import SongPattern.Proofs.Program.Progress

namespace SongPattern

namespace Pattern

mutual

/-- A condition with nothing in its branches but conditions of this kind. It renders nothing,
whatever its predicate says. -/
def Node.idle : Node → Bool
  | .text _ | .tag _ | .disjunction _ => false
  | .condition _ yes none => allIdle yes
  | .condition _ yes (some no) => allIdle yes && allIdle no

def allIdle : List Node → Bool
  | [] => true
  | node :: nodes => node.idle && allIdle nodes

end

end Pattern

namespace Program

open Pattern (Node allIdle)

/-- The values of tags and the answers of queries that are known at one point of a pattern. -/
structure Memo where
  values : List (String × Fragment)
  truths : List (String × Bool)

def Memo.empty : Memo := ⟨[], []⟩

inductive Lookup where
  | tag (key : String)
  | query (text : String)
  deriving DecidableEq

/-- What the source sees of a lookup. -/
def Lookup.access (mode : Mode) : Lookup → Access
  | .tag key =>
    match mode with
    | .joined => .joined key
    | .listed => .pairs key
  | .query _ => .song

/-- How far an evaluation has come: what it knows, what it has put out, and what it had to look up
for that, the oldest first. -/
structure Course where
  memo : Memo
  output : List Fragment
  lookups : List Lookup

def Course.start : Course := ⟨.empty, [], []⟩

def Course.emit (c : Course) (fragment : Fragment) : Course :=
  { c with output := c.output ++ [fragment] }

theorem Course.length_emit (c : Course) (fragment : Fragment) :
    (c.emit fragment).output.length = c.output.length + 1 := List.length_append

namespace Rendering

/-- Looks a tag up where its value is not known yet. -/
def recallValue (r : Rendering) (key : String) (c : Course) : Fragment × Course :=
  match c.memo.values.lookup key with
  | some value => (value, c)
  | none =>
    (r.value key,
      { c with
        memo := { c.memo with values := (key, r.value key) :: c.memo.values }
        lookups := c.lookups ++ [.tag key] })

/-- A predicate is a query where the parser takes it for one, and else the tag of that name. -/
def recallTruth (r : Rendering) (predicate : String) (c : Course) : Bool × Course :=
  match c.memo.truths.lookup predicate with
  | some truth => (truth, c)
  | none =>
    match r.parser predicate with
    | some matcher =>
      (matcher r.source.song,
        { c with
          memo := { c.memo with truths := (predicate, matcher r.source.song) :: c.memo.truths }
          lookups := c.lookups ++ [.query predicate] })
    | none =>
      let (value, c) := r.recallValue predicate c
      (!value.isEmpty, c)

mutual

/-- Renders a node and looks up what is not known there. A branch works on a memo of its own, and so
does an alternative: what stands behind them knows only what stood in front of them. -/
def recallNode (r : Rendering) : Node → Course → Course
  | .text s, c => c.emit (.text (r.literal s))
  | .tag name, c =>
    let (value, c) := r.recallValue name c
    c.emit value
  | .condition predicate yes none, c =>
    if allIdle yes then c
    else
      let (truth, c) := r.recallTruth predicate c
      if truth then { r.recallNodes yes c with memo := c.memo } else c
  | .condition predicate yes (some no), c =>
    if allIdle yes && allIdle no then c
    else
      let (truth, c) := r.recallTruth predicate c
      if truth then { r.recallNodes yes c with memo := c.memo }
      else { r.recallNodes no c with memo := c.memo }
  | .disjunction alternatives, c => r.recallAlternatives c.output.length alternatives c

def recallNodes (r : Rendering) : List Node → Course → Course
  | [], c => c
  | node :: nodes, c => r.recallNodes nodes (r.recallNode node c)

/-- An alternative that made the output longer than `start` is the last one that is tried, unless it
ends with an empty fragment: that one fragment is dropped. -/
def recallAlternatives (r : Rendering) (start : Nat) : List (List Node) → Course → Course
  | [], c => c
  | nodes :: more, c =>
    let tried := { r.recallNodes nodes c with memo := c.memo }
    if start < tried.output.length then
      if tried.output.getLast?.any (!·.isEmpty) then tried
      else r.recallAlternatives start more { tried with output := tried.output.dropLast }
    else r.recallAlternatives start more tried

end

/-- What a branch has looked up is forgotten behind it. -/
theorem recallNode_when (r : Rendering) (predicate : String) (yes : List Node) :
    r.recallNode (.condition predicate yes none) = fun c =>
      if allIdle yes then c
      else if (r.recallTruth predicate c).1 then
        { r.recallNodes yes (r.recallTruth predicate c).2 with
          memo := (r.recallTruth predicate c).2.memo }
      else (r.recallTruth predicate c).2 := by
  funext c
  rw [recallNode]

theorem recallNode_either (r : Rendering) (predicate : String) (yes no : List Node) :
    r.recallNode (.condition predicate yes (some no)) = fun c =>
      if allIdle yes && allIdle no then c
      else if (r.recallTruth predicate c).1 then
        { r.recallNodes yes (r.recallTruth predicate c).2 with
          memo := (r.recallTruth predicate c).2.memo }
      else
        { r.recallNodes no (r.recallTruth predicate c).2 with
          memo := (r.recallTruth predicate c).2.memo } := by
  funext c
  rw [recallNode]

theorem recallNode_disjunction (r : Rendering) (alternatives : List (List Node)) :
    r.recallNode (.disjunction alternatives) =
      fun c => r.recallAlternatives c.output.length alternatives c := by
  funext c
  rw [recallNode]

variable {r : Rendering}

theorem output_recallValue (key : String) (c : Course) :
    (r.recallValue key c).2.output = c.output := by
  unfold recallValue
  split <;> rfl

theorem output_recallTruth (predicate : String) (c : Course) :
    (r.recallTruth predicate c).2.output = c.output := by
  unfold recallTruth
  split
  · rfl
  · split
    · rfl
    · exact output_recallValue predicate c

theorem length_le_recall :
    (∀ node c, c.output.length ≤ (r.recallNode node c).output.length) ∧
    (∀ nodes c, c.output.length ≤ (r.recallNodes nodes c).output.length) ∧
    ∀ alternatives start c, start ≤ c.output.length →
      start ≤ (r.recallAlternatives start alternatives c).output.length := by
  apply Node.induction
  case text =>
    intro s c
    rw [recallNode, Course.length_emit]
    exact Nat.le_succ _
  case tag =>
    intro name c
    rw [recallNode, Course.length_emit, output_recallValue]
    exact Nat.le_succ _
  case when =>
    intro predicate yes ih c
    have asked := congrArg List.length (@output_recallTruth r predicate c)
    rw [recallNode]
    split
    · exact Nat.le_refl _
    · rw [← asked]
      dsimp only
      split
      · exact ih _
      · exact Nat.le_refl _
  case either =>
    intro predicate yes no ihyes ihno c
    have asked := congrArg List.length (@output_recallTruth r predicate c)
    rw [recallNode]
    split
    · exact Nat.le_refl _
    · rw [← asked]
      dsimp only
      split
      · exact ihyes _
      · exact ihno _
  case disjunction =>
    intro alternatives ih c
    rw [recallNode]
    exact ih _ c (Nat.le_refl _)
  case nil =>
    intro c
    exact Nat.le_refl _
  case cons =>
    intro node nodes ihnode ihnodes c
    rw [recallNodes]
    exact Nat.le_trans (ihnode c) (ihnodes _)
  case none =>
    intro start c h
    exact h
  case more =>
    intro nodes alternatives ihnodes ihmore start c h
    have grown := Nat.le_trans h (ihnodes c)
    rw [recallAlternatives]
    dsimp only
    split
    next longer =>
      split
      · exact grown
      · refine ihmore start _ ?_
        rw [List.length_dropLast]
        exact Nat.le_sub_one_of_lt longer
    · exact ihmore start _ grown

/-- What is remembered is what would be looked up. -/
structure Remembers (r : Rendering) (memo : Memo) : Prop where
  values : ∀ entry ∈ memo.values, entry.2 = r.value entry.1
  truths : ∀ entry ∈ memo.truths, entry.2 = r.truth entry.1

theorem remembers_empty : r.Remembers .empty := ⟨nofun, nofun⟩

theorem recallValue_correct {c : Course} (h : r.Remembers c.memo) (key : String) :
    (r.recallValue key c).1 = r.value key ∧ r.Remembers (r.recallValue key c).2.memo := by
  unfold recallValue
  cases known : c.memo.values.lookup key with
  | some value => exact ⟨h.values _ (mem_of_lookup known), h⟩
  | none => exact ⟨rfl, List.forall_mem_cons.mpr ⟨rfl, h.values⟩, h.truths⟩

theorem recallTruth_correct {c : Course} (h : r.Remembers c.memo) (predicate : String) :
    (r.recallTruth predicate c).1 = r.truth predicate ∧
      r.Remembers (r.recallTruth predicate c).2.memo := by
  unfold recallTruth
  cases known : c.memo.truths.lookup predicate with
  | some truth => exact ⟨h.truths _ (mem_of_lookup known), h⟩
  | none =>
    dsimp only
    cases query : r.parser predicate with
    | some matcher =>
      have truth : matcher r.source.song = r.truth predicate := by rw [Rendering.truth, query]
      exact ⟨truth, h.values, List.forall_mem_cons.mpr ⟨truth, h.truths⟩⟩
    | none =>
      obtain ⟨value, remembers⟩ := recallValue_correct h predicate
      refine ⟨?_, remembers⟩
      rw [truth_of_tag query]
      exact congrArg (fun value : Fragment => !value.isEmpty) value

theorem nodes_of_idle :
    (∀ node : Node, node.idle = true → ∀ out, r.node node out = out) ∧
    (∀ nodes, allIdle nodes = true → ∀ out, r.nodes nodes out = out) ∧
    ∀ _ : List (List Node), True := by
  apply Node.induction
  case text =>
    intro s h
    cases h
  case tag =>
    intro name h
    cases h
  case when =>
    intro predicate yes ih h out
    rw [Node.idle] at h
    rw [Rendering.node, ih h, ite_self]
  case either =>
    intro predicate yes no ihyes ihno h out
    rw [Node.idle, Bool.and_eq_true] at h
    rw [Rendering.node, ihyes h.1, ihno h.2, ite_self]
  case disjunction =>
    intro alternatives _ h
    cases h
  case nil =>
    intro _ out
    rfl
  case cons =>
    intro node nodes ihnode ihnodes h out
    rw [allIdle, Bool.and_eq_true] at h
    rw [Rendering.nodes, ihnode h.1, ihnodes h.2]
  case none => trivial
  case more => exact fun _ _ _ _ => trivial

/-- Remembering what was looked up cannot be seen in the output. -/
theorem recall_correct :
    (∀ node c, r.Remembers c.memo → (r.recallNode node c).output = r.node node c.output ∧
      r.Remembers (r.recallNode node c).memo) ∧
    (∀ nodes c, r.Remembers c.memo → (r.recallNodes nodes c).output = r.nodes nodes c.output ∧
      r.Remembers (r.recallNodes nodes c).memo) ∧
    ∀ alternatives start c, r.Remembers c.memo →
      (r.recallAlternatives start alternatives c).output =
          r.alternatives start alternatives c.output ∧
        r.Remembers (r.recallAlternatives start alternatives c).memo := by
  apply Node.induction
  case text =>
    intro s c h
    exact ⟨rfl, h⟩
  case tag =>
    intro name c h
    obtain ⟨value, remembers⟩ := recallValue_correct h name
    rw [recallNode, Rendering.node, ← value, ← output_recallValue name c]
    exact ⟨rfl, remembers⟩
  case when =>
    intro predicate yes ih c h
    obtain ⟨truth, remembers⟩ := recallTruth_correct h predicate
    rw [recallNode]
    split
    next idle => exact ⟨(nodes_of_idle.1 (.condition predicate yes none) idle c.output).symm, h⟩
    · rw [Rendering.node, ← truth, ← output_recallTruth predicate c]
      dsimp only
      split
      · exact ⟨(ih _ remembers).1, remembers⟩
      · exact ⟨rfl, remembers⟩
  case either =>
    intro predicate yes no ihyes ihno c h
    obtain ⟨truth, remembers⟩ := recallTruth_correct h predicate
    rw [recallNode]
    split
    next idle =>
      exact ⟨(nodes_of_idle.1 (.condition predicate yes (some no)) idle c.output).symm, h⟩
    · rw [Rendering.node, ← truth, ← output_recallTruth predicate c]
      dsimp only
      split
      · exact ⟨(ihyes _ remembers).1, remembers⟩
      · exact ⟨(ihno _ remembers).1, remembers⟩
  case disjunction =>
    intro alternatives ih c h
    rw [recallNode, Rendering.node]
    exact ih _ c h
  case nil =>
    intro c h
    exact ⟨rfl, h⟩
  case cons =>
    intro node nodes ihnode ihnodes c h
    obtain ⟨output, remembers⟩ := ihnode c h
    rw [recallNodes, Rendering.nodes, ← output]
    exact ihnodes _ remembers
  case none =>
    intro start c h
    rw [Rendering.alternatives]
    exact ⟨rfl, h⟩
  case more =>
    intro nodes alternatives ihnodes ihmore start c h
    rw [recallAlternatives, Rendering.alternatives, ← (ihnodes c h).1]
    dsimp only
    split
    · split
      · exact ⟨rfl, h⟩
      · exact ihmore start _ h
    · exact ihmore start _ h

end Rendering

/-- There is no code for idle nodes. -/
theorem code_eq_nil_iff {literal : String → String} {parser : QueryParser} :
    (∀ node scope p, (compileNode literal parser node scope p).code = [] ↔ node.idle = true) ∧
    (∀ nodes scope p,
      (compileNodes literal parser nodes scope p []).code = [] ↔ allIdle nodes = true) ∧
    ∀ _ : List (List Node), True := by
  apply Node.induction
  case text =>
    intro s scope p
    rw [compileNode, Node.idle]
    exact iff_of_false (List.cons_ne_nil _ _) Bool.false_ne_true
  case tag =>
    intro name scope p
    rw [compileNode, Node.idle]
    exact iff_of_false (List.append_ne_nil_of_right_ne_nil _ (List.cons_ne_nil _ _))
      Bool.false_ne_true
  case when =>
    intro predicate yes ih scope p
    rw [compileNode, Node.idle, code_conditionBlock_eq_nil, ih]
    exact and_iff_left rfl
  case either =>
    intro predicate yes no ihyes ihno scope p
    rw [compileNode, Node.idle, code_conditionBlock_eq_nil, ihyes, ihno, Bool.and_eq_true]
  case disjunction =>
    intro alternatives _ scope p
    rw [compileNode_disjunction, Node.idle]
    exact iff_of_false (List.cons_ne_nil _ _) Bool.false_ne_true
  case nil =>
    intro scope p
    rw [compileNodes, allIdle]
    exact iff_of_true rfl rfl
  case cons =>
    intro node nodes ihnode ihnodes scope p
    rw [compileNodes_cons, allIdle, append_eq_nil_iff, ihnode, ihnodes, Bool.and_eq_true]
  case none => trivial
  case more => exact fun _ _ _ _ => trivial

end Program

end SongPattern

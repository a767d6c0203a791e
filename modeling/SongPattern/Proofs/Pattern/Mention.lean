import SongPattern.Proofs.Pattern.Canonical

namespace SongPattern.Pattern

/-- What a pattern names: the literals and the tags that it may show, and what its conditions
test. -/
inductive Mention where
  | literal (s : String)
  | tag (name : String)
  | predicate (text : String)

mutual

def Node.mentions : Node → List Mention
  | .text s => [.literal s]
  | .tag name => [.tag name]
  | .condition predicate yes none => .predicate predicate :: mentionsOf yes
  | .condition predicate yes (some no) =>
    .predicate predicate :: (mentionsOf yes ++ mentionsOf no)
  | .disjunction alternatives => mentionsOfEach alternatives

def mentionsOf : List Node → List Mention
  | [] => []
  | node :: nodes => node.mentions ++ mentionsOf nodes

def mentionsOfEach : List (List Node) → List Mention
  | [] => []
  | nodes :: more => mentionsOf nodes ++ mentionsOfEach more

end

theorem mentionsOf_append (front back : List Node) :
    mentionsOf (front ++ back) = mentionsOf front ++ mentionsOf back := by
  induction front with
  | nil => rfl
  | cons node front ih => rw [List.cons_append, mentionsOf, mentionsOf, ih, List.append_assoc]

theorem mentionsOf_condition (predicate : String) (yes : List Node) (no : Option (List Node)) :
    mentionsOf [.condition predicate yes no] =
      .predicate predicate :: (mentionsOf yes ++ mentionsOf (no.getD [])) := by
  cases no <;> simp [mentionsOf, Node.mentions]

theorem mentionsOf_disjunction (alternatives : List (List Node)) :
    mentionsOf [.disjunction alternatives] = mentionsOfEach alternatives := by
  simp [mentionsOf, Node.mentions]

def Mention.tag? : Mention → Option String
  | .tag name => some name
  | .literal _ | .predicate _ => none

/-- The tags that are shown, in whichever branch or alternative. -/
def tagsOf (nodes : List Node) : List String := (mentionsOf nodes).filterMap Mention.tag?

theorem mem_tagsOf_iff {name : String} {nodes : List Node} :
    name ∈ tagsOf nodes ↔ .tag name ∈ mentionsOf nodes := by
  rw [tagsOf, List.mem_filterMap]
  constructor
  · rintro ⟨m, hm, shown⟩
    cases m with
    | tag other =>
      cases shown
      exact hm
    | literal s => cases shown
    | predicate text => cases shown
  · intro h
    exact ⟨_, h, rfl⟩

def Mention.predicate? : Mention → Option String
  | .predicate text => some text
  | .literal _ | .tag _ => none

/-- The predicates of all conditions, each in front of those in its branches. -/
def predicatesOf (nodes : List Node) : List String :=
  (mentionsOf nodes).filterMap Mention.predicate?

/-- A tag or a predicate is a name as it is read. -/
def Mention.Named : Mention → Prop
  | .literal _ => True
  | .tag name => IsName name
  | .predicate text => IsName text

theorem named_of_shaped :
    (∀ node : Node, node.Shaped → ∀ m ∈ node.mentions, m.Named) ∧
    (∀ nodes, Shaped nodes → ∀ m ∈ mentionsOf nodes, m.Named) ∧
    ∀ alternatives, ShapedEach alternatives → ∀ m ∈ mentionsOfEach alternatives, m.Named := by
  apply Node.induction
  case text =>
    intro s _
    rw [Node.mentions, List.forall_mem_singleton]
    trivial
  case tag =>
    intro name h
    rw [Node.mentions, List.forall_mem_singleton]
    exact h
  case when =>
    intro predicate yes ih h
    rw [Node.mentions, List.forall_mem_cons]
    exact ⟨h.1, ih h.2⟩
  case either =>
    intro predicate yes no ihyes ihno h
    rw [Node.mentions, List.forall_mem_cons, List.forall_mem_append]
    exact ⟨h.1, ihyes h.2.2.1, ihno h.2.2.2⟩
  case disjunction =>
    intro alternatives ih h
    rw [Node.mentions]
    exact ih h.2.2
  case nil =>
    intro _
    exact nofun
  case cons =>
    intro node nodes ihnode ihnodes h
    rw [mentionsOf, List.forall_mem_append]
    exact ⟨ihnode h.1, ihnodes h.2.2⟩
  case none =>
    intro _
    exact nofun
  case more =>
    intro nodes alternatives ihnodes ihmore h
    rw [mentionsOfEach, List.forall_mem_append]
    exact ⟨ihnodes h.1, ihmore h.2⟩

end SongPattern.Pattern

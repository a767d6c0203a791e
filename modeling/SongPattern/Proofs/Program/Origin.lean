import SongPattern.Proofs.Pattern.Mention
import SongPattern.Proofs.Program.Evaluator

namespace SongPattern.Program

open Pattern (Node Mention mentionsOf mentionsOfEach)

/-- Where a piece of output comes from. -/
inductive Origin where
  | literal (s : String)
  | tag (name : String)

def Origin.mention : Origin → Mention
  | .literal s => .literal s
  | .tag name => .tag name

/-- All that decides which parts of a pattern are rendered: whether a predicate holds, and whether a
part shows nothing. -/
structure Guide where
  holds : String → Bool
  silent : Origin → Bool

namespace Guide

mutual

/-- The parts of a node that are rendered, behind those in `output`. -/
def node (g : Guide) : Node → (output : List Origin) → List Origin
  | .text s, output => output ++ [.literal s]
  | .tag name, output => output ++ [.tag name]
  | .condition predicate yes none, output =>
    if g.holds predicate then g.nodes yes output else output
  | .condition predicate yes (some no), output =>
    if g.holds predicate then g.nodes yes output else g.nodes no output
  | .disjunction alternatives, output => g.alternatives output.length alternatives output

def nodes (g : Guide) : List Node → (output : List Origin) → List Origin
  | [], output => output
  | node :: nodes, output => g.nodes nodes (g.node node output)

def alternatives (g : Guide) (start : Nat) :
    List (List Node) → (output : List Origin) → List Origin
  | [], output => output
  | nodes :: more, output =>
    let grown := g.nodes nodes output
    if start < grown.length then
      if grown.getLast?.any (!g.silent ·) then grown
      else g.alternatives start more grown.dropLast
    else g.alternatives start more grown

end

variable {g : Guide}

theorem mention_mem :
    (∀ node out, ∀ o ∈ g.node node out, o ∈ out ∨ o.mention ∈ node.mentions) ∧
    (∀ nodes out, ∀ o ∈ g.nodes nodes out, o ∈ out ∨ o.mention ∈ mentionsOf nodes) ∧
    ∀ alternatives start out, ∀ o ∈ g.alternatives start alternatives out,
      o ∈ out ∨ o.mention ∈ mentionsOfEach alternatives := by
  apply Node.induction
  case text =>
    intro s out o ho
    rw [Guide.node, List.mem_append, List.mem_singleton] at ho
    rw [Node.mentions, List.mem_singleton]
    exact ho.imp_right (congrArg Origin.mention)
  case tag =>
    intro name out o ho
    rw [Guide.node, List.mem_append, List.mem_singleton] at ho
    rw [Node.mentions, List.mem_singleton]
    exact ho.imp_right (congrArg Origin.mention)
  case when =>
    intro predicate yes ih out o ho
    rw [Guide.node] at ho
    rw [Node.mentions]
    split at ho
    · exact (ih out o ho).imp_right (List.mem_cons_of_mem _)
    · exact .inl ho
  case either =>
    intro predicate yes no ihyes ihno out o ho
    rw [Guide.node] at ho
    rw [Node.mentions]
    split at ho
    · exact (ihyes out o ho).imp_right fun h => List.mem_cons_of_mem _ (List.mem_append_left _ h)
    · exact (ihno out o ho).imp_right fun h => List.mem_cons_of_mem _ (List.mem_append_right _ h)
  case disjunction =>
    intro alternatives ih out o ho
    rw [Guide.node] at ho
    rw [Node.mentions]
    exact ih _ out o ho
  case nil =>
    intro out o ho
    exact .inl ho
  case cons =>
    intro node nodes ihnode ihnodes out o ho
    rw [Guide.nodes] at ho
    rw [mentionsOf, List.mem_append]
    rcases ihnodes _ o ho with ho | ho
    · exact (ihnode out o ho).imp_right .inl
    · exact .inr (.inr ho)
  case none =>
    intro start out o ho
    exact .inl ho
  case more =>
    intro nodes alternatives ihnodes ihmore start out o ho
    have grown (h : o ∈ g.nodes nodes out) :
        o ∈ out ∨ o.mention ∈ mentionsOfEach (nodes :: alternatives) := by
      rw [mentionsOfEach, List.mem_append]
      exact (ihnodes out o h).imp_right .inl
    have later (h : o.mention ∈ mentionsOfEach alternatives) :
        o.mention ∈ mentionsOfEach (nodes :: alternatives) := by
      rw [mentionsOfEach]
      exact List.mem_append_right _ h
    rw [Guide.alternatives] at ho
    split at ho
    · split at ho
      · exact grown ho
      · rcases ihmore start _ o ho with ho | ho
        · exact grown (List.dropLast_subset _ ho)
        · exact .inr (later ho)
    · rcases ihmore start _ o ho with ho | ho
      · exact grown ho
      · exact .inr (later ho)

end Guide

namespace Rendering

def piece (r : Rendering) : Origin → Fragment
  | .literal s => .text (r.literal s)
  | .tag name => r.value name

def guide (r : Rendering) : Guide := ⟨r.truth, fun o => (r.piece o).isEmpty⟩

variable {r : Rendering}

theorem map_piece :
    (∀ node out, r.node node (out.map r.piece) = (r.guide.node node out).map r.piece) ∧
    (∀ nodes out, r.nodes nodes (out.map r.piece) = (r.guide.nodes nodes out).map r.piece) ∧
    ∀ alternatives start out, r.alternatives start alternatives (out.map r.piece) =
      (r.guide.alternatives start alternatives out).map r.piece := by
  apply Node.induction
  case text =>
    intro s out
    rw [Rendering.node, Guide.node, List.map_append]
    rfl
  case tag =>
    intro name out
    rw [Rendering.node, Guide.node, List.map_append]
    rfl
  case when =>
    intro predicate yes ih out
    rw [Rendering.node, Guide.node, ih, apply_ite (List.map r.piece)]
    rfl
  case either =>
    intro predicate yes no ihyes ihno out
    rw [Rendering.node, Guide.node, ihyes, ihno, apply_ite (List.map r.piece)]
    rfl
  case disjunction =>
    intro alternatives ih out
    rw [Rendering.node, Guide.node, List.length_map, ih]
  case nil =>
    intro out
    rw [Rendering.nodes, Guide.nodes]
  case cons =>
    intro node nodes ihnode ihnodes out
    rw [Rendering.nodes, Guide.nodes, ihnode, ihnodes]
  case none =>
    intro start out
    rw [Rendering.alternatives, Guide.alternatives]
  case more =>
    intro nodes alternatives ihnodes ihmore start out
    have last (os : List Origin) : (os.map r.piece).getLast?.any (!·.isEmpty) =
        os.getLast?.any (!r.guide.silent ·) := by
      rw [List.getLast?_map, Option.any_map]
      rfl
    rw [Rendering.alternatives, Guide.alternatives]
    simp only [ihnodes, List.length_map, last, ← List.map_dropLast, ihmore]
    split
    · split <;> rfl
    · rfl

/-- Each piece of output is what the part that it comes from shows. -/
theorem nodes_eq_map (r : Rendering) (nodes : List Node) :
    r.nodes nodes [] = (r.guide.nodes nodes []).map r.piece := map_piece.2.1 nodes []

end Rendering

end SongPattern.Program

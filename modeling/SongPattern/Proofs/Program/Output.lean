import SongPattern.Proofs.Pattern.Node
import SongPattern.Proofs.Program.Evaluator

namespace SongPattern.Program

open Pattern (Node)

variable {r : Rendering}

/-- Nothing looks at the output that was there before, and only what is put behind it is taken
back. -/
theorem render_behind :
    (∀ node out acc, r.node node (out ++ acc) = out ++ r.node node acc) ∧
    (∀ nodes out acc, r.nodes nodes (out ++ acc) = out ++ r.nodes nodes acc) ∧
    ∀ alternatives start out acc,
      r.alternatives (out.length + start) alternatives (out ++ acc) =
        out ++ r.alternatives start alternatives acc := by
  apply Node.induction
  case text =>
    intro s out acc
    rw [Rendering.node, Rendering.node, List.append_assoc]
  case tag =>
    intro name out acc
    rw [Rendering.node, Rendering.node, List.append_assoc]
  case when =>
    intro predicate yes ih out acc
    rw [Rendering.node, Rendering.node]
    split
    · exact ih out acc
    · rfl
  case either =>
    intro predicate yes no ihyes ihno out acc
    rw [Rendering.node, Rendering.node]
    split
    · exact ihyes out acc
    · exact ihno out acc
  case disjunction =>
    intro alternatives ih out acc
    rw [Rendering.node, Rendering.node, List.length_append]
    exact ih acc.length out acc
  case nil =>
    intro out acc
    rw [Rendering.nodes, Rendering.nodes]
  case cons =>
    intro node nodes ihnode ihnodes out acc
    rw [Rendering.nodes, Rendering.nodes, ihnode, ihnodes]
  case none =>
    intro start out acc
    rw [Rendering.alternatives, Rendering.alternatives]
  case more =>
    intro nodes alternatives ihnodes ihmore start out acc
    rw [Rendering.alternatives, Rendering.alternatives, ihnodes, List.length_append]
    by_cases grown : start < (r.nodes nodes acc).length
    · have hn : r.nodes nodes acc ≠ [] := List.ne_nil_of_length_pos (Nat.zero_lt_of_lt grown)
      have last : (out ++ r.nodes nodes acc).getLast? = (r.nodes nodes acc).getLast? := by
        rw [List.getLast?_append, List.getLast?_eq_some_getLast hn, Option.some_or]
      rw [if_pos grown, if_pos (Nat.add_lt_add_left grown _), last,
        List.dropLast_append_of_ne_nil hn, ihmore]
      split <;> rfl
    · rw [if_neg grown, if_neg (mt Nat.lt_of_add_lt_add_left grown), ihmore]

theorem nodes_behind (nodes : List Node) (out : List Fragment) :
    r.nodes nodes out = out ++ r.nodes nodes [] := by
  have h := (render_behind (r := r)).2.1 nodes out []
  rwa [List.append_nil] at h

theorem nodes_append (nodes more : List Node) (out : List Fragment) :
    r.nodes (nodes ++ more) out = r.nodes more (r.nodes nodes out) := by
  induction nodes generalizing out with
  | nil => rw [List.nil_append, Rendering.nodes]
  | cons node nodes ih => rw [List.cons_append, Rendering.nodes, ih, Rendering.nodes]

/-- Fragments that are empty just where they show nothing. -/
def Texts (fragments : List Fragment) : Prop := ∀ f ∈ fragments, ∃ s, f = .text s

theorem texts_nil : Texts [] := List.forall_mem_nil _

theorem texts_concat {out : List Fragment} (h : Texts out) (s : String) :
    Texts (out ++ [.text s]) := by
  rw [Texts, List.forall_mem_append]
  exact ⟨h, List.forall_mem_singleton.mpr ⟨s, rfl⟩⟩

/-- The scalar program puts out nothing but texts. -/
theorem render_texts (hr : r.mode = .joined) :
    (∀ node out, Texts out → Texts (r.node node out)) ∧
    (∀ nodes out, Texts out → Texts (r.nodes nodes out)) ∧
    ∀ alternatives start out, Texts out → Texts (r.alternatives start alternatives out) := by
  apply Node.induction
  case text =>
    intro s out h
    rw [Rendering.node]
    exact texts_concat h _
  case tag =>
    intro name out h
    rw [Rendering.node, Rendering.value, hr]
    exact texts_concat h _
  case when =>
    intro predicate yes ih out h
    rw [Rendering.node]
    split
    · exact ih out h
    · exact h
  case either =>
    intro predicate yes no ihyes ihno out h
    rw [Rendering.node]
    split
    · exact ihyes out h
    · exact ihno out h
  case disjunction =>
    intro alternatives ih out h
    rw [Rendering.node]
    exact ih _ out h
  case nil =>
    intro out h
    rw [Rendering.nodes]
    exact h
  case cons =>
    intro node nodes ihnode ihnodes out h
    rw [Rendering.nodes]
    exact ihnodes _ (ihnode out h)
  case none =>
    intro start out h
    rw [Rendering.alternatives]
    exact h
  case more =>
    intro nodes alternatives ihnodes ihmore start out h
    have grown := ihnodes out h
    rw [Rendering.alternatives]
    split
    · split
      · exact grown
      · exact ihmore _ _ fun f hf => grown f (List.dropLast_subset _ hf)
    · exact ihmore _ _ grown

end SongPattern.Program

import SongPattern.Pattern.Node

namespace SongPattern.Pattern

/-- Induction over patterns. The three statements are proved together, on nodes, on sequences of
nodes and on the alternatives of a disjunction. -/
theorem Node.induction {one : Node → Prop} {seq : List Node → Prop} {alts : List (List Node) → Prop}
    (text : ∀ s, one (.text s)) (tag : ∀ name, one (.tag name))
    (when : ∀ predicate yes, seq yes → one (.condition predicate yes none))
    (either : ∀ predicate yes no, seq yes → seq no → one (.condition predicate yes (some no)))
    (disjunction : ∀ alternatives, alts alternatives → one (.disjunction alternatives))
    (nil : seq []) (cons : ∀ node nodes, one node → seq nodes → seq (node :: nodes))
    (none : alts [])
    (more : ∀ nodes alternatives, seq nodes → alts alternatives → alts (nodes :: alternatives)) :
    (∀ node, one node) ∧ (∀ nodes, seq nodes) ∧ ∀ alternatives, alts alternatives := by
  have nodes_of (h : ∀ node, one node) (nodes : List Node) : seq nodes := by
    induction nodes with
    | nil => exact nil
    | cons node nodes ih => exact cons node nodes (h node) ih
  have alts_of (h : ∀ nodes, seq nodes) (alternatives : List (List Node)) :
      alts alternatives := by
    induction alternatives with
    | nil => exact none
    | cons nodes alternatives ih => exact more nodes alternatives (h nodes) ih
  have node (n : Node) : one n := by
    refine @Node.rec one seq (fun no => ∀ branch, no = some branch → seq branch) alts text tag
      ?_ disjunction nil cons ?_ ?_ none more n
    · intro predicate yes no hyes hno
      cases no with
      | none => exact when predicate yes hyes
      | some branch => exact either predicate yes branch hyes (hno branch rfl)
    · intro branch h
      cases h
    · intro branch hbranch other h
      cases h
      exact hbranch
  exact ⟨node, nodes_of node, alts_of (nodes_of node)⟩

end SongPattern.Pattern

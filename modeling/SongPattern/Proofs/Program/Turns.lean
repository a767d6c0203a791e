import Mathlib.Data.List.Forall2
import SongPattern.Proofs.Pattern.Node
import SongPattern.Proofs.Program.Evaluator

namespace SongPattern.Program

open Pattern (Node)

namespace Rendering

mutual

/-- The turns that a rendering takes in a node: what each predicate gives that it tests, and whether
it keeps an alternative, for each one that puts something out. -/
def nodeTurns (r : Rendering) : Node → (output : List Fragment) → List Bool
  | .text _, _ => []
  | .tag _, _ => []
  | .condition predicate yes none, output =>
    r.truth predicate :: if r.truth predicate then r.turns yes output else []
  | .condition predicate yes (some no), output =>
    r.truth predicate :: if r.truth predicate then r.turns yes output else r.turns no output
  | .disjunction alternatives, output =>
    r.alternativeTurns output.length alternatives output

def turns (r : Rendering) : List Node → (output : List Fragment) → List Bool
  | [], _ => []
  | node :: nodes, output => r.nodeTurns node output ++ r.turns nodes (r.node node output)

def alternativeTurns (r : Rendering) (start : Nat) :
    List (List Node) → (output : List Fragment) → List Bool
  | [], _ => []
  | nodes :: more, output =>
    let grown := r.nodes nodes output
    let kept := grown.getLast?.any (!·.isEmpty)
    r.turns nodes output ++
      if start < grown.length then
        kept :: if kept then [] else r.alternativeTurns start more grown.dropLast
      else r.alternativeTurns start more grown

end

end Rendering

section SameTurns

variable {r r' : Rendering} {R : Fragment → Fragment → Prop}

/-- Turns that are the same as far as they go leave the outputs related, and the same turns to
come. -/
def Agree (R : Fragment → Fragment → Prop) (turns turns' : List Bool)
    (output output' : List Fragment) : Prop :=
  ∀ rest rest', turns ++ rest = turns' ++ rest' → List.Forall₂ R output output' ∧ rest = rest'

theorem Agree.cons {b b' : Bool} {turns turns' : List Bool} {out out' : List Fragment}
    (h : b = b' → Agree R turns turns' out out') :
    Agree R (b :: turns) (b' :: turns') out out' := by
  intro rest rest' same
  rw [List.cons_append, List.cons_append] at same
  obtain ⟨first, same⟩ := List.cons.inj same
  exact h first rest rest' same

/-- What follows may rely on the outputs that are related by then. -/
theorem Agree.append {first first' turns turns' : List Bool} {mid mid' out out' : List Fragment}
    (h : Agree R first first' mid mid')
    (next : List.Forall₂ R mid mid' → Agree R turns turns' out out') :
    Agree R (first ++ turns) (first' ++ turns') out out' := by
  intro rest rest' same
  rw [List.append_assoc, List.append_assoc] at same
  obtain ⟨related, same⟩ := h _ _ same
  exact next related rest rest' same

end SameTurns

end SongPattern.Program

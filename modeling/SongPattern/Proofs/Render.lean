import SongPattern.Proofs.Formatter.Build
import SongPattern.Proofs.Formatter.Choices
import SongPattern.Proofs.Program.Run
import SongPattern.Render

namespace SongPattern

open Pattern (Node)
open Program (Rendering)

/-- The text that fragments show together. -/
def textOf (fragments : List Fragment) : String := concat (fragments.map Fragment.flat)

theorem concat_append (xs ys : List String) : concat (xs ++ ys) = concat xs ++ concat ys := by
  induction xs with
  | nil => exact String.empty_append.symm
  | cons x xs ih =>
    rw [List.cons_append, concat, List.foldr_cons, ← concat, ih, ← String.append_assoc]
    rfl

theorem textOf_nil : textOf [] = "" := rfl

theorem textOf_append (fs gs : List Fragment) : textOf (fs ++ gs) = textOf fs ++ textOf gs := by
  rw [textOf, List.map_append, concat_append, textOf, textOf]

theorem textOf_cons (f : Fragment) (fs : List Fragment) : textOf (f :: fs) = f.flat ++ textOf fs :=
  rfl

theorem mem_textOf_iff {c : Char} {fs : List Fragment} :
    c ∈ (textOf fs).toList ↔ ∃ f ∈ fs, c ∈ f.flat.toList := by
  induction fs with
  | nil => exact iff_of_false List.not_mem_nil nofun
  | cons f fs ih =>
    simp only [textOf_cons, String.toList_append, List.mem_append, ih, List.mem_cons,
      exists_eq_or_imp]

theorem flat_sublist {f : Fragment} {fs : List Fragment} (h : f ∈ fs) :
    f.flat.toList.Sublist (textOf fs).toList := by
  induction fs with
  | nil => cases h
  | cons g fs ih =>
    rw [textOf_cons, String.toList_append]
    rcases List.mem_cons.mp h with rfl | h
    · exact List.sublist_append_left _ _
    · exact (ih h).trans (List.sublist_append_right _ _)

theorem flat_of_isEmpty {f : Fragment} (h : f.isEmpty = true) : f.flat = "" := by
  cases f with
  | text s => exact String.isEmpty_iff.mp h
  | values pairs => rw [Fragment.flat, List.isEmpty_iff.mp h]; rfl

theorem textOf_empty {fs : List Fragment} (h : ∀ f ∈ fs, f.isEmpty = true) : textOf fs = "" := by
  induction fs with
  | nil => rfl
  | cons f fs ih =>
    rw [List.forall_mem_cons] at h
    rw [← List.singleton_append, textOf_append, ih h.2, String.append_empty, textOf,
      List.map_singleton, flat_of_isEmpty h.1]
    rfl

/-- With the policy that changes nothing, a pattern renders what the evaluator puts out. -/
theorem render_of_parse {engine : RegexEngine} {pattern : String} {nodes : List Node}
    (h : Pattern.parse pattern = .ok nodes) (song : Song) :
    render engine pattern song = .ok (textOf
      (Rendering.nodes ⟨.joined, id, Query.parser engine, Policy.plain.source song⟩ nodes [])) := by
  have built : compile engine pattern =
      .ok (Formatter.ofNodes pattern .plain (Query.parser engine) nodes) :=
    Formatter.build_plain h (Query.parser engine)
  rw [textOf, ← Program.fragments_eq_nodes, render, built]
  rfl

/-- With the policy that changes nothing, the list of all renderings is made of the choices that the
evaluator puts out. -/
theorem renderList_of_parse {engine : RegexEngine} {pattern : String} {nodes : List Node}
    (h : Pattern.parse pattern = .ok nodes) (song : Song) :
    renderList engine pattern song = .ok (Formatter.asSet (Formatter.choices (Rendering.nodes
      ⟨.listed, id, Query.parser engine, Policy.plain.source song⟩ nodes []))) := by
  have built : compile engine pattern =
      .ok (Formatter.ofNodes pattern .plain (Query.parser engine) nodes) :=
    Formatter.build_plain h (Query.parser engine)
  rw [← Program.fragments_eq_nodes, renderList, built]
  exact Formatter.formatList_of_plain rfl song

end SongPattern

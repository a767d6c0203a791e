import SongPattern.Proofs.Formatter.Rendered
import SongPattern.Proofs.Pattern.Seam
import SongPattern.Proofs.Program.Output
import SongPattern.Regex.Engine
import SongPattern.Song.TagTable

namespace SongPattern

open Pattern (Node Joined WellFormed)
open Program (Rendering)

section Joined

variable {r : Rendering} {front back nodes : List Node}

/-- Where two texts are read as one, the one literal stands for the two. -/
theorem output_joined (additive : ∀ s t, r.literal (s ++ t) = r.literal s ++ r.literal t)
    (h : Joined front back nodes) :
    r.nodes nodes [] = r.nodes front [] ++ r.nodes back [] ∨
      ∃ fs s t gs, r.nodes front [] = fs ++ [.text s] ∧ r.nodes back [] = .text t :: gs ∧
        r.nodes nodes [] = fs ++ .text (s ++ t) :: gs := by
  cases h with
  | apart => exact .inl (by rw [Program.nodes_append, Program.nodes_behind])
  | @merged front back s t =>
    refine .inr ⟨r.nodes front [], r.literal s, r.literal t, r.nodes back [], ?_, ?_, ?_⟩
    · rw [Program.nodes_append, Rendering.nodes, Rendering.node, Rendering.nodes]
    · rw [Rendering.nodes, Rendering.node, Program.nodes_behind]
      rfl
    · rw [Program.nodes_append, Rendering.nodes, Rendering.node, Program.nodes_behind, additive,
        List.append_assoc]
      rfl

theorem textOf_joined (additive : ∀ s t, r.literal (s ++ t) = r.literal s ++ r.literal t)
    (h : Joined front back nodes) :
    textOf (r.nodes nodes []) = textOf (r.nodes front []) ++ textOf (r.nodes back []) := by
  rcases output_joined additive h with apart | ⟨fs, s, t, gs, first, second, whole⟩
  · rw [apart, textOf_append]
  · simp only [whole, first, second, textOf_append, textOf_cons, textOf_nil, Fragment.flat,
      String.append_empty, String.append_assoc]

namespace Formatter

theorem mem_choices_joined (additive : ∀ s t, r.literal (s ++ t) = r.literal s ++ r.literal t)
    (h : Joined front back nodes) {c : String × String} :
    c ∈ choices (r.nodes nodes []) ↔ ∃ a ∈ choices (r.nodes front []),
      ∃ b ∈ choices (r.nodes back []), c = behind a b := by
  rcases output_joined additive h with apart | ⟨fs, s, t, gs, first, second, whole⟩
  · rw [apart, mem_choices_append_iff]
  · have cut (a b : String × String) :
        behind a (behind (s ++ t, s ++ t) b) = behind (behind a (s, s)) (behind (t, t) b) := by
      rw [behind_assoc, ← behind_assoc (s, s)]
      rfl
    rw [whole, first, second, ← List.singleton_append, ← List.singleton_append (l := gs)]
    simp only [mem_choices_append_iff, mem_choices_text, exists_eq_left]
    constructor
    · rintro ⟨a, ha, _, ⟨b, hb, rfl⟩, rfl⟩
      exact ⟨_, ⟨a, ha, rfl⟩, _, ⟨b, hb, rfl⟩, cut a b⟩
    · rintro ⟨_, ⟨a, ha, rfl⟩, _, ⟨b, hb, rfl⟩, rfl⟩
      exact ⟨a, ha, _, ⟨b, hb, rfl⟩, (cut a b).symm⟩

end Formatter

end Joined

namespace Formatter

theorem formatList_ofNodes {pattern : String} {parser : QueryParser} {nodes : List Node}
    {song : Song} :
    (ofNodes pattern .plain parser nodes).formatList song =
      .ok (asSet (choices ((Policy.plain.listing parser song).nodes nodes []))) := by
  rw [formatList_of_plain rfl, ← listed_ofNodes]
  rfl

/-- What is written behind a pattern is rendered behind it: the text of the one is followed by the
text of the other, and each choice of the one by each choice of the other. -/
theorem format_append {p q : String} (hp : WellFormed p) (hq : WellFormed q)
    (parser : QueryParser) :
    ∃ f g h, build p .plain parser = .ok f ∧ build q .plain parser = .ok g ∧
      build (p ++ q) .plain parser = .ok h ∧ ∀ song,
        (∃ s t, f.format song = .ok s ∧ g.format song = .ok t ∧ h.format song = .ok (s ++ t)) ∧
        ∃ xs ys zs, f.formatList song = .ok xs ∧ g.formatList song = .ok ys ∧
          h.formatList song = .ok zs ∧ Ascending zs ∧
          ∀ pair, pair ∈ zs ↔ ∃ x ∈ xs, ∃ y ∈ ys, pair = (x.1 ++ y.1, x.2 ++ y.2) := by
  obtain ⟨front, hf, rfl⟩ := hp
  obtain ⟨back, hb, rfl⟩ := hq
  obtain ⟨nodes, joined⟩ := Pattern.exists_joined front back
  have read := Pattern.parse_of_print (joined.canonical hf hb) joined.print
  refine ⟨_, _, _, build_plain (Pattern.parse_printNodes hf) parser,
    build_plain (Pattern.parse_printNodes hb) parser, build_plain read parser, fun song => ⟨?_, ?_⟩⟩
  · refine ⟨_, _, rfl, rfl, congrArg Except.ok ?_⟩
    rw [rendered_ofNodes, rendered_ofNodes, rendered_ofNodes]
    exact textOf_joined (fun _ _ => rfl) joined
  · refine ⟨_, _, _, formatList_ofNodes, formatList_ofNodes, formatList_ofNodes,
      ascending_asSet _, fun pair => ?_⟩
    simp only [mem_asSet_iff]
    exact mem_choices_joined (fun _ _ => rfl) joined

def artistDash : List Node := [.tag "artist", .text " -"]

def dashArtist : List Node := [.text "- ", .tag "artist"]

/-- The two dashes are one literal, and both artists are chosen twice. -/
theorem format_append_dashes :
    let song := (TagTable.ofList [("artist", .text "A\nB")]).song
    WellFormed "<artist> -" ∧ WellFormed "- <artist>" ∧
      ∃ h, build "<artist> -- <artist>" .plain (Query.parser Regex.engine) = .ok h ∧
        h.format song = .ok "A, B -- A, B" ∧
        ∃ zs, h.formatList song = .ok zs ∧ ("B -- A", "B -- A") ∈ zs := by
  intro song
  have first : Pattern.Canonical artistDash := by decide +kernel
  have second : Pattern.Canonical dashArtist := by decide +kernel
  have hp : WellFormed "<artist> -" := ⟨_, first, by decide +kernel⟩
  have hq : WellFormed "- <artist>" := ⟨_, second, by decide +kernel⟩
  let parser := Query.parser Regex.engine
  obtain ⟨f, g, h, hf, hg, hh, all⟩ := format_append hp hq parser
  cases hf.symm.trans (build_plain (Pattern.parse_of_print first (by decide +kernel)) parser)
  cases hg.symm.trans (build_plain (Pattern.parse_of_print second (by decide +kernel)) parser)
  obtain ⟨⟨s, t, hs, ht, hst⟩, xs, ys, zs, hx, hy, hz, _, members⟩ := all song
  have before : (ofNodes "<artist> -" .plain parser artistDash).format song =
      .ok "A, B -" := by decide +kernel
  have after : (ofNodes "- <artist>" .plain parser dashArtist).format song =
      .ok "- A, B" := by decide +kernel
  have front : ("B -", "B -") ∈ xs :=
    (mem_of_formatList rfl hx).mpr (by decide +kernel)
  have back : ("- A", "- A") ∈ ys :=
    (mem_of_formatList rfl hy).mpr (by decide +kernel)
  cases hs.symm.trans before
  cases ht.symm.trans after
  exact ⟨hp, hq, h, hh, hst, zs, hz, (members _).mpr ⟨_, front, _, back, rfl⟩⟩

end Formatter

end SongPattern

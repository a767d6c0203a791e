import SongPattern.Proofs.Render

namespace SongPattern

open Pattern (Node)
open Program (Rendering)

def Policy.rendering (policy : Policy) (parser : QueryParser) (song : Song) : Rendering :=
  ⟨.joined, policy.literal, parser, policy.source song⟩

def Policy.listing (policy : Policy) (parser : QueryParser) (song : Song) : Rendering :=
  ⟨.listed, policy.literal, parser, policy.source song⟩

namespace Formatter

variable {pattern : String} {parser : QueryParser} {f : Formatter} {nodes : List Node}
  {song song' : Song}

theorem rendered_ofNodes (policy : Policy) :
    (ofNodes pattern policy parser nodes).rendered song =
      textOf ((policy.rendering parser song).nodes nodes []) := by
  rw [textOf, ← Program.fragments_eq_nodes]
  rfl

theorem listed_ofNodes (policy : Policy) :
    ((ofNodes pattern policy parser nodes).list.run (policy.source song)).fragments =
      (policy.listing parser song).nodes nodes [] := by
  rw [← Program.fragments_eq_nodes]
  rfl

theorem format_congr
    (fragments : (f.scalar.run (f.policy.source song)).fragments =
      (f.scalar.run (f.policy.source song')).fragments)
    (post : ∀ text, f.policy.post text song = f.policy.post text song') :
    f.format song = f.format song' := by
  rw [format, format, rendered, rendered, fragments, post]

theorem formatList_congr
    (fragments : (f.list.run (f.policy.source song)).fragments =
      (f.list.run (f.policy.source song')).fragments)
    (post : ∀ text, f.policy.post text song = f.policy.post text song') :
    f.formatList song = f.formatList song' := by
  rw [formatList, formatList, fragments]
  simp only [post]

end Formatter

end SongPattern

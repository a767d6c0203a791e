import SongPattern.Pattern.Node
import SongPattern.Program.Run

namespace SongPattern.Program

open Pattern (Node)

/-- What a pattern is rendered with. -/
structure Rendering where
  mode : Mode
  literal : String → String
  parser : QueryParser
  source : Source

namespace Rendering

/-- The value of a tag as a piece of output. -/
def value (r : Rendering) (name : String) : Fragment :=
  match r.mode with
  | .joined => .text (r.source.joined name)
  | .listed => .values (r.source.pairs name)

/-- A predicate is a query where the parser takes it for one, and else a tag with some value. -/
def truth (r : Rendering) (predicate : String) : Bool :=
  match r.parser predicate with
  | some matcher => matcher r.source.song
  | none => !(r.value predicate).isEmpty

theorem truth_of_tag {r : Rendering} {name : String} (h : r.parser name = none) :
    r.truth name = !(r.value name).isEmpty := by
  rw [truth, h]

theorem truth_congr {r r' : Rendering} {predicate : String}
    (same : r.parser predicate = r'.parser predicate)
    (query : ∀ matcher, r.parser predicate = some matcher →
      matcher r.source.song = matcher r'.source.song)
    (tag : r.parser predicate = none →
      (r.value predicate).isEmpty = (r'.value predicate).isEmpty) :
    r.truth predicate = r'.truth predicate := by
  rw [truth, truth, ← same]
  cases asked : r.parser predicate with
  | some matcher => exact query matcher asked
  | none => exact congrArg (!·) (tag asked)

mutual

/-- Renders a node behind `output`. Nothing is kept between two uses of a tag. -/
def node (r : Rendering) : Node → (output : List Fragment) → List Fragment
  | .text s, output => output ++ [.text (r.literal s)]
  | .tag name, output => output ++ [r.value name]
  | .condition predicate yes none, output =>
    if r.truth predicate then r.nodes yes output else output
  | .condition predicate yes (some no), output =>
    if r.truth predicate then r.nodes yes output else r.nodes no output
  | .disjunction alternatives, output => r.alternatives output.length alternatives output

def nodes (r : Rendering) : List Node → (output : List Fragment) → List Fragment
  | [], output => output
  | node :: nodes, output => r.nodes nodes (r.node node output)

/-- An alternative that made the output longer than `start` is the last one, unless it ends with an
empty fragment: that one fragment is dropped. -/
def alternatives (r : Rendering) (start : Nat) :
    List (List Node) → (output : List Fragment) → List Fragment
  | [], output => output
  | nodes :: more, output =>
    let grown := r.nodes nodes output
    if start < grown.length then
      if grown.getLast?.any (!·.isEmpty) then grown
      else r.alternatives start more grown.dropLast
    else r.alternatives start more grown

end

end Rendering

end SongPattern.Program

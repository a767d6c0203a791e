import SongPattern.Policy.FilePath
import SongPattern.Policy.Markup
import SongPattern.Policy.Url

namespace SongPattern

/-- How many formatters a cache keeps, and what paths may look like. -/
structure Settings where
  capacity : Nat := 100
  path : PathOptions := {}
  deriving DecidableEq

def PolicyKind.build (kind : PolicyKind) (settings : Settings) (p : Platform) : Policy :=
  match kind with
  | .plain => .plain
  | .file => .filePath true settings.path p
  | .fileAnyExtension => .filePath false settings.path p
  | .markup => .markup
  | .markupShorthand => .markupShorthand
  | .url => .url

end SongPattern

import SongPattern.Proofs.Formatter.Rendered
import SongPattern.Proofs.Pattern.RoundTrip
import SongPattern.Proofs.Policy.Opening
import SongPattern.Proofs.Program.Turns
import SongPattern.Regex.Engine
import SongPattern.Settings
import SongPattern.Song.TagTable

namespace SongPattern

open Pattern (Node)
open Program (Rendering)

namespace FilePath

variable {p : Platform} {keepExtension : Bool} {song : Song} {text : String}

end FilePath

section Beside

variable {p : Platform} {fs gs : List Fragment}

end Beside

namespace Formatter

open FilePath (Accepted pathOf)

variable {pattern : String} {kind : PolicyKind} {settings : Settings} {p : Platform}
  {parser : QueryParser} {f : Formatter} {nodes : List Node} {song : Song} {keep : Bool}

end Formatter

end SongPattern

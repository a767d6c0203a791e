import SongPattern.Formatter
import SongPattern.Query
import SongPattern.Settings

namespace SongPattern

variable (engine : RegexEngine)

/-- A formatter with the usual settings. -/
def compileWith (platform : Platform) (kind : PolicyKind) (pattern : String) :
    Except PatternError Formatter :=
  Formatter.build pattern (kind.build {} platform) (Query.parser engine)

def compile (pattern : String) : Except PatternError Formatter :=
  Formatter.build pattern .plain (Query.parser engine)

def render (pattern : String) (song : Song) : Except PatternError String := do
  (← compile engine pattern).format song

def renderList (pattern : String) (song : Song) : Except PatternError (List (String × String)) := do
  (← compile engine pattern).formatList song

end SongPattern

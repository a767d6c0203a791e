import SongPattern.Query
import SongPattern.Regex.Match
import SongPattern.Regex.Parser

namespace SongPattern.Regex

/-- The engine that the program uses. -/
def engine : RegexEngine := fun source => (read? source).map matches?

end SongPattern.Regex

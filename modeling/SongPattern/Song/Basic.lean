import SongPattern.Song.Value

namespace SongPattern

/-- The look-ups that a rendering makes: one value, a value for display with its lines joined, and
all values as display and sort texts. -/
structure Song where
  get : String → Option Value
  joined : String → Value
  pairs : String → List (String × String)

/-- A numeric tag is named `~#`, and is not tied to others. -/
def isNumericTag (name : String) : Bool :=
  match name.toList with
  | '~' :: '#' :: cs => !cs.contains '~'
  | _ => false

namespace Song

def textOf (song : Song) (tag : String) : String :=
  match song.get tag with
  | some value => value.display
  | none => ""

/-- Has every tag, so that a pattern can be tried before there is a song. -/
def standIn : Song where
  get name := some (if isNumericTag name then .int 0 else .text "_")
  joined _ := .text "_"
  pairs _ := [("_", "_")]

end Song

end SongPattern

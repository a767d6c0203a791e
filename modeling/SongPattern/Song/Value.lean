import SongPattern.Number.Decimal
import SongPattern.Number.FloatText
import SongPattern.Text.Blank

namespace SongPattern

/-- The value of a tag. A text holds several values as its lines. -/
inductive Value where
  | text (s : String)
  | int (n : Int)
  | float (f : Float)

namespace Value

def display : Value → String
  | .text s => s
  | .int n => Number.text n
  | .float f => Number.twoPlaces f

def number? : Value → Option Float
  | .text s => Number.readFloat? (Text.trim s)
  | .int n => some (Number.toFloat n)
  | .float f => some f

end Value

end SongPattern

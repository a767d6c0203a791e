import SongPattern.Text.Blank
import SongPattern.Unicode.Category
import SongPattern.Unicode.Property

namespace SongPattern

open Unicode (CharSet)

/-- A condition on a place between two characters. The word places come with the set of word
characters they go by; a half looks at one side only. -/
inductive Anchor where
  | textStart
  | textEnd
  /-- The breaks are the characters that end a line. -/
  | lineStart (crlf : Bool)
  | lineEnd (crlf : Bool)
  | boundary (word : CharSet)
  | noBoundary (word : CharSet)
  | wordStart (word : CharSet)
  | wordEnd (word : CharSet)
  | wordStartHalf (word : CharSet)
  | wordEndHalf (word : CharSet)
  deriving DecidableEq

inductive Regex where
  | chars (set : CharSet)
  | anchor (a : Anchor)
  | concat (rs : List Regex)
  | alt (rs : List Regex)
  /-- At least `least` times, and at most `most` times if there is such a limit. A lazy one would
  rather stop, which does not change what it matches. -/
  | repeated (r : Regex) (least : Nat) (most : Option Nat) (lazy : Bool)
  | capture (r : Regex)

def Regex.empty : Regex := .concat []

end SongPattern

import SongPattern.Text.Pieces

namespace SongPattern.Pattern

/-- Tied tags, `~artist~title`, start with a tilde; it is added where it was left out. -/
def normalizeChars : List Char → List Char
  | '~' :: cs => '~' :: cs
  | cs => if cs.contains '~' then '~' :: cs else cs

def normalizeName (name : String) : String := .ofList (normalizeChars name.toList)

/-- An empty piece between two tildes marks the next piece as the name of an internal tag. -/
def atoms (marked : Bool) : List (List Char) → List (List Char)
  | [] => []
  | [] :: pieces => atoms true pieces
  | (c :: cs) :: pieces => (if marked then '~' :: c :: cs else c :: cs) :: atoms false pieces

/-- Drops the tilde that marks a tied tag. A numeric tag keeps its own. -/
def dropTie : List Char → List Char
  | '~' :: '#' :: cs => '~' :: '#' :: cs
  | '~' :: cs => cs
  | cs => cs

def isAtomic (name : List Char) : Bool := !(name.drop 1).contains '~'

def splitName (name : List Char) : List (List Char) :=
  if isAtomic name then [name] else atoms false (Text.splitChars '~' (dropTie name))

/-- The tags that a tied tag ties together. -/
def tagParts (name : String) : List String := (splitName name.toList).map .ofList

end SongPattern.Pattern

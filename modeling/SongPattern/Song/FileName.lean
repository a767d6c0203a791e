import SongPattern.Text.Pieces

namespace SongPattern.FileName

/-- A slash, or a dot of its own, at the very start of a path belongs to no component. -/
def anchor : List Char → List Char
  | '/' :: _ => ['/']
  | ['.'] => ['.']
  | '.' :: '/' :: _ => ['.']
  | _ => []

/-- Empty components and single dots stand for nothing. -/
def isIdle (piece : List Char) : Bool := piece = [] || piece = ['.']

def dropIdleEnd (pieces : List (List Char)) : List (List Char) :=
  (pieces.reverse.dropWhile isIdle).reverse

def components (path : List Char) : List (List Char) :=
  dropIdleEnd (Text.splitChars '/' (path.drop (anchor path).length))

/-- The last component, unless it leads upwards. -/
def base? (path : List Char) : Option (List Char) :=
  (components path).getLast?.filter (· ≠ ['.', '.'])

/-- The path without its last component. -/
def directory? (path : List Char) : Option (List Char) :=
  match components path with
  | [] => none
  | pieces@(_ :: _) =>
    some (anchor path ++ ['/'].intercalate (dropIdleEnd pieces.dropLast))

end SongPattern.FileName

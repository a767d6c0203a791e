import SongPattern.Program.Instr
import SongPattern.Text.Lowercase
import SongPattern.Text.Pieces

namespace SongPattern

inductive Comparison where
  | less
  | lessEqual
  | greater
  | greaterEqual
  | equal
  | notEqual
  deriving DecidableEq

namespace Comparison

/-- Nothing compares with a number that is none, except that it is unequal to all. -/
def holds (op : Comparison) (x y : Float) : Bool :=
  match op with
  | .less => x < y
  | .lessEqual => x ≤ y
  | .greater => y < x
  | .greaterEqual => y ≤ x
  | .equal => x == y
  | .notEqual => x != y

/-- The operator that a text starts with, and what follows it. The longer one wins. -/
def read? : List Char → Option (Comparison × List Char)
  | '<' :: '=' :: cs => some (.lessEqual, cs)
  | '>' :: '=' :: cs => some (.greaterEqual, cs)
  | '!' :: '=' :: cs => some (.notEqual, cs)
  | '<' :: cs => some (.less, cs)
  | '>' :: cs => some (.greater, cs)
  | '=' :: cs => some (.equal, cs)
  | _ => none

end Comparison

/-- What an engine makes of the source of a regex: the test whether a text has a match, case aside,
or nothing where the source is no regex. -/
abbrev RegexEngine := String → Option (String → Bool)

/-- A predicate on a song. -/
inductive Query where
  /-- The text of the tag contains the needle, case aside; the needle is in lower case. -/
  | contains (tag needle : String)
  /-- One of the lines of the tag is the value. -/
  | equals (tag value : String)
  | matches (tag source : String) (found : String → Bool)
  | numeric (tag : String) (op : Comparison) (value : Float)

namespace Query

/-- A tag name in a query may hold neither blanks nor what has a meaning in queries. -/
def isTagName (name : List Char) : Bool :=
  !name.isEmpty && name.all fun c => !Text.isBlank c && !"=!/\"'()&|<>,".toList.contains c

/-- The text between two equal marks at its ends. -/
def enclosed? (mark : Char) : List Char → Option (List Char)
  | first :: rest =>
    if first = mark && rest.getLast? = some mark then some rest.dropLast else none
  | [] => none

def readNumeric? (inner : List Char) : Option Query := do
  let isOperator (c : Char) : Bool := c = '<' || c = '>' || c = '=' || c = '!'
  let tag := Text.trimEnd (Text.trimStart (inner.takeWhile fun c => !isOperator c))
  let (op, rest) ← Comparison.read? (inner.dropWhile fun c => !isOperator c)
  guard (isTagName tag)
  return .numeric (.ofList tag) op (← Number.readFloat? (Text.trim (.ofList rest)))

section Engine

variable (engine : RegexEngine)

/-- Reads the value behind `tag=`. -/
def readValue? (tag : String) (value : List Char) : Option Query :=
  match enclosed? '"' value <|> enclosed? '\'' value with
  | some inner => some (.equals tag (.ofList inner))
  | none =>
    match enclosed? '/' value with
    | some source => (engine (.ofList source)).map (.matches tag (.ofList source))
    | none => if value.isEmpty then none else some (.contains tag (Text.lower (.ofList value)))

/-- The inside of `#(…)`. -/
def numericInside? : List Char → Option (List Char)
  | '#' :: '(' :: rest => if rest.getLast? = some ')' then some rest.dropLast else none
  | _ => none

/-- Reads a query: `tag=text`, `tag="text"`, `tag=/regex/` or `#(tag < number)`. -/
def read? (text : String) : Option Query :=
  match numericInside? text.toList with
  | some inner => readNumeric? inner
  | none =>
    let tag := text.toList.takeWhile (· ≠ '=')
    match text.toList.drop tag.length with
    | [] => none
    | _ :: value => if isTagName tag then readValue? engine (.ofList tag) value else none

end Engine

def holds (q : Query) (song : Song) : Bool :=
  match q with
  | .contains tag needle =>
    Text.occursIn needle.toList (Text.lower (song.textOf tag)).toList
  | .equals tag value => (Text.split '\n' (song.textOf tag)).contains value
  | .matches tag _ found => found (song.textOf tag)
  | .numeric tag op value =>
    match (song.get tag).bind Value.number? with
    | some n => op.holds n value
    | none => false

/-- The built-in parser. -/
def parser (engine : RegexEngine) : QueryParser := fun text => (read? engine text).map holds

/-- A parser that knows no queries. -/
def noParser : QueryParser := fun _ => none

end Query

end SongPattern

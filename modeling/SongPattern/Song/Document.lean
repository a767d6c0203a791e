import SongPattern.Error
import SongPattern.Song.TagTable
import SongPattern.Yaml.Value

namespace SongPattern.TagTable

open Yaml (Document Node)

/-- An integer beyond a signed word of 64 bits is a floating-point number. -/
def numberOf (n : Int) : Value :=
  if Number.fitsWord n then .int n else .float (Number.toFloat n)

/-- Only a tag named `~#` keeps a number; for others it is written out. -/
def plainNumber (numeric : Bool) : Value → Value
  | .float f => if numeric then .float f else .text (Number.shortestText f)
  | value => if numeric then value else .text value.display

def itemText? (d : Document) (n : Node) : Option String := do
  match ← d.resolve? n with
  | .scalar s style tag =>
    match Yaml.Value.ofScalar? s style tag with
    | some (.text s) => some s
    | _ => none
  | _ => none

/-- The value of a tag: a text, a number, or a list of texts, which become its lines. -/
def valueOf? (d : Document) (numeric : Bool) (n : Node) : Option Value := do
  match ← d.resolve? n with
  | .scalar s style tag =>
    match ← Yaml.Value.ofScalar? s style tag with
    | .int n => return plainNumber numeric (numberOf n)
    | .float f => return plainNumber numeric (.float f)
    | .text s => return .text s
    | _ => none
  | .list items tag =>
    guard (tag ≠ some .own)
    return .text (Text.joinWith "\n" (← items.mapM (itemText? d)))
  | _ => none

def isNumberName (name : String) : Bool :=
  match name.toList with
  | '~' :: '#' :: _ => true
  | _ => false

def addTag? (d : Document) (t : TagTable) (entry : Node × Node) : Option TagTable := do
  match ← d.resolve? entry.1 with
  | .scalar name _ _ => return t.set name (← valueOf? d (isNumberName name) entry.2)
  | _ => none

/-- The aliases that are followed to read a node; those in a list count each time it is read. -/
def aliasesIn (d : Document) (n : Node) : Nat :=
  let own := if n.isAlias then 1 else 0
  match d.resolve? n with
  | some (.list items _) => own + items.countP Node.isAlias
  | _ => own

/-- A map of tags, or nothing at all. Of two values for a tag the later one counts. A small document
may not grow without bounds through its aliases. -/
def ofDocument? (d : Document) : Option TagTable :=
  match d.root with
  | .map entries _ => do
    let followed := entries.map fun entry => aliasesIn d entry.1 + aliasesIn d entry.2
    guard (followed.foldr (· + ·) 0 ≤ 100 * d.root.size)
    entries.foldlM (addTag? d) empty
  | .scalar "" .plain _ => some empty
  | _ => none

/-- Reads a song from a document. -/
def ofYaml (text : String) : Except PatternError TagTable :=
  match Document.ofText? text with
  | none => .error (.unreadable "the document is malformed")
  | some none => .ok empty
  | some (some d) =>
    match ofDocument? d with
    | some t => .ok t
    | none => .error (.unreadable "a song is a map from tags to texts, numbers and lists of texts")

end SongPattern.TagTable

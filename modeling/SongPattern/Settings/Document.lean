import SongPattern.Error
import SongPattern.Settings
import SongPattern.Yaml.Value

namespace SongPattern.Settings

open Yaml (Document Node Tag)

/-- A scalar that is read for what it says, whatever its tag. A literal block counts only if its tag
asks for the kind of value. -/
def scalarOf? (d : Document) (kind : Tag) (n : Node) : Option String := do
  match ← d.resolve? n with
  | .scalar s .plain _ => some s
  | .scalar s .literal (some tag) => if tag = kind then some s else none
  | _ => none

/-- A minus sign is refused even before a zero. -/
def sizeOf? (d : Document) (n : Node) : Option Nat := do
  let s ← scalarOf? d .int n
  guard (s.toList.head? ≠ some '-')
  let n ← Yaml.Value.readInt? s
  guard (n < 0x10000000000000000)
  return n.toNat

def switchOf? (d : Document) (n : Node) : Option Bool := do
  Yaml.Value.readBool? (← scalarOf? d .bool n)

/-- The entries of a map with their names; an empty text is a map without entries. -/
def fields? (d : Document) (n : Node) : Option (List (String × Node)) := do
  match ← d.resolve? n with
  | .map entries _ => entries.mapM fun entry => do
    match ← d.resolve? entry.1 with
    | .scalar name _ _ => return (name, entry.2)
    | _ => none
  | .scalar "" .plain _ => some []
  | _ => none

/-- The value of a field, or `fallback` if there is none. A field may not be given twice. -/
def field? {α : Type} (fields : List (String × Node)) (name : String) (fallback : α)
    (read : Node → Option α) : Option α :=
  match fields.filter (·.1 = name) with
  | [] => some fallback
  | [entry] => read entry.2
  | _ => none

def pathOf? (d : Document) (n : Node) : Option PathOptions := do
  let fields ← fields? d n
  let usual : PathOptions := {}
  return {
    ellipsis := ← field? fields "ellipsis" usual.ellipsis (switchOf? d)
    maxSegment := ← field? fields "max-segment-len" usual.maxSegment (sizeOf? d) }

def ofDocument? (d : Document) : Option Settings := do
  let fields ← fields? d d.root
  let usual : Settings := {}
  return {
    capacity := ← field? fields "capacity" usual.capacity (sizeOf? d)
    path := ← field? fields "path" usual.path (pathOf? d) }

/-- Reads settings from a document. What it does not mention stays as usual. -/
def ofYaml (text : String) : Except PatternError Settings :=
  match Document.ofText? text with
  | none => .error (.unreadable "the document is malformed")
  | some none => .ok {}
  | some (some d) =>
    match ofDocument? d with
    | some s => .ok s
    | none => .error (.unreadable "a setting has a value of the wrong kind")

end SongPattern.Settings

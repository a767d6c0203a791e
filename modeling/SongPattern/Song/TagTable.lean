import SongPattern.Pattern.TagName
import SongPattern.Song.Basic
import SongPattern.Song.FileName

namespace SongPattern

/-- The stored tags of a song, each name once. -/
structure TagTable where
  entries : List (String × Value)

namespace TagTable

def empty : TagTable := ⟨[]⟩

def raw? (t : TagTable) (name : String) : Option Value := t.entries.lookup name

def remove (t : TagTable) (name : String) : TagTable := ⟨t.entries.filter (·.1 ≠ name)⟩

def set (t : TagTable) (name : String) (value : Value) : TagTable :=
  ⟨(name, value) :: (t.remove name).entries⟩

def ofList (entries : List (String × Value)) : TagTable :=
  entries.foldl (fun t entry => t.set entry.1 entry.2) empty

def rawText? (t : TagTable) (name : String) : Option String := (t.raw? name).map Value.display

/-- One of the numbers of a text such as `3/12`. -/
def numberPart? (t : TagTable) (name : String) (index : Nat) : Option Value := do
  let part ← (Text.split '/' (← t.rawText? name))[index]?
  return .int (← Number.readWord? (Text.trim part))

/-- The digits that the date starts with. -/
def year? (t : TagTable) : Option String := do
  let digits := (← t.rawText? "date").toList.takeWhile Char.isDigit
  if digits.isEmpty then none else some (.ofList digits)

/-- A part of the stored file name, or all of it where it lacks that part. -/
def fileNamePart? (t : TagTable) (part? : List Char → Option (List Char)) : Option Value :=
  (t.rawText? "~filename").map fun name =>
    .text (((part? name.toList).filter (!·.isEmpty)).elim name .ofList)

/-- The value of a tag that is not tied. Some are made up from other tags. -/
def atom? (t : TagTable) (name : String) : Option Value :=
  match name with
  | "~#track" => t.numberPart? "tracknumber" 0
  | "~#tracks" => t.numberPart? "tracknumber" 1
  | "~#disc" => t.numberPart? "discnumber" 0
  | "~#discs" => t.numberPart? "discnumber" 1
  | "~year" => t.year?.map .text
  | "~#year" => (t.year?.bind Number.readWord?).map .int
  | "~basename" => t.fileNamePart? FileName.base?
  | "~dirname" => t.fileNamePart? FileName.directory?
  | _ => t.raw? name

/-- How the lines of a tag and its text for display are looked up. The title and any tag with a
tilde in its name go through `get`, another is read as it is stored. -/
def through (t : TagTable) (get : String → Option Value) (name : String) : Option Value :=
  if '~' ∈ name.toList ∨ name = "title" then get name else t.raw? name

def linesOf : Option Value → List String
  | none => []
  | some (.text s) => (Text.split '\n' s).filter (· ≠ "")
  | some value => [value.display]

def isTied (name : String) : Bool :=
  match name.toList with
  | '~' :: cs => cs.contains '~'
  | _ => false

/-- A tag that is tied to no other keeps its lines; several tags have theirs joined. No part of a
tied name is tied itself, so each is looked up on its own. -/
def tied? (t : TagTable) (name : String) : Option Value :=
  let parts := Pattern.tagParts name
  let joiner := if 1 < parts.length then ", " else "\n"
  let texts := parts.map fun part => Text.joinWith joiner (linesOf (t.through t.atom? part))
  match texts.filter (· ≠ "") with
  | [] => none
  | texts => some (.text (Text.joinWith " - " texts))

def get? (t : TagTable) (name : String) : Option Value :=
  if isTied name then t.tied? name else t.atom? name

/-- The values of a tag, the empty ones dropped. -/
def list (t : TagTable) (name : String) : List String := linesOf (t.through t.get? name)

/-- Each run of line breaks becomes one comma. -/
def joinLines (inRun : Bool) : List Char → List Char
  | [] => []
  | c :: cs =>
    if c = '\n' then (if inRun then [] else [',', ' ']) ++ joinLines true cs
    else c :: joinLines false cs

def joined (t : TagTable) (name : String) : Value :=
  match t.through t.get? name with
  | some (.text s) => .text (.ofList (joinLines false (Text.trim s).toList))
  | some value => value
  | none => .text ""

/-- The tags that may have a companion to sort by. -/
def sortable : List String :=
  ["album", "albumartist", "artist", "composer", "performer", "title"]

def allLines (s : String) : List String := if s = "" then [] else Text.split '\n' s

/-- Pairs each value with the sort text on the same line, before any value is dropped. -/
def pairUp : List String → List String → List (String × String)
  | [], _ => []
  | value :: values, sorts =>
    let sort := sorts.headD ""
    let rest := pairUp values sorts.tail
    if value = "" then rest else (value, if sort = "" then value else sort) :: rest

def textOf (t : TagTable) (name : String) : String := (t.get? name).elim "" Value.display

/-- The values of a tag beside the texts to sort them by. -/
def sortPairs (t : TagTable) (name : String) : List (String × String) :=
  let sorts := if name ∈ sortable then t.textOf (name ++ "sort") else ""
  pairUp (allLines (t.textOf name)) (allLines sorts)

def pairs (t : TagTable) (name : String) : List (String × String) :=
  if isTied name then (Pattern.tagParts name).flatMap t.sortPairs else t.sortPairs name

def song (t : TagTable) : Song := ⟨t.get?, t.joined, t.pairs⟩

end TagTable

end SongPattern

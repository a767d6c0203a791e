import SongPattern.Regex.Basic
import SongPattern.Unicode.Age
import SongPattern.Unicode.Alphabet
import SongPattern.Unicode.Boundary
import SongPattern.Unicode.Folding
import SongPattern.Unicode.Script

namespace SongPattern.Regex

open Unicode (CharSet)

/-- The switches that a regex can set for itself. -/
structure Flags where
  ignoreCase : Bool := true
  multiLine : Bool := false
  dotAll : Bool := false
  unicode : Bool := true
  crlf : Bool := false
  spaced : Bool := false
  swapLazy : Bool := false

def asciiDigits : CharSet := .range 48 57
def asciiUpper : CharSet := .range 65 90
def asciiLower : CharSet := .range 97 122
def asciiLetters : CharSet := asciiUpper.union asciiLower
def asciiWord : CharSet := .unions [asciiDigits, asciiLetters, .single 95]
def asciiSpace : CharSet := .ofRanges [(9, 13), (32, 32)]

/-- The bracketed names, as in `[[:alpha:]]`. -/
def posixClass? (name : String) : Option CharSet :=
  match name with
  | "alnum" => some (asciiDigits.union asciiLetters)
  | "alpha" => some asciiLetters
  | "ascii" => some (.range 0 0x7f)
  | "blank" => some (.ofRanges [(9, 9), (32, 32)])
  | "cntrl" => some (.ofRanges [(0, 31), (0x7f, 0x7f)])
  | "digit" => some asciiDigits
  | "graph" => some (.range 33 126)
  | "lower" => some asciiLower
  | "print" => some (.range 32 126)
  | "punct" => some (.ofRanges [(33, 47), (58, 64), (91, 96), (123, 126)])
  | "space" => some asciiSpace
  | "upper" => some asciiUpper
  | "word" => some asciiWord
  | "xdigit" => some (.ofRanges [(48, 57), (65, 70), (97, 102)])
  | _ => none

def digitSet (unicode : Bool) : CharSet :=
  if unicode then (Unicode.category? "nd").getD asciiDigits else asciiDigits

def spaceSet (unicode : Bool) : CharSet := if unicode then Text.blanks else asciiSpace

/-- Letters, marks, digits, connectors and joiners. -/
def wordSet (unicode : Bool) : CharSet :=
  if unicode then
    .unions ([Unicode.property? "alphabetic", Unicode.category? "m", Unicode.category? "nd",
      Unicode.category? "pc", Unicode.property? "joincontrol"].filterMap id)
  else asciiWord

namespace Flags

/-- The set under a backslash and one letter; a capital means the others. -/
def letterClass? (f : Flags) (c : Char) : Option CharSet :=
  let pick (set : CharSet) (negated : Bool) : Option CharSet :=
    if !negated then some set else if f.unicode then some set.complement else none
  match c with
  | 'd' => pick (digitSet f.unicode) false
  | 'D' => pick (digitSet f.unicode) true
  | 's' => pick (spaceSet f.unicode) false
  | 'S' => pick (spaceSet f.unicode) true
  | 'w' => pick (wordSet f.unicode) false
  | 'W' => pick (wordSet f.unicode) true
  | _ => none

/-- Takes in what differs only in case, if case is ignored. -/
def fold (f : Flags) (set : CharSet) : CharSet :=
  if !f.ignoreCase then set
  else if f.unicode then set.closeCase
  else
    let upper := set.inter asciiUpper
    let lower := set.inter asciiLower
    .unions [set, ⟨upper.ranges.map fun r => (r.1 + 32, r.2 + 32)⟩,
      ⟨lower.ranges.map fun r => (r.1 - 32, r.2 - 32)⟩]

/-- Without Unicode the others of a set would be bytes that are no characters. -/
def foldNegate? (f : Flags) (negated : Bool) (set : CharSet) : Option CharSet :=
  if !negated then some (f.fold set)
  else if f.unicode then some (f.fold set).complement
  else none

def charSet (f : Flags) (c : Char) : CharSet :=
  if f.ignoreCase && f.unicode then Unicode.caseOrbit c.toNat
  else f.fold (.single c.toNat)

def dot? (f : Flags) : Option CharSet :=
  if !f.unicode then none
  else if f.dotAll then some .all
  else if f.crlf then some (CharSet.ofRanges [(10, 10), (13, 13)]).complement
  else some (CharSet.single 10).complement

end Flags

/-- The loose spelling of a name: small letters, without spaces, underscores, hyphens or a leading
`is`. The short name of the ISO comments would lose its start, so it stays whole. -/
def looseName (name : List Char) : String :=
  let bare (cs : List Char) : List Char :=
    (cs.filter fun c => c ≠ ' ' && c ≠ '_' && c ≠ '-' && c.toNat < 0x80).map Char.toLower
  match name.map Char.toLower with
  | 'i' :: 's' :: rest => if bare rest = ['c'] then "isc" else .ofList (bare rest)
  | _ => .ofList (bare name)

/-- A property by its own name. `cf`, `sc` and `lc` mean the categories of that name. -/
def namedSet? (name : List Char) : Option CharSet :=
  let name := looseName name
  if name ∈ ["cf", "sc", "lc"] then Unicode.category? name
  else Unicode.property? name <|> Unicode.category? name <|> Unicode.script? name

/-- A property by its value, as in `sc=Greek`. -/
def valuedSet? (property value : List Char) : Option CharSet :=
  let value := looseName value
  match looseName property with
  | "gc" | "generalcategory" => Unicode.category? value
  | "sc" | "script" => Unicode.script? value
  | "scx" | "scriptextensions" => Unicode.scriptExtensions? value
  | "age" => Unicode.age? value
  | "gcb" | "graphemeclusterbreak" => Unicode.lookupSet? Unicode.graphemeClasses value
  | "wb" | "wordbreak" => Unicode.lookupSet? Unicode.wordClasses value
  | "sb" | "sentencebreak" => Unicode.lookupSet? Unicode.sentenceClasses value
  | _ => none

/-- Splits at the first place where `sep` stands. -/
def splitAtFirst? (sep : List Char) : List Char → Option (List Char × List Char)
  | [] => none
  | c :: cs =>
    if sep.isPrefixOf (c :: cs) then some ([], (c :: cs).drop sep.length)
    else (splitAtFirst? sep cs).map fun parts => (c :: parts.1, parts.2)

/-- The set that the name between the braces of `\p` stands for. -/
def bracedSet? (f : Flags) (negated : Bool) (name : List Char) : Option CharSet := do
  guard f.unicode
  match splitAtFirst? ['!', '='] name with
  | some (property, value) => f.foldNegate? (!negated) (← valuedSet? property value)
  | none =>
    match splitAtFirst? [':'] name <|> splitAtFirst? ['='] name with
    | some (property, value) => f.foldNegate? negated (← valuedSet? property value)
    | none => f.foldNegate? negated (← namedSet? name)

end SongPattern.Regex

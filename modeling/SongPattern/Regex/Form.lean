import SongPattern.Regex.Basic
import SongPattern.Unicode.Utf8

namespace SongPattern.Regex

open Unicode (CharSet Spelling)

/-- A regex in the shape that an automaton is built from. -/
inductive Form where
  | empty
  | literal (codes : List Nat)
  /-- A set beside its spellings, which every copy of it goes through. -/
  | chars (set : CharSet) (spellings : List Spelling)
  | anchor (a : Anchor)
  | repeated (f : Form) (least : Nat) (most : Option Nat) (lazy : Bool)
  | capture (f : Form)
  | concat (fs : List Form)
  | alt (fs : List Form)

namespace Form

def ofSet (set : CharSet) : Form :=
  match set.ranges with
  | [(a, b)] => if a = b then .literal [a] else .chars set set.spellings
  | _ => .chars set set.spellings

mutual

/-- The bytes of the shortest text that matches, if any does. -/
def minLength? : Form → Option Nat
  | .empty | .anchor _ => some 0
  | .literal codes => some (codes.flatMap Unicode.utf8Bytes).length
  | .chars set _ => set.ranges.head?.map fun r => (Unicode.utf8Bytes r.1).length
  | .repeated f least _ _ => (minLength? f).map (· * least)
  | .capture f => minLength? f
  | .concat fs => minTotal? fs
  | .alt fs => minOfAll? fs

def minTotal? : List Form → Option Nat
  | [] => some 0
  | f :: fs => do return (← minLength? f) + (← minTotal? fs)

def minOfAll? : List Form → Option Nat
  | [] => none
  | [f] => minLength? f
  | f :: fs => do return min (← minLength? f) (← minOfAll? fs)

end

mutual

/-- The bytes of the longest text that matches, if there is one. -/
def maxLength? : Form → Option Nat
  | .empty | .anchor _ => some 0
  | .literal codes => some (codes.flatMap Unicode.utf8Bytes).length
  | .chars set _ => set.ranges.getLast?.map fun r => (Unicode.utf8Bytes r.2).length
  | .repeated f _ most _ => do return (← maxLength? f) * (← most)
  | .capture f => maxLength? f
  | .concat fs => maxTotal? fs
  | .alt fs => maxOfAll? fs

def maxTotal? : List Form → Option Nat
  | [] => some 0
  | f :: fs => do return (← maxLength? f) + (← maxTotal? fs)

def maxOfAll? : List Form → Option Nat
  | [] => none
  | [f] => maxLength? f
  | f :: fs => do return max (← maxLength? f) (← maxOfAll? fs)

end

mutual

/-- Whether every match is tied to the start of the text. -/
def isRooted : Form → Bool
  | .anchor .textStart => true
  | .repeated f least _ _ => least ≠ 0 && isRooted f
  | .capture f => isRooted f
  | .concat fs => startsRooted fs
  | .alt fs => areRooted fs
  | _ => false

def startsRooted : List Form → Bool
  | [] => false
  | f :: fs => isRooted f || (maxLength? f = some 0 && startsRooted fs)

def areRooted : List Form → Bool
  | [] => false
  | [f] => isRooted f
  | f :: fs => isRooted f && areRooted fs

end

mutual

/-- Puts what matches last first. -/
def mirror : Form → Form
  | .anchor .textStart => .anchor .textEnd
  | .anchor .textEnd => .anchor .textStart
  | .repeated f least most lazy => .repeated (mirror f) least most lazy
  | .capture f => .capture (mirror f)
  | .concat fs => .concat (mirrorAll fs).reverse
  | .alt fs => .alt (mirrorAll fs)
  | f => f

def mirrorAll : List Form → List Form
  | [] => []
  | f :: fs => mirror f :: mirrorAll fs

end

mutual

/-- Whether two parts of a regex are the same. No group that captures is the same as another. -/
def same : Form → Form → Bool
  | .empty, .empty => true
  | .literal a, .literal b => a = b
  | .chars s _, .chars t _ => s = t
  | .anchor a, .anchor b => a = b
  | .repeated f l m z, .repeated g l' m' z' => l = l' && m = m' && z = z' && same f g
  | .concat fs, .concat gs => sameAll fs gs
  | .alt fs, .alt gs => sameAll fs gs
  | _, _ => false

def sameAll : List Form → List Form → Bool
  | [], [] => true
  | f :: fs, g :: gs => same f g && sameAll fs gs
  | _, _ => false

end

/-- Puts a part before others; literals run together. -/
def before : Form → List Form → List Form
  | .literal a, .literal b :: fs => .literal (a ++ b) :: fs
  | f, fs => f :: fs

/-- The parts of a sequence; those of a sequence in it count as its own. -/
def parts : Form → List Form
  | .empty => []
  | .concat fs => fs
  | f => [f]

def ofParts (fs : List Form) : Form :=
  match (fs.flatMap parts).foldr before [] with
  | [] => .empty
  | [f] => f
  | fs => .concat fs

def branches : Form → List Form
  | .alt fs => fs
  | f => [f]

def oneCode? : Form → Option CharSet
  | .literal [n] => some (.single n)
  | _ => none

def set? : Form → Option CharSet
  | .chars set _ => some set
  | _ => none

/-- The parts of a sequence that is none of a single part. -/
def sequence? : Form → Option (List Form)
  | .concat fs => some fs
  | _ => none

/-- How many parts two sequences share at their starts. -/
def shared : List Form → List Form → Nat
  | f :: fs, g :: gs => if same f g then shared fs gs + 1 else 0
  | _, _ => 0

/-- Branches that are all one character or all sets make a set, and a start that is common to all
of them stands before them once. Each start that is taken out leaves fewer parts. -/
def ofBranches : (fuel : Nat) → List Form → Form
  | 0, fs => .alt fs
  | fuel + 1, fs =>
    match fs.flatMap branches with
    | [] => .chars .empty []
    | [f] => f
    | f :: fs =>
      match (f :: fs).mapM oneCode? <|> (f :: fs).mapM set? with
      | some sets => ofSet (.unions sets)
      | none =>
        match sequence? f, fs.mapM sequence? with
        | some first, some others =>
          let common := (others.map (shared first)).foldl min first.length
          if common = 0 then .alt (f :: fs)
          else
            let rests := (first :: others).map fun gs => ofParts (gs.drop common)
            ofParts (first.take common ++ [ofBranches fuel rests])
        | _, _ => .alt (f :: fs)

/-- What matches nothing but the empty text need not be repeated more than once. -/
def ofRepeated (f : Form) (least : Nat) (most : Option Nat) (lazy : Bool) : Form :=
  let (least, most) :=
    if maxLength? f = some 0 then (min least 1, some (min (most.getD 1) 1)) else (least, most)
  if least = 0 && most = some 0 then .empty
  else if least = 1 && most = some 1 then f
  else .repeated f least most lazy

mutual

/-- How many parts a form is made of. -/
def size : Form → Nat
  | .repeated f _ _ _ | .capture f => size f + 1
  | .concat fs | .alt fs => sizes fs + 1
  | _ => 1

def sizes : List Form → Nat
  | [] => 0
  | f :: fs => size f + sizes fs

end

mutual

def ofRegex : Regex → Form
  | .chars set => ofSet set
  | .anchor a => .anchor a
  | .repeated r least most lazy => ofRepeated (ofRegex r) least most lazy
  | .capture r => .capture (ofRegex r)
  | .concat rs => ofParts (ofRegexes rs)
  | .alt rs =>
    let fs := ofRegexes rs
    ofBranches (sizes fs + 1) fs

def ofRegexes : List Regex → List Form
  | [] => []
  | r :: rs => ofRegex r :: ofRegexes rs

end

end Form

end SongPattern.Regex

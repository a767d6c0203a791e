import SongPattern.Regex.Form
import Std.Data.HashMap

namespace SongPattern.Regex.Automaton

open Unicode (Spelling)

/-- What the states of a growing automaton take: 32 bytes each, and a state with several ways on
some more. -/
structure Room where
  states : Nat
  extra : Nat

/-- The bytes that the largest allowed automaton takes. -/
def maxRoom : Nat := 10 <<< 20

def Room.bytes (r : Room) : Nat := 32 * r.states + r.extra

/-- Building stops as soon as the automaton is too large. -/
abbrev Build := StateT Room Option

namespace Build

/-- Adds states and gives the number of the first one. -/
def states (count extra : Nat) : Build Nat := fun r =>
  let next : Room := ⟨r.states + count, r.extra + extra⟩
  if next.bytes ≤ maxRoom then some (r.states, next) else none

def state : Build Nat := states 1 0

/-- A state that reads one byte, with a number of ways on. -/
def reader (ways : Nat) : Build Nat := states 1 (8 * ways)

/-- One more way out of a fork. -/
def way : Build Unit := do
  let _ ← states 0 4

end Build

open Build

/-- A part of an automaton: the numbers of the states where it starts and stops. -/
structure Fragment where
  start : Nat
  stop : Nat
  /-- Whether it stops at a fork, which takes room for its way to what follows. -/
  forked : Bool

/-- Leads from the end of a fragment to another state. -/
def Fragment.lead (f : Fragment) : Build Unit := if f.forked then way else pure ()

def single : Build Fragment := do
  let n ← state
  return ⟨n, n, false⟩

def chain : (count : Nat) → Build Fragment → Fragment → Build Fragment
  | 0, _, before => pure before
  | count + 1, one, before => do
    let next ← one
    before.lead
    chain count one ⟨before.start, next.stop, next.forked⟩

def exactly (one : Build Fragment) : (count : Nat) → Build Fragment
  | 0 => single
  | count + 1 => do chain count one (← one)

def optional (one : Build Fragment) : Build Fragment := do
  let fork ← state
  let inner ← one
  let stop ← state
  way
  way
  inner.lead
  return ⟨fork, stop, false⟩

/-- Each copy may be left out, together with those behind it. -/
def upTo (stop : Nat) (one : Build Fragment) : (count : Nat) → Fragment → Build Fragment
  | 0, before => do
    before.lead
    return ⟨before.start, stop, false⟩
  | count + 1, before => do
    let _ ← state
    let inner ← one
    before.lead
    way
    way
    upTo stop one count ⟨before.start, inner.stop, inner.forked⟩

def between (one : Build Fragment) (least most : Nat) : Build Fragment := do
  let first ← exactly one least
  if least = most then return first
  let stop ← state
  upTo stop one (most - least) first

/-- A loop around what cannot be empty needs one fork only, one around anything else two. -/
def loop (one : Build Fragment) (advances : Bool) : Build Fragment := do
  if advances then
    let fork ← state
    let inner ← one
    way
    inner.lead
    return ⟨fork, fork, true⟩
  else
    let inner ← one
    let _ ← state
    inner.lead
    way
    let fork ← state
    let stop ← state
    way
    way
    way
    return ⟨fork, stop, false⟩

def atLeast (one : Build Fragment) (advances : Bool) : (least : Nat) → Build Fragment
  | 0 => loop one advances
  | least + 1 => do
    let last ← exactly one (least + 1)
    let fork ← state
    last.lead
    way
    return ⟨last.start, fork, true⟩

/-- States that can be used again, by what they do. There are so many slots, and a state that has
to share its slot with a newer one is forgotten. -/
abbrev Memory := Std.HashMap Nat (List Nat × Nat)

def slotOf (slots : Nat) (key : List Nat) : Nat :=
  let mix (h : UInt64) (n : Nat) : UInt64 := (h ^^^ .ofNat n) * 1099511628211
  (key.foldl mix 14695981039346656037).toNat % slots

def reuse (slots : Nat) (memory : Memory) (key : List Nat) (make : Build Nat) :
    Build (Nat × Memory) := do
  let slot := slotOf slots key
  let fresh : Build (Nat × Memory) := do
    let n ← make
    return (n, memory.insert slot (key, n))
  match memory[slot]? with
  | some (known, n) => if known = key then return (n, memory) else fresh
  | none => fresh

/-- The bytes of a spelling in the order of the text, each leading to the one read before. -/
def spellBackward (memory : Memory) (after : Nat) : Spelling → Build (Nat × Memory)
  | [] => pure (after, memory)
  | (a, b) :: rest => do
    let (n, memory) ← reuse 1000 memory [after, a, b] state
    spellBackward memory n rest

def spellAllBackward (stop : Nat) (memory : Memory) : List Spelling → Build Unit
  | [] => pure ()
  | s :: rest => do
    let (_, memory) ← spellBackward memory stop s
    way
    spellAllBackward stop memory rest

/-- Neighbours that start with the same bytes, the rest of each behind them. -/
def byFirst : List Spelling → List ((Nat × Nat) × List Spelling)
  | [] => []
  | [] :: more => byFirst more
  | (r :: rest) :: more =>
    match byFirst more with
    | (q, group) :: groups =>
      if r = q then (q, rest :: group) :: groups else (r, [rest]) :: (q, group) :: groups
    | [] => [(r, [rest])]

/-- The state for some spellings, after those that it leads to. Equal states are shared. -/
def spellForward (stop : Nat) :
    (fuel : Nat) → Memory → List Spelling → Build (Nat × Memory)
  | 0, memory, _ => pure (stop, memory)
  | fuel + 1, memory, spellings => do
    let groups := byFirst spellings
    let (ways, memory) ← groups.foldlM
      (fun (ways, memory) ((a, b), group) => do
        let (n, memory) ←
          if group.all List.isEmpty then pure (stop, memory)
          else spellForward stop fuel memory group
        return (n :: b :: a :: ways, memory))
      ([], memory)
    reuse 10000 memory ways.reverse (reader groups.length)

def setFragment (backward : Bool) (ranges : List (Nat × Nat)) (spellings : List Spelling) :
    Build Fragment := do
  if ranges.all fun r => r.2 < 0x80 then
    let stop ← state
    let start ← reader ranges.length
    return ⟨start, stop, false⟩
  else if backward then
    let fork ← state
    let stop ← state
    spellAllBackward stop {} spellings
    return ⟨fork, stop, false⟩
  else
    let stop ← state
    let (start, _) ← spellForward stop 4 {} spellings
    return ⟨start, stop, false⟩

/-- Cuts a list of words where one ends, since the words behind it come second to it. Several that
end at the very start count once. -/
def cutAtEnds : List (List Nat) → List (List (List Nat))
  | [] => [[]]
  | [] :: words => [] :: cutAtEnds words
  | word :: words =>
    match cutAtEnds words with
    | first :: rest => (word :: first) :: rest
    | [] => [[word]]

def afterFirstEnds : List (List Nat) → List (List Nat)
  | [] :: [] :: words => afterFirstEnds ([] :: words)
  | words => words

/-- The states and the further room of a tree of words, but for its common end. -/
def treeRoom : (fuel : Nat) → List (List Nat) → Nat × Nat
  | 0, _ => (0, 0)
  | fuel + 1, words =>
    let groups := cutAtEnds (afterFirstEnds words)
    let ways := (groups.filter (!·.isEmpty)).length + (groups.length - 1)
    let ofGroup (group : List (List Nat)) : Nat × Nat :=
      let heads := (group.filterMap List.head?).eraseDups
      let own :=
        if heads.isEmpty then (0, 0) else (1, if heads.length = 1 then 0 else 8 * heads.length)
      heads.foldl
        (fun sum head =>
          let rests := (group.filter (·.head? = some head)).map List.tail
          let inner := if rests.all List.isEmpty then (0, 0) else treeRoom fuel rests
          (sum.1 + inner.1, sum.2 + inner.2))
        own
    groups.foldl
      (fun sum group => (sum.1 + (ofGroup group).1, sum.2 + (ofGroup group).2)) (1, 4 * ways)

def treeFragment (words : List (List Nat)) : Build Fragment := do
  let longest := (words.map List.length).foldl max 0
  let room := treeRoom (longest + 1) words
  let stop ← states (room.1 + 1) room.2
  return ⟨stop + room.1, stop, false⟩

def word? : Form → Option (List Nat)
  | .literal codes => some (codes.flatMap Unicode.utf8Bytes)
  | _ => none

mutual

/-- Adds the states for a form. Only forward the groups that capture leave a mark. -/
def build (backward : Bool) : Form → Build Fragment
  | .empty | .anchor _ => single
  | .literal codes => do
    let count := (codes.flatMap Unicode.utf8Bytes).length
    let first ← states count 0
    return ⟨first, first + count - 1, false⟩
  | .chars set spellings => setFragment backward set.ranges spellings
  | .repeated f least most _ =>
    let one := build backward f
    match least, most with
    | 0, some 1 => optional one
    | least, some most => between one least most
    | least, none => atLeast one (f.minLength?.any (0 < ·)) least
  | .capture f =>
    if backward then build backward f
    else do
      let start ← state
      let inner ← build backward f
      let stop ← state
      inner.lead
      return ⟨start, stop, false⟩
  | .concat fs => buildParts backward none fs
  | .alt fs =>
    match fs.mapM word? with
    | some words => treeFragment (if backward then words.map List.reverse else words)
    | none => buildBranches backward fs

def buildParts (backward : Bool) (before? : Option Fragment) : List Form → Build Fragment
  | [] =>
    match before? with
    | some before => pure before
    | none => single
  | f :: fs => do
    let next ← build backward f
    match before? with
    | some before =>
      before.lead
      buildParts backward (some ⟨before.start, next.stop, next.forked⟩) fs
    | none => buildParts backward (some next) fs

/-- The fork and the end of branches are made once the second one is there. -/
def buildBranches (backward : Bool) : List Form → Build Fragment
  | [] => single
  | f :: fs => do
    let first ← build backward f
    match fs with
    | [] => return first
    | g :: gs =>
      let second ← build backward g
      let fork ← state
      let stop ← state
      way
      first.lead
      way
      second.lead
      buildMore backward gs
      return ⟨fork, stop, false⟩

def buildMore (backward : Bool) : List Form → Build Unit
  | [] => pure ()
  | f :: fs => do
    let next ← build backward f
    way
    next.lead
    buildMore backward fs

end

/-- Adds all states of an automaton. Unless every match starts where the text does, a loop over any
bytes stands in front. -/
def buildAll (backward : Bool) (f : Form) : Build Unit := do
  if f.isRooted then let _ ← state
  else
    let _ ← states 3 8
    way
  let marked (inner : Build Fragment) : Build Fragment :=
    if backward then inner
    else do
      let start ← state
      let inner ← inner
      let stop ← state
      inner.lead
      return ⟨start, stop, false⟩
  let whole ← marked (build backward f)
  let _ ← state
  whole.lead
  if !f.isRooted then way

end Automaton

/-- Whether there is room for the automaton that searches a text and for the one that reads a match
from its end. -/
def fits (r : Regex) : Bool :=
  let form := Form.ofRegex r
  (Automaton.buildAll false form ⟨0, 0⟩).isSome &&
    (Automaton.buildAll true form.mirror ⟨0, 0⟩).isSome

end SongPattern.Regex

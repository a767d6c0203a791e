import SongPattern.Regex.Basic

namespace SongPattern.Regex

open Unicode (CharSet)

/-- A set of places in a text: bit `i` stands for the place behind `i` characters. -/
abbrev Places := Nat

/-- The places for which `test` holds, given what is before and what is behind them. -/
def placesWhere (test : Option Char → Option Char → Bool) (before : Option Char) :
    List Char → Places
  | [] => if test before none then 1 else 0
  | c :: cs =>
    2 * placesWhere test (some c) cs + if test before (some c) then 1 else 0

def isIn (set : CharSet) (c? : Option Char) : Bool := c?.any set.contains

/-- Between the two characters of a line break with carriage return no line starts or ends. -/
def anchorTest : Anchor → Option Char → Option Char → Bool
  | .textStart, before, _ => before.isNone
  | .textEnd, _, after => after.isNone
  | .lineStart false, before, _ => before.isNone || before = some '\n'
  | .lineStart true, before, after =>
    before.isNone || before = some '\n' || (before = some '\r' && after ≠ some '\n')
  | .lineEnd false, _, after => after.isNone || after = some '\n'
  | .lineEnd true, before, after =>
    after.isNone || after = some '\r' || (after = some '\n' && before ≠ some '\r')
  | .boundary word, before, after => isIn word before != isIn word after
  | .noBoundary word, before, after => isIn word before == isIn word after
  | .wordStart word, before, after => !isIn word before && isIn word after
  | .wordEnd word, before, after => isIn word before && !isIn word after
  | .wordStartHalf word, before, _ => !isIn word before
  | .wordEndHalf word, _, after => !isIn word after

/-- A regex laid over one text: a step passes one character, a stay passes none, each from the
places given. -/
inductive Path where
  | step (places : Places)
  | stay (places : Places)
  | concat (p q : Path)
  | alt (p q : Path)
  | repeated (p : Path) (least : Nat) (most : Option Nat)

mutual

def layOver (text : List Char) : Regex → Path
  | .chars set => .step (placesWhere (fun _ after => isIn set after) none text)
  | .anchor a => .stay (placesWhere (anchorTest a) none text)
  | .concat rs => layConcat text rs
  | .alt rs => layAlt text rs
  | .repeated r least most _ => .repeated (layOver text r) least most
  | .capture r => layOver text r

def layConcat (text : List Char) : List Regex → Path
  | [] => .stay ((1 <<< (text.length + 1)) - 1)
  | [r] => layOver text r
  | r :: rs => .concat (layOver text r) (layConcat text rs)

def layAlt (text : List Char) : List Regex → Path
  | [] => .stay 0
  | [r] => layOver text r
  | r :: rs => .alt (layOver text r) (layAlt text rs)

end

/-- Stops early where a round changes nothing, since no later one would. -/
def rounds (round : Places → Places) : Nat → Places → Places
  | 0, places => places
  | n + 1, places =>
    let next := round places
    if next = places then places else rounds round n next

/-- Collects what up to `n` more rounds reach; only the new places need another round. -/
def spread (round : Places → Places) : Nat → (reached fresh : Places) → Places
  | 0, reached, _ => reached
  | n + 1, reached, fresh =>
    let next := round fresh
    let more := next ^^^ (next &&& reached)
    if more = 0 then reached else spread round n (reached ||| more) more

/-- The places where a match can end that starts at one of `places`. Each round of a repetition
without limit reaches a new place or is the last. -/
def Path.ends (length : Nat) : Path → Places → Places
  | .step mask, places => (places &&& mask) <<< 1
  | .stay mask, places => places &&& mask
  | .concat p q, places => q.ends length (p.ends length places)
  | .alt p q, places => p.ends length places ||| q.ends length places
  | .repeated p least most, places =>
    let first := rounds (p.ends length) least places
    spread (p.ends length) (most.elim (length + 1) (· - least)) first first

/-- Whether the regex matches somewhere in the text. -/
def matches? (r : Regex) (text : String) : Bool :=
  let cs := text.toList
  (layOver cs r).ends cs.length ((1 <<< (cs.length + 1)) - 1) ≠ 0

end SongPattern.Regex

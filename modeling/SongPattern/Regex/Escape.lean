import SongPattern.Number.Integer
import SongPattern.Regex.CharClass

namespace SongPattern.Regex

open Unicode (CharSet)

/-- Passes over white space, and over comments from a number sign to the end of the line. -/
def passBlanks (inComment : Bool) : List Char → List Char
  | [] => []
  | c :: cs =>
    if inComment then passBlanks (c ≠ '\n') cs
    else if c = '#' then passBlanks true cs
    else if Text.isBlank c then passBlanks false cs
    else c :: cs

/-- Blanks and comments mean nothing to a regex that is set out with them. -/
def Flags.pass (f : Flags) (cs : List Char) : List Char :=
  if f.spaced then passBlanks false cs else cs

/-- What a backslash and the text behind it stand for. -/
inductive Escape where
  | char (c : Char)
  | chars (set : CharSet)
  | anchor (a : Anchor)

def hexDigit? (c : Char) : Option Nat :=
  if c.isDigit then some (c.toNat - 48)
  else if 'a' ≤ c && c ≤ 'f' then some (c.toNat - 87)
  else if 'A' ≤ c && c ≤ 'F' then some (c.toNat - 55)
  else none

def charOf? (n : Nat) : Option Char := if n.isValidChar then some (Char.ofNat n) else none

/-- Exactly `count` digits. -/
def hexDigits? (f : Flags) (value : Nat) : Nat → List Char → Option (Nat × List Char)
  | 0, cs => some (value, cs)
  | count + 1, cs =>
    match cs with
    | [] => none
    | c :: cs => do hexDigits? f (value * 16 + (← hexDigit? c)) count (f.pass cs)

/-- The characters up to a closing brace, and what follows it. Blanks count as the flags say. -/
def untilBrace? (f : Flags) : (fuel : Nat) → List Char → Option (List Char × List Char)
  | 0, _ => none
  | fuel + 1, cs =>
    match f.pass cs with
    | [] => none
    | '\x7d' :: rest => some ([], rest)
    | c :: rest => (untilBrace? f fuel rest).map fun r => (c :: r.1, r.2)

/-- A character by its number: two, four or eight digits, or any number of them in braces. Two
digits name a byte, which only Unicode takes for a character beyond ASCII. -/
def hexEscape? (f : Flags) (count : Nat) (cs : List Char) : Option (Escape × List Char) := do
  match f.pass cs with
  | '\x7b' :: rest =>
    let (inside, rest) ← untilBrace? f (rest.length + 1) rest
    guard !inside.isEmpty
    let value ← Number.digitsValue 16 hexDigit? 0 inside
    return (.char (← charOf? value), f.pass rest)
  | cs =>
    let (value, rest) ← hexDigits? f 0 count cs
    guard (f.unicode || count ≠ 2 || value < 0x80)
    return (.char (← charOf? value), rest)

def propertyEscape? (f : Flags) (negated : Bool) (cs : List Char) :
    Option (Escape × List Char) := do
  match f.pass cs with
  | [] => none
  | '\x7b' :: rest =>
    let (name, rest) ← untilBrace? f (rest.length + 1) rest
    return (.chars (← bracedSet? f negated name), rest)
  | c :: rest =>
    guard (f.unicode && c ≠ '\\')
    return (.chars (← f.foldNegate? negated (← namedSet? [c])), f.pass rest)

/-- The word place that `\b` and a name in braces stand for, if the brace starts a name. -/
def namedBoundary? (f : Flags) (cs : List Char) : Option (Option (Anchor × List Char)) := do
  let word := wordSet f.unicode
  match cs with
  | '\x7b' :: rest =>
    let rest := f.pass rest
    match rest with
    | [] => none
    | c :: _ =>
      if !(c.isAlpha || c = '-') then return none
      let (name, rest) ← untilBrace? f (rest.length + 1) rest
      match String.ofList name with
      | "start" => return some (.wordStart word, rest)
      | "end" => return some (.wordEnd word, rest)
      | "start-half" => return some (.wordStartHalf word, rest)
      | "end-half" => return some (.wordEndHalf word, rest)
      | _ => none
  | _ => return none

/-- ASCII that is neither letter nor digit stands for itself; the angles mark words. -/
def isQuotable (c : Char) : Bool :=
  c.toNat < 0x80 && !c.isAlphanum && c ≠ '<' && c ≠ '>'

/-- Reads what follows a backslash. There are no references back to a group. -/
def readEscape (f : Flags) : List Char → Option (Escape × List Char)
  | [] => none
  | c :: cs =>
    if isQuotable c then some (.char c, cs)
    else match f.letterClass? c with
    | some set => some (.chars set, cs)
    | none =>
      let word := wordSet f.unicode
      match c with
      | 'x' => hexEscape? f 2 cs
      | 'u' => hexEscape? f 4 cs
      | 'U' => hexEscape? f 8 cs
      | 'p' => propertyEscape? f false cs
      | 'P' => propertyEscape? f true cs
      | 'a' => some (.char '\x07', cs)
      | 'f' => some (.char '\x0c', cs)
      | 't' => some (.char '\t', cs)
      | 'n' => some (.char '\n', cs)
      | 'r' => some (.char '\r', cs)
      | 'v' => some (.char '\x0b', cs)
      | 'A' => some (.anchor .textStart, cs)
      | 'z' => some (.anchor .textEnd, cs)
      | 'B' => some (.anchor (.noBoundary word), cs)
      | '<' => some (.anchor (.wordStart word), cs)
      | '>' => some (.anchor (.wordEnd word), cs)
      | 'b' => (namedBoundary? f cs).map fun named? =>
        match named? with
        | some (a, rest) => (.anchor a, rest)
        | none => (.anchor (.boundary word), cs)
      | _ => none

end SongPattern.Regex

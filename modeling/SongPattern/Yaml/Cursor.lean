namespace SongPattern.Yaml

/-- A place in a document. The counts start at zero; the offset counts bytes, the column characters.
-/
structure Cursor where
  rest : List Char
  line : Nat
  column : Nat
  offset : Nat

def isSpace (c : Char) : Bool := c = ' ' || c = '\t'

def isBreak (c : Char) : Bool :=
  c = '\n' || c = '\r' || c = '\u0085' || c = '\u2028' || c = '\u2029'

/-- Letters, digits, `_` and `-`. -/
def isWordChar (c : Char) : Bool := c.isAlphanum || c = '_' || c = '-'

/-- What a document may hold: no control characters but tabs and line breaks. -/
def isPrintable (c : Char) : Bool :=
  let n := c.toNat
  n = 9 || n = 10 || n = 13 || (0x20 ≤ n && n ≤ 0x7e) || n = 0x85 || (0xa0 ≤ n && n ≤ 0xfffd) ||
    0x10000 ≤ n

/-- Whether a word would end here. -/
def atGap : List Char → Bool
  | [] => true
  | c :: _ => isSpace c || isBreak c

def atBreak : List Char → Bool
  | [] => true
  | c :: _ => isBreak c

namespace Cursor

def ofText (cs : List Char) : Cursor := ⟨cs, 0, 0, 0⟩

/-- How many bytes the next characters take. -/
def width (c : Cursor) (count : Nat) : Nat :=
  ((c.rest.take count).map Char.utf8Size).foldr (· + ·) 0

/-- Passes characters that break no line. -/
def skip (c : Cursor) (count : Nat) : Cursor :=
  ⟨c.rest.drop count, c.line, c.column + count, c.offset + c.width count⟩

def skipWhile (c : Cursor) (test : Char → Bool) : Cursor :=
  c.skip (c.rest.takeWhile test).length

/-- Passes a line break and tells what it stands for in a text. Only the two separators of Unicode
stand for themselves. -/
def readBreak (c : Cursor) : List Char × Cursor :=
  let next (count : Nat) : Cursor := ⟨c.rest.drop count, c.line + 1, 0, c.offset + c.width count⟩
  match c.rest with
  | '\r' :: '\n' :: _ => (['\n'], next 2)
  | '\u2028' :: _ => (['\u2028'], next 1)
  | '\u2029' :: _ => (['\u2029'], next 1)
  | ch :: _ => if isBreak ch then (['\n'], next 1) else ([], c)
  | [] => ([], c)

/-- Three hyphens or three dots, alone at the start of a line. -/
def atDocumentMark (c : Cursor) : Bool :=
  c.column = 0 &&
    match c.rest with
    | '-' :: '-' :: '-' :: rest => atGap rest
    | '.' :: '.' :: '.' :: rest => atGap rest
    | _ => false

end Cursor

end SongPattern.Yaml

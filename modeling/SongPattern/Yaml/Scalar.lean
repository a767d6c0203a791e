import SongPattern.Number.Integer
import SongPattern.Yaml.Cursor

namespace SongPattern.Yaml

/-- How a text was written. -/
inductive Style where
  | plain
  | quoted
  | literal
  | folded
  deriving DecidableEq

/-- Blanks between words: those on one line, or the first line break and those after it. -/
structure Gap where
  broken : Bool
  spaces : List Char
  first : List Char
  more : List Char

namespace Gap

def none : Gap := ⟨false, [], [], []⟩

/-- A break in a line that a backslash hides. -/
def hidden : Gap := ⟨true, [], [], []⟩

/-- One line break is a space, and of several the first one goes. -/
def text (g : Gap) : List Char :=
  if !g.broken then g.spaces
  else if g.first = ['\n'] then if g.more = [] then [' '] else g.more
  else g.first ++ g.more

/-- Passes blanks and line breaks. A tab may not stand where a line is not yet indented. -/
def read (indent : Int) : (fuel : Nat) → Gap → Cursor → Option (Gap × Cursor)
  | 0, _, _ => Option.none
  | fuel + 1, g, c =>
    match c.rest with
    | [] => some (g, c)
    | ch :: _ =>
      if isSpace ch then
        if !g.broken then read indent fuel { g with spaces := g.spaces ++ [ch] } (c.skip 1)
        else if ch = '\t' && c.column < indent then Option.none
        else read indent fuel g (c.skip 1)
      else if isBreak ch then
        let (b, c) := c.readBreak
        if g.broken then read indent fuel { g with more := g.more ++ b } c
        else read indent fuel ⟨true, [], b, []⟩ c
      else some (g, c)

end Gap

/-- Whether a plain text ends here although no blank does. -/
def endsPlain (inFlow : Bool) : List Char → Bool
  | ':' :: rest => atGap rest
  | c :: _ => inFlow && (c = ',' || c = '[' || c = ']' || c = '\x7b' || c = '\x7d')
  | [] => true

/-- In a flow a colon may not stand right before a flow sign. -/
def isStrayColon (inFlow : Bool) : List Char → Bool
  | ':' :: c :: _ =>
    inFlow && (c = ',' || c = '?' || c = '[' || c = ']' || c = '\x7b' || c = '\x7d')
  | _ => false

/-- The word of a plain text that starts here. -/
def readWord (inFlow : Bool) : (fuel : Nat) → List Char → Cursor → Option (List Char × Cursor)
  | 0, _, _ => none
  | fuel + 1, word, c =>
    if atGap c.rest || endsPlain inFlow c.rest then some (word.reverse, c)
    else if isStrayColon inFlow c.rest then none
    else match c.rest with
      | ch :: _ => readWord inFlow fuel (ch :: word) (c.skip 1)
      | [] => some (word.reverse, c)

/-- A plain text from here on, behind `text` and a gap. It ends at a comment, at a document mark, at
a sign of its surroundings, or where a line is not indented by `indent`. The result tells whether
line breaks follow it. -/
def readPlain (inFlow : Bool) (indent : Int) :
    (fuel : Nat) → (text : List Char) → Gap → Cursor → Option (List Char × Bool × Cursor)
  | 0, _, _, _ => none
  | fuel + 1, text, gap, c => do
    if c.atDocumentMark || c.rest.head? = some '#' then return (text, gap.broken, c)
    let (word, c) ← readWord inFlow (c.rest.length + 1) [] c
    let (text, gap) := if word.isEmpty then (text, gap) else (text ++ gap.text ++ word, Gap.none)
    match c.rest with
    | [] => return (text, gap.broken, c)
    | ch :: _ =>
      if !(isSpace ch || isBreak ch) then return (text, gap.broken, c)
      let (gap, c) ← gap.read indent (c.rest.length + 1) c
      if !inFlow && c.column < indent then return (text, gap.broken, c)
      readPlain inFlow indent fuel text gap c

def hexValue? (c : Char) : Option Nat :=
  if c.isDigit then some (c.toNat - 48)
  else if 'a' ≤ c && c ≤ 'f' then some (c.toNat - 87)
  else if 'A' ≤ c && c ≤ 'F' then some (c.toNat - 55)
  else none

def escapedChar? (c : Char) : Option Char :=
  match c with
  | '0' => some '\x00'
  | 'a' => some '\x07'
  | 'b' => some '\x08'
  | 't' | '\t' => some '\t'
  | 'n' => some '\n'
  | 'v' => some '\x0b'
  | 'f' => some '\x0c'
  | 'r' => some '\r'
  | 'e' => some '\x1b'
  | ' ' => some ' '
  | '"' => some '"'
  | '/' => some '/'
  | '\\' => some '\\'
  | 'N' => some '\u0085'
  | '_' => some '\u00a0'
  | 'L' => some '\u2028'
  | 'P' => some '\u2029'
  | _ => none

/-- How many digits a numeric escape has. -/
def escapeDigits? (c : Char) : Option Nat :=
  match c with
  | 'x' => some 2
  | 'u' => some 4
  | 'U' => some 8
  | _ => none

/-- A character escape behind its backslash. -/
def readEscape (c : Cursor) : Option (Char × Cursor) := do
  let sign ← c.rest.head?
  match escapeDigits? sign with
  | some count =>
    let digits := (c.rest.drop 1).take count
    guard (digits.length = count)
    let n ← Number.digitsValue 16 hexValue? 0 digits
    guard n.isValidChar
    return (Char.ofNat n, c.skip (count + 1))
  | none => return (← escapedChar? sign, c.skip 1)

/-- The text up to a blank or the closing quote. The gap that follows starts out as broken if a
backslash hides a line break. -/
def readQuotedWord (mark : Char) :
    (fuel : Nat) → (word : List Char) → Cursor → Option (List Char × Gap × Cursor)
  | 0, _, _ => none
  | fuel + 1, word, c => do
    match c.rest with
    | [] => return (word.reverse, .none, c)
    | ch :: rest =>
      if isSpace ch || isBreak ch then return (word.reverse, .none, c)
      else if ch = mark then
        if mark = '\'' && rest.head? = some '\'' then
          readQuotedWord mark fuel (ch :: word) (c.skip 2)
        else return (word.reverse, .none, c)
      else if mark = '"' && ch = '\\' then
        if !rest.isEmpty && atBreak rest then
          return (word.reverse, .hidden, ((c.skip 1).readBreak).2)
        else
          let (escaped, c) ← readEscape (c.skip 1)
          readQuotedWord mark fuel (escaped :: word) c
      else readQuotedWord mark fuel (ch :: word) (c.skip 1)

/-- A quoted text behind its opening quote. No document may start or end in it. -/
def readQuoted (mark : Char) :
    (fuel : Nat) → (text : List Char) → Cursor → Option (List Char × Cursor)
  | 0, _, _ => none
  | fuel + 1, text, c => do
    guard (!c.atDocumentMark)
    let (word, gap, c) ← readQuotedWord mark (c.rest.length + 1) [] c
    let text := text ++ word
    if c.rest.head? = some mark then return (text, c.skip 1)
    guard !c.rest.isEmpty
    let (gap, c) ← gap.read 0 (c.rest.length + 1) c
    readQuoted mark fuel (text ++ gap.text) c

/-- What becomes of the line breaks at the end of a block text. -/
inductive Chomping where
  | strip
  | clip
  | keep

/-- The header of a block text behind its sign: the chomping and the indentation in it, in either
order, and nothing else but a comment. -/
def readHeader (c : Cursor) : Option (Chomping × Nat × Cursor) := do
  let chomp (c : Cursor) : Option (Chomping × Cursor) :=
    match c.rest with
    | '+' :: _ => some (.keep, c.skip 1)
    | '-' :: _ => some (.strip, c.skip 1)
    | _ => none
  let digit (c : Cursor) : Option (Nat × Cursor) := do
    let n ← Number.decimalDigit? (← c.rest.head?)
    return (n, c.skip 1)
  let (chomping, increment, c) := match chomp c with
    | some (chomping, c) =>
      match digit c with
      | some (n, c) => (chomping, some n, c)
      | none => (chomping, none, c)
    | none =>
      match digit c with
      | some (n, c) =>
        match chomp c with
        | some (chomping, c) => (chomping, some n, c)
        | none => (.clip, some n, c)
      | none => (.clip, none, c)
  guard (increment ≠ some 0)
  let c := c.skipWhile isSpace
  let c := if c.rest.head? = some '#' then c.skipWhile (!isBreak ·) else c
  guard (atBreak c.rest)
  return (chomping, increment.getD 0, c.readBreak.2)

/-- Passes empty lines and indentation; an `indent` of zero is not known yet. Gives the breaks and
the widest indentation seen. -/
def readBlockBreaks (indent : Nat) :
    (fuel : Nat) → (breaks : List Char) → (widest : Nat) → Cursor →
    Option (List Char × Nat × Cursor)
  | 0, _, _, _ => none
  | fuel + 1, breaks, widest, c =>
    let spaces := (c.rest.takeWhile (· = ' ')).length
    let c := c.skip (if indent = 0 then spaces else min spaces (indent - c.column))
    let widest := max widest c.column
    match c.rest with
    | [] => some (breaks, widest, c)
    | ch :: _ =>
      if ch = '\t' && (indent = 0 || c.column < indent) then none
      else if isBreak ch then
        let (b, c) := c.readBreak
        readBlockBreaks indent fuel (breaks ++ b) widest c
      else some (breaks, widest, c)

/-- The lines of a block text, each at `indent`. Where it is folded, a break between two lines that
both start with a word is a space, or nothing if empty lines follow it. -/
def readBlockLines (folded : Bool) (indent : Nat) :
    (fuel : Nat) → (text : List Char) → (last breaks : List Char) → (blank : Bool) → Cursor →
    Option (List Char × List Char × List Char × Cursor)
  | 0, _, _, _, _, _ => none
  | fuel + 1, text, last, breaks, blank, c => do
    match c.rest with
    | [] => return (text, last, breaks, c)
    | ch :: _ =>
      if c.column ≠ indent then return (text, last, breaks, c)
      let joint :=
        if folded && last = ['\n'] && !blank && !isSpace ch then
          if breaks.isEmpty then [' '] else []
        else last
      let line := c.rest.takeWhile (!isBreak ·)
      let (last, c) := (c.skip line.length).readBreak
      let (more, _, c) ← readBlockBreaks indent (c.rest.length + 1) [] 0 c
      readBlockLines folded indent fuel (text ++ joint ++ breaks ++ line) last more (isSpace ch) c

/-- A block text behind its sign, in surroundings that are indented by `outer`. -/
def readBlock (folded : Bool) (outer : Int) (c : Cursor) : Option (List Char × Cursor) := do
  let (chomping, increment, c) ← readHeader c
  let given := if increment = 0 then 0 else (max 0 outer).toNat + increment
  let (breaks, widest, c) ← readBlockBreaks given (c.rest.length + 1) [] 0 c
  let indent := if given = 0 then max widest (max 1 (outer + 1).toNat) else given
  let (text, last, more, c) ←
    readBlockLines folded indent (c.rest.length + 1) [] [] breaks false c
  match chomping with
  | .strip => return (text, c)
  | .clip => return (text ++ last, c)
  | .keep => return (text ++ last ++ more, c)

end SongPattern.Yaml

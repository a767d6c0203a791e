import SongPattern.Regex.Automaton
import SongPattern.Regex.Bracket

namespace SongPattern.Regex

/-- Groups, brackets, repetitions and lists may nest this deep. -/
def maxNesting : Nat := 250

/-- A part of a regex and how deep it nests. -/
structure Part where
  regex : Regex
  depth : Nat

namespace Part

def leaf (r : Regex) : Part := ⟨r, 0⟩

def joined (join : List Regex → Regex) : List Part → Part
  | [p] => p
  | [] => leaf Regex.empty
  | ps => ⟨join (ps.map Part.regex), ps.foldl (fun d p => max d p.depth) 0 + 1⟩

end Part

/-- The flags in force, and the names that groups have taken so far. -/
structure Context where
  flags : Flags
  names : List (List Char)

/-- A decimal number, which blanks may surround. -/
def readCount? (f : Flags) (cs : List Char) : Option (Nat × List Char) := do
  let cs := cs.dropWhile Text.isBlank
  let digits := cs.takeWhile Char.isDigit
  let value ← Number.readNat? digits
  guard (value < 1 <<< 32)
  return (value, f.pass ((cs.drop digits.length).dropWhile Text.isBlank))

/-- The bounds between the braces of a counted repetition, after the opening brace. -/
def readBounds? (f : Flags) (cs : List Char) : Option ((Nat × Option Nat) × List Char) := do
  let (least, rest) ← readCount? f (f.pass cs)
  let (most, rest) ← match rest with
    | ',' :: rest =>
      match f.pass rest with
      | '\x7d' :: _ => pure (none, f.pass rest)
      | rest => (readCount? f rest).map fun r => (some r.1, r.2)
    | rest => pure (some least, rest)
  match rest with
  | '\x7d' :: rest =>
    guard (most.all (least ≤ ·))
    return ((least, most), rest)
  | _ => none

/-- Repeats the last part, which may not be missing or a mere setting of flags. -/
def repeatLast? (least : Nat) (most : Option Nat) (lazy : Bool) :
    List (Option Part) → Option (List (Option Part))
  | some p :: parts => some (some ⟨.repeated p.regex least most lazy, p.depth + 1⟩ :: parts)
  | _ => none

/-- A question mark behind a repetition makes it lazy. -/
def readLazy : List Char → Bool × List Char
  | '?' :: cs => (true, cs)
  | cs => (false, cs)

def setFlag? (on : Bool) (f : Flags) (c : Char) : Option Flags :=
  match c with
  | 'i' => some { f with ignoreCase := on }
  | 'm' => some { f with multiLine := on }
  | 's' => some { f with dotAll := on }
  | 'U' => some { f with swapLazy := on }
  | 'u' => some { f with unicode := on }
  | 'R' => some { f with crlf := on }
  | 'x' => some { f with spaced := on }
  | _ => none

/-- Flags up to a colon or a closing parenthesis, each at most once and some of them behind a
single minus. The result tells whether there were any, and starts at the stop. -/
def readFlags? (f : Flags) (seen : List Char) (on dangling : Bool) :
    List Char → Option (Flags × Bool × List Char)
  | [] => none
  | c :: cs =>
    if c = ':' || c = ')' then
      if dangling then none else some (f, !seen.isEmpty, c :: cs)
    else if c ∈ seen then none
    else if c = '-' then readFlags? f (c :: seen) false true cs
    else do readFlags? (← setFlag? on f c) (c :: seen) on false cs

def isNameStart (c : Char) : Bool :=
  c = '_' || Unicode.isAlphabetic c

def isNameChar (c : Char) : Bool :=
  c = '.' || c = '[' || c = ']' || isNameStart c || Unicode.isNumeric c

/-- The name of a group up to its closing angle. -/
def readName? (cs : List Char) : Option (List Char × List Char) := do
  let name := cs.takeWhile (· ≠ '>')
  guard (name.head?.any isNameStart && name.all isNameChar)
  match cs.drop name.length with
  | _ :: rest => return (name, rest)
  | [] => none

/-- What stands between an opening parenthesis and the inside of its group. -/
inductive Opening where
  | directive (flags : Flags)
  | group (inner : Context) (captures : Bool)

def readNamed? (ctx : Context) (cs : List Char) : Option (Opening × List Char) := do
  let (name, rest) ← readName? cs
  guard !ctx.names.contains name
  return (.group { ctx with names := name :: ctx.names } true, rest)

/-- There is no looking ahead or behind. -/
def readOpening? (ctx : Context) (cs : List Char) : Option (Opening × List Char) :=
  match ctx.flags.pass cs with
  | '?' :: '=' :: _ | '?' :: '!' :: _ | '?' :: '<' :: '=' :: _ | '?' :: '<' :: '!' :: _ => none
  | '?' :: 'P' :: '<' :: rest | '?' :: '<' :: rest => readNamed? ctx rest
  | '?' :: rest => do
    match ← readFlags? ctx.flags [] true false rest with
    | (flags, _, ':' :: rest) => return (.group { ctx with flags := flags } false, rest)
    | (flags, true, ')' :: rest) => return (.directive flags, rest)
    | _ => none
  | rest => some (.group ctx true, rest)

def startAnchor (f : Flags) : Anchor := if f.multiLine then .lineStart f.crlf else .textStart

def endAnchor (f : Flags) : Anchor := if f.multiLine then .lineEnd f.crlf else .textEnd

def escapeRegex (f : Flags) : Escape → Regex
  | .char c => .chars (f.charSet c)
  | .chars set => .chars set
  | .anchor a => .anchor a

mutual

/-- Reads alternatives up to a closing parenthesis or the end. A flag that one of them sets holds
for those after it. -/
def readBranches : (fuel : Nat) → Context → List Char → Option (List Part × Context × List Char)
  | 0, _, _ => none
  | fuel + 1, ctx, cs => do
    let (parts, ctx, rest) ← readParts fuel ctx [] cs
    let branch := Part.joined .concat (parts.reverse.map fun p? => p?.getD (.leaf Regex.empty))
    match rest with
    | '|' :: rest =>
      let (more, ctx, rest) ← readBranches fuel ctx rest
      return (branch :: more, ctx, rest)
    | _ => return ([branch], ctx, rest)

/-- Reads one alternative; `parts` are those before, the last one first. -/
def readParts : (fuel : Nat) → Context → (parts : List (Option Part)) → List Char →
    Option (List (Option Part) × Context × List Char)
  | 0, _, _, _ => none
  | fuel + 1, ctx, parts, cs => do
    let f := ctx.flags
    let repeated (least : Nat) (most : Option Nat) (rest : List Char) :=
      let (lazy, rest) := readLazy rest
      (repeatLast? least most (lazy != f.swapLazy) parts).bind fun parts =>
        readParts fuel ctx parts rest
    match f.pass cs with
    | [] => return (parts, ctx, [])
    | '|' :: rest => return (parts, ctx, '|' :: rest)
    | ')' :: rest => return (parts, ctx, ')' :: rest)
    | '(' :: rest =>
      match ← readOpening? ctx rest with
      | (.directive flags, rest) => readParts fuel { ctx with flags := flags } (none :: parts) rest
      | (.group inner captures, rest) =>
        match ← readBranches fuel inner rest with
        | (branches, inner, ')' :: rest) =>
          let inside := Part.joined .alt branches
          let regex := if captures then .capture inside.regex else inside.regex
          readParts fuel { ctx with names := inner.names }
            (some ⟨regex, inside.depth + 1⟩ :: parts) rest
        | _ => none
    | '[' :: rest =>
      let (bracket, rest) ← readBracket f rest
      readParts fuel ctx (some ⟨.chars bracket.set, bracket.depth⟩ :: parts) rest
    | '?' :: rest => repeated 0 (some 1) rest
    | '*' :: rest => repeated 0 none rest
    | '+' :: rest => repeated 1 none rest
    | '\x7b' :: rest =>
      let ((least, most), rest) ← readBounds? f rest
      repeated least most (f.pass rest)
    | '.' :: rest => readParts fuel ctx (some (.leaf (.chars (← f.dot?))) :: parts) rest
    | '^' :: rest => readParts fuel ctx (some (.leaf (.anchor (startAnchor f))) :: parts) rest
    | '$' :: rest => readParts fuel ctx (some (.leaf (.anchor (endAnchor f))) :: parts) rest
    | '\\' :: rest =>
      let (escape, rest) ← readEscape f rest
      readParts fuel ctx (some (.leaf (escapeRegex f escape)) :: parts) rest
    | c :: rest => readParts fuel ctx (some (.leaf (.chars (f.charSet c))) :: parts) rest

end

/-- Reads a regex, which ignores case from the start. Refuses one that nests too deep or whose
automaton would be too large. Reading a character takes at most two rounds. -/
def read? (source : String) : Option Regex := do
  let cs := source.toList
  match ← readBranches (2 * cs.length + 3) ⟨{}, []⟩ cs with
  | (branches, _, []) =>
    let whole := Part.joined .alt branches
    guard (whole.depth ≤ maxNesting && whole.regex.fits)
    return whole.regex
  | _ => none

end SongPattern.Regex

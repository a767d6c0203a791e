import SongPattern.Regex.Escape

namespace SongPattern.Regex

open Unicode (CharSet)

/-- The set of a bracket, and how deep brackets and operators nest in it. -/
structure Bracket where
  set : CharSet
  depth : Nat

namespace Bracket

def union : List Bracket → Bracket
  | [] => ⟨.empty, 0⟩
  | [b] => b
  | bs => ⟨.unions (bs.map Bracket.set), bs.foldl (fun d b => max d b.depth) 0 + 1⟩

inductive Operator where
  | inter
  | diff
  | symmDiff

/-- Case is settled on both sides before they are set against each other. -/
def Operator.apply (f : Flags) (op : Operator) (a b : Bracket) : Bracket :=
  let s := f.fold a.set
  let t := f.fold b.set
  let set := match op with
    | .inter => s.inter t
    | .diff => s.diff t
    | .symmDiff => s.symmDiff t
  ⟨set, max a.depth b.depth + 1⟩

/-- A character that may start or end a range, or a set that may not. -/
def readItem (f : Flags) : List Char → Option ((Char ⊕ CharSet) × List Char)
  | [] => none
  | '\\' :: cs => do
    match ← readEscape f cs with
    | (.char c, rest) => return (.inl c, rest)
    | (.chars set, rest) => return (.inr set, rest)
    | (.anchor _, _) => none
  | c :: cs => some (.inl c, cs)

/-- A lone character outside ASCII is a number of bytes, which no set without Unicode can hold. -/
def single? (f : Flags) (c : Char) : Option CharSet :=
  if f.unicode || c.toNat < 0x80 then some (.single c.toNat) else none

/-- An item, or two that a hyphen makes a range. A hyphen before the closing bracket or before
another hyphen makes none. -/
def readRange (f : Flags) (cs : List Char) : Option (CharSet × List Char) := do
  let (first, rest) ← readItem f cs
  let rest := f.pass rest
  let alone : Option (CharSet × List Char) := do
    match first with
    | .inl c => return (← single? f c, rest)
    | .inr set => return (set, rest)
  match rest with
  | [] => none
  | '-' :: after =>
    match f.pass after with
    | [] => none
    | c :: _ =>
      if c = ']' || c = '-' then alone
      else
        let (last, rest) ← readItem f (f.pass after)
        match first, last with
        | .inl a, .inl b =>
          let _ ← single? f a
          let _ ← single? f b
          guard (a ≤ b)
          return (.range a.toNat b.toNat, rest)
        | _, _ => none
  | _ => alone

/-- A named set of ASCII characters, as in `[:alpha:]`, after its bracket. -/
def readPosix (f : Flags) : List Char → Option (CharSet × List Char)
  | ':' :: cs => do
    let negated := cs.head? = some '^'
    let cs := if negated then cs.tail else cs
    let name := cs.takeWhile (· ≠ ':')
    match cs.drop name.length with
    | ':' :: ']' :: rest => do
      return (← f.foldNegate? negated (← posixClass? (.ofList name)), rest)
    | _ => none
  | _ => none

/-- Whether a set of ASCII names would stand here but for its negation. -/
def isPosix (cs : List Char) : Bool := (readPosix {} cs).isSome

/-- A bracket that is still open: what an operator before the current items left, and those. -/
structure Open where
  negated : Bool
  left : Option (Bracket × Operator)
  items : List Bracket

def Open.combined (f : Flags) (o : Open) : Bracket :=
  let right := union o.items
  match o.left with
  | some (left, op) => op.apply f left right
  | none => right

def leadingHyphens (f : Flags) : (fuel : Nat) → List Char → List Bracket × List Char
  | fuel + 1, '-' :: cs =>
    let more := leadingHyphens f fuel (f.pass cs)
    (⟨.single 45, 0⟩ :: more.1, more.2)
  | _, cs => ([], cs)

/-- Reads the start of a bracket. Hyphens stand for themselves there, and so does a closing bracket
in the very first place. -/
def readOpen? (f : Flags) (cs : List Char) : Option (Open × List Char) := do
  let cs := f.pass cs
  let negated := cs.head? = some '^'
  let cs := if negated then f.pass cs.tail else cs
  let (items, cs) := leadingHyphens f cs.length cs
  match cs with
  | [] => none
  | ']' :: rest =>
    if items.isEmpty then
      guard !(f.pass rest).isEmpty
      return (⟨negated, none, [⟨.single 93, 0⟩]⟩, f.pass rest)
    else return (⟨negated, none, items⟩, cs)
  | _ => return (⟨negated, none, items⟩, cs)

/-- Reads to the end of the outermost bracket, `outer` being those around the innermost one. -/
def readInside (f : Flags) :
    (fuel : Nat) → (inner : Open) → (outer : List Open) → List Char → Option (Bracket × List Char)
  | 0, _, _, _ => none
  | fuel + 1, inner, outer, cs => do
    let cs := f.pass cs
    let operator (op : Operator) (rest : List Char) : Option (Bracket × List Char) :=
      readInside f fuel { inner with left := some (inner.combined f, op), items := [] } outer rest
    match cs with
    | [] => none
    | '[' :: rest =>
      if isPosix rest then
        let (set, rest) ← readPosix f rest
        readInside f fuel { inner with items := ⟨set, 0⟩ :: inner.items } outer rest
      else
        let (opened, rest) ← readOpen? f rest
        readInside f fuel opened (inner :: outer) rest
    | ']' :: rest =>
      let whole := inner.combined f
      let bracket : Bracket := ⟨← f.foldNegate? inner.negated whole.set, whole.depth + 1⟩
      match outer with
      | [] => return (bracket, rest)
      | next :: outer =>
        readInside f fuel { next with items := bracket :: next.items } outer rest
    | '&' :: '&' :: rest => operator .inter rest
    | '-' :: '-' :: rest => operator .diff rest
    | '~' :: '~' :: rest => operator .symmDiff rest
    | cs =>
      let (set, rest) ← readRange f cs
      readInside f fuel { inner with items := ⟨set, 0⟩ :: inner.items } outer rest

end Bracket

/-- Reads a bracket after its opening. Every round takes at least one character. -/
def readBracket (f : Flags) (cs : List Char) : Option (Bracket × List Char) := do
  let (opened, rest) ← Bracket.readOpen? f cs
  Bracket.readInside f (rest.length + 1) opened [] rest

end SongPattern.Regex

import SongPattern.Error

namespace SongPattern.Pattern

inductive TokenKind where
  | text
  | opening
  | closing
  | bar
  | doubleBar
  | finish
  deriving DecidableEq

/-- The text of a text token has its escapes resolved; that of any other is the operator itself.
The position counts bytes. -/
structure Token where
  kind : TokenKind
  text : String
  position : Nat
  deriving DecidableEq

def isSpecial (c : Char) : Bool := c = '\\' || c = '<' || c = '>' || c = '|'

/-- Only a special character loses its backslash; `\[` means something to markup. -/
def resolve (c : Char) : List Char := if isSpecial c then [c] else ['\\', c]

/-- Text in front of tokens joins a text token that follows it. -/
def prepend (position : Nat) (text : List Char) : List Token → List Token
  | [] => [⟨.text, .ofList text, position⟩]
  | t :: ts =>
    if t.kind = .text then ⟨.text, .ofList text ++ t.text, position⟩ :: ts
    else ⟨.text, .ofList text, position⟩ :: t :: ts

/-- Two bars are one token wherever they can be. A backslash needs a character to escape, and a
line break is none. -/
def scan (position : Nat) : List Char → Except PatternError (List Token)
  | [] => .ok [⟨.finish, "", position⟩]
  | '<' :: cs => (scan (position + 1) cs).map (⟨.opening, "<", position⟩ :: ·)
  | '>' :: cs => (scan (position + 1) cs).map (⟨.closing, ">", position⟩ :: ·)
  | '|' :: '|' :: cs => (scan (position + 2) cs).map (⟨.doubleBar, "||", position⟩ :: ·)
  | '|' :: cs => (scan (position + 1) cs).map (⟨.bar, "|", position⟩ :: ·)
  | '\\' :: c :: cs =>
    if c = '\n' then .error (.leftover position)
    else (scan (position + 1 + c.utf8Size) cs).map (prepend position (resolve c))
  | ['\\'] => .error (.leftover position)
  | c :: cs => (scan (position + c.utf8Size) cs).map (prepend position [c])

def tokenize (source : String) : Except PatternError (List Token) := scan 0 source.toList

def escapeChars : List Char → List Char
  | [] => []
  | c :: cs => if isSpecial c then '\\' :: c :: escapeChars cs else c :: escapeChars cs

/-- Text as it is written in a pattern. -/
def escape (s : String) : String := .ofList (escapeChars s.toList)

end SongPattern.Pattern

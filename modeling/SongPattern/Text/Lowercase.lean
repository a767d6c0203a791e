import SongPattern.Unicode.CaseTable

namespace SongPattern.Text
open Unicode

/-- The lower-case form of a character that stands alone. -/
def lowerChar (c : Char) : List Char :=
  if c = '\u0130' then ['i', '\u0307']
  else match partner? lowerRuns c.toNat with
    | some n => [Char.ofNat n]
    | none => [c]

/-- Whether the first character that casing does not look through has a case. -/
def casedAhead (cs : List Char) : Bool :=
  match cs.dropWhile caseIgnorable.contains with
  | c :: _ => cased.contains c
  | [] => false

/-- Lowers a text behind the reversed `before`. A capital sigma at the end of a word has its own
small form, so lowering a part of a text need not give a part of the lowered text. -/
def lowerBehind (before : List Char) : List Char → List Char
  | [] => []
  | c :: cs =>
    (if c = 'Σ' then [if casedAhead before && !casedAhead cs then 'ς' else 'σ'] else lowerChar c) ++
      lowerBehind (c :: before) cs

def lower (s : String) : String := .ofList (lowerBehind [] s.toList)

end SongPattern.Text

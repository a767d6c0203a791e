import SongPattern.Policy.Basic
import SongPattern.Text.Blank

namespace SongPattern.Policy

def escapeMarkupChar (c : Char) : List Char :=
  if c = '&' then "&amp;".toList
  else if c = '<' then "&lt;".toList
  else if c = '>' then "&gt;".toList
  else [c]

def escapeMarkup (s : String) : String := .ofList (s.toList.flatMap escapeMarkupChar)

def markup : Policy := { plain with kind := .markup, value := fun _ value => escapeMarkup value }

/-- The elements that a bracket may open or close. -/
def elements : List String := ["b", "big", "i", "s", "sub", "sup", "small", "tt", "u", "span", "a"]

def elementName (cs : List Char) : List Char :=
  cs.takeWhile fun c => !Text.isBlank c && c ≠ ']'

/-- The inside of a bracket that names an element alone, such as `b` or `/span `. -/
def plainBody? (cs : List Char) : Option (List Char) :=
  let slash := if cs.head? = some '/' then ['/'] else []
  let cs := cs.drop slash.length
  let name := elementName cs
  let rest := cs.drop name.length
  let blanks := rest.takeWhile Text.isBlank
  if String.ofList name ∈ elements && (rest.drop blanks.length).head? = some ']' then
    some (slash ++ name ++ blanks)
  else none

/-- The inside of a bracket that names an element with attributes, on one line once they start. -/
def attributeBody? (cs : List Char) : Option (List Char) :=
  let name := elementName cs
  let rest := cs.drop name.length
  let blanks := rest.takeWhile Text.isBlank
  let rest := rest.drop blanks.length
  let attributes := rest.takeWhile fun c => c ≠ ']' && c ≠ '\n'
  if String.ofList name ∈ ["a", "span"] && !blanks.isEmpty &&
      (rest.drop attributes.length).head? = some ']' then
    some (name ++ blanks ++ attributes)
  else none

/-- A bracket after `slashes` backslashes: an odd number of them escapes it, and one is used up. -/
def bracket (slashes : Nat) (body : List Char) : List Char :=
  if slashes % 2 = 1 then List.replicate (slashes - 1) '\\' ++ '[' :: body ++ [']']
  else List.replicate slashes '\\' ++ '<' :: body ++ ['>']

/-- Expands the brackets whose inside `body?` accepts, from the left. `skipped` characters belong
to the bracket before, and `slashes` backslashes stand right before the text. -/
def expand (body? : List Char → Option (List Char)) :
    (skipped slashes : Nat) → List Char → List Char
  | _, slashes, [] => List.replicate slashes '\\'
  | skipped + 1, _, _ :: cs => expand body? skipped 0 cs
  | 0, slashes, c :: cs =>
    if c = '\\' then expand body? 0 (slashes + 1) cs
    else
      match if c = '[' then body? cs else none with
      | some body => bracket slashes body ++ expand body? (body.length + 1) 0 cs
      | none => List.replicate slashes '\\' ++ c :: expand body? 0 0 cs

def expandShorthand (s : String) : String :=
  .ofList (expand attributeBody? 0 0 (expand plainBody? 0 0 s.toList))

def markupShorthand : Policy :=
  { markup with kind := .markupShorthand, literal := expandShorthand }

end SongPattern.Policy

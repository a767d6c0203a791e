import SongPattern.Error
import SongPattern.Song.Basic

namespace SongPattern

inductive PolicyKind where
  | plain
  | file
  | fileAnyExtension
  | markup
  | markupShorthand
  | url
  deriving DecidableEq

namespace PolicyKind

def all : List PolicyKind := [.plain, .file, .fileAnyExtension, .markup, .markupShorthand, .url]

def name : PolicyKind → String
  | .plain => "plain"
  | .file => "file"
  | .fileAnyExtension => "file-any-ext"
  | .markup => "markup"
  | .markupShorthand => "markup-shorthand"
  | .url => "url"

def ofName (name : String) : Except PatternError PolicyKind :=
  match all.find? (·.name = name) with
  | some kind => .ok kind
  | none => .error (.unknownPolicy name)

end PolicyKind

/-- How a pattern is rendered: what happens to its source before it is read, to its literal text
when it is compiled, to each value under its key, and to the result. -/
structure Policy where
  kind : PolicyKind
  preprocess : String → String
  literal : String → String
  value : (key value : String) → String
  post : String → Song → Except PatternError String

namespace Policy

/-- Changes nothing. -/
def plain : Policy where
  kind := .plain
  preprocess := id
  literal := id
  value _ value := value
  post value _ := .ok value

end Policy

end SongPattern

import SongPattern.Policy.Basic
import SongPattern.Policy.Platform
import SongPattern.Text.Blank
import SongPattern.Text.Lowercase

namespace SongPattern

/-- The longest segment a path may have, and whether one that was cut ends in two dots. -/
structure PathOptions where
  ellipsis : Bool := true
  maxSegment : Nat := 255
  deriving DecidableEq

namespace FilePath

/-- From the last dot on, unless only dots stand before it. -/
def extension (name : List Char) : List Char :=
  let tail := Text.afterLast (· = '.') name
  let stem := name.take (name.length - tail.length - 1)
  if stem.any (· ≠ '.') && tail.length < name.length then '.' :: tail else []

/-- The extension of the last segment stands apart. -/
def splitExtension (path : List Char) (sep : Char) : List Char × List Char :=
  let ext := extension (Text.afterLast (· = sep) path)
  (path.take (path.length - ext.length), ext)

def shorten (ellipsis : Bool) (limit : Nat) (segment : List Char) : List Char :=
  if segment.length ≤ limit then segment
  else if ellipsis && 2 ≤ limit then segment.take (limit - 2) ++ ['.', '.']
  else segment.take limit

/-- The last segment has a limit of its own. -/
def shortenEach (ellipsis : Bool) (limit last : Nat) : List (List Char) → List (List Char)
  | [] => []
  | [segment] => [shorten ellipsis last segment]
  | segment :: rest => shorten ellipsis limit segment :: shortenEach ellipsis limit last rest

def limitChars (path : List Char) (sep : Char) (limit : Nat) (ellipsis : Bool) : List Char :=
  let (main, ext) := splitExtension path sep
  [sep].intercalate (shortenEach ellipsis limit (limit - ext.length) (Text.splitChars sep main)) ++
    ext

/-- Shortens each segment to `limit` characters. The last one shares them with its extension. -/
def limitPath (path : String) (sep : Char) (limit : Nat) (ellipsis : Bool) : String :=
  .ofList (limitChars path.toList sep limit ellipsis)

/-- Track and disc numbers get zeros in front, tracks as many as their total needs. What does not
start with a number stays as it is. -/
def padNumber (key value : String) : String :=
  let parts := Text.split '/' value
  match parts.head?.bind fun part => Number.readWord? (Text.trim part) with
  | none => value
  | some number =>
    if key = "tracknumber" then
      let total := parts[1]?.bind fun part => Number.readWord? (Text.trim part)
      Number.padded (total.elim 2 fun n => max 2 (Number.text n).length) number
    else if key = "discnumber" then Number.padded 2 number
    else value

/-- No value may hold a separator, nor its full-width likeness. -/
def cleanValue (p : Platform) (key value : String) : String :=
  Text.trim (.ofList ((padNumber key value).toList.map fun c =>
    if c = p.separator || c = '\uff0f' then '_' else c))

/-- The extension of the song's own file, from the last dot of its last segment on. -/
def songExtension? (p : Platform) (song : Song) : Option (List Char) := do
  let value ← song.get "~filename"
  let name := Text.afterLast p.isSeparator value.display.toList
  if name.contains '.' then
    some (Text.lowerBehind [] ('.' :: Text.afterLast (· = '.') name))
  else none

def appendExtension (p : Platform) (song : Song) (path : List Char) : List Char :=
  match songExtension? p song with
  | none => path
  | some ext =>
    if Text.lowerBehind [] (path.drop (path.length - ext.length)) = ext then path else path ++ ext

def isForbidden (c : Char) : Bool := "\\:*?;\"<>|/".toList.contains c

/-- A segment may hold none of these characters and may not end in a dot or a space. -/
def safeSegment (segment : List Char) : List Char :=
  let clean := segment.map fun c => if isForbidden c then '_' else c
  if clean.getLast? = some '.' || clean.getLast? = some ' ' then clean.dropLast ++ ['_'] else clean

def makeSafe (p : Platform) (path : List Char) : List Char :=
  match p.family with
  | .unix => path
  | .windows =>
    let (drive, tail) := p.splitDrive path
    drive ++ ['\\'].intercalate ((Text.splitChars '\\' tail).map safeSegment)

/-- Nothing is done to an empty path. A path with a separator has to start at a root. -/
def finish (keepExtension : Bool) (options : PathOptions) (p : Platform) (path : String)
    (song : Song) : Except PatternError String :=
  if path = "" then .ok path
  else
    let path := if keepExtension then appendExtension p song path.toList else path.toList
    let path := p.expandHome (makeSafe p path)
    let path := limitChars path p.separator options.maxSegment options.ellipsis
    if path.contains p.separator && !p.isAbsolute (.ofList path) then
      .error (.notRooted (.ofList path))
    else .ok (.ofList path)

/-- A backslash separates path segments on this platform, so it escapes nothing. -/
def doubleBackslashes (pattern : String) : String :=
  .ofList (pattern.toList.flatMap fun c => if c = '\\' then ['\\', '\\'] else [c])

end FilePath

/-- Renders a path, with the extension of the song's own file or with that of the pattern. -/
def Policy.filePath (keepExtension : Bool) (options : PathOptions) (p : Platform) : Policy where
  kind := if keepExtension then .file else .fileAnyExtension
  preprocess pattern :=
    match p.family with
    | .unix => pattern
    | .windows => FilePath.doubleBackslashes pattern
  literal := id
  value := FilePath.cleanValue p
  post := FilePath.finish keepExtension options p

end SongPattern

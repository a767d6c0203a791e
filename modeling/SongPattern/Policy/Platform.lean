import SongPattern.Text.Pieces

namespace SongPattern

inductive Family where
  | unix
  | windows
  deriving DecidableEq

/-- What a path depends on outside its song. A leading tilde stands for `home`. -/
structure Platform where
  family : Family
  home : Option String

namespace Platform

def separator (p : Platform) : Char :=
  match p.family with
  | .unix => '/'
  | .windows => '\\'

def isSeparator (p : Platform) (c : Char) : Bool :=
  c = p.separator || (p.family = .windows && c = '/')

/-- A drive such as `C:` at the start of a path, and the rest. -/
def splitDrive (p : Platform) : List Char → List Char × List Char
  | c :: ':' :: cs =>
    if p.family = .windows && c.isAlpha then ([c, ':'], cs) else ([], c :: ':' :: cs)
  | cs => ([], cs)

def startsAtSeparator (p : Platform) : List Char → Bool
  | c :: _ => p.isSeparator c
  | [] => false

def isAbsolute (p : Platform) (path : String) : Bool :=
  p.startsAtSeparator (p.splitDrive path.toList).2

def expandHome (p : Platform) (path : List Char) : List Char :=
  match p.home, path with
  | some home, '~' :: rest =>
    if rest.isEmpty || p.startsAtSeparator rest then home.toList ++ rest else path
  | _, _ => path

end Platform

end SongPattern

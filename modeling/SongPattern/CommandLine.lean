import SongPattern.Cache
import SongPattern.Query
import SongPattern.Song.Document

namespace SongPattern.CommandLine

/-- What a run prints, and how it exits. -/
structure Outcome where
  code : UInt32
  out : String
  err : String

def usage : String := "Usage: tagpattern [--policy NAME] [--list] <pattern> <song.yaml>"

def policyNames : String := Text.joinWith ", " (PolicyKind.all.map PolicyKind.name)

def failure (lines : List String) : Outcome :=
  ⟨1, "", Text.joinWith "" (lines.map (· ++ "\n"))⟩

def success (lines : List String) : Outcome :=
  ⟨0, Text.joinWith "" (lines.map (· ++ "\n")), ""⟩

/-- Why a file cannot be read. -/
inductive FileError where
  | missing
  | denied
  | notDirectory
  | isDirectory
  | notText
  | other (reason : String)

def FileError.message : FileError → String
  | .missing => "No such file or directory (os error 2)"
  | .denied => "Permission denied (os error 13)"
  | .notDirectory => "Not a directory (os error 20)"
  | .isDirectory => "Is a directory (os error 21)"
  | .notText => "stream did not contain valid UTF-8"
  | .other reason => reason

structure Options where
  kind : PolicyKind
  list : Bool
  positional : List String

/-- Options may stand anywhere, and the last policy counts. -/
def readArgs (o : Options) : List String → Except Outcome Options
  | [] => .ok o
  | "--list" :: args => readArgs { o with list := true } args
  | ["--policy"] => .error (failure [usage])
  | "--policy" :: name :: args =>
    match PolicyKind.ofName name with
    | .ok kind => readArgs { o with kind := kind } args
    | .error _ =>
      .error (failure ["Unknown policy '" ++ name ++ "', expected one of: " ++ policyNames])
  | arg :: args => readArgs { o with positional := o.positional ++ [arg] } args

def render (platform : Platform) (engine : RegexEngine) (o : Options) (pattern : String)
    (song : TagTable) : Outcome :=
  match ((Cache.empty {} platform (Query.parser engine)).get o.kind pattern).1 with
  | .error e => failure ["Pattern error: " ++ e.message]
  | .ok entry =>
    let lines : Except PatternError (List String) :=
      if o.list then
        (entry.formatter.formatList song.song).map fun pairs =>
          pairs.map fun pair => pair.1 ++ "\t" ++ pair.2
      else (entry.formatter.format song.song).map ([·])
    match lines with
    | .error e => failure ["Render error: " ++ e.message]
    | .ok lines => success lines

/-- What to do with the arguments: stop at once, or read a file and go on with its content or the
reason why there is none. -/
inductive Plan where
  | done (outcome : Outcome)
  | read (path : String) (next : Except FileError String → Outcome)

def plan (platform : Platform) (engine : RegexEngine) (args : List String) : Plan :=
  match readArgs ⟨.plain, false, []⟩ args with
  | .error outcome => .done outcome
  | .ok o =>
    match o.positional with
    | [pattern, path] =>
      .read path fun content =>
        match content with
        | .error e => failure ["Error reading file '" ++ path ++ "': " ++ e.message]
        | .ok text =>
          match TagTable.ofYaml text with
          | .error e => failure ["Error in '" ++ path ++ "': " ++ e.message]
          | .ok song => render platform engine o pattern song
    | _ => .done (failure [usage, "Policies: " ++ policyNames])

end SongPattern.CommandLine

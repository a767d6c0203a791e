import SongPattern.CommandLine
import SongPattern.Regex.Engine

open SongPattern

/-- The home directory under either of its names; an empty one does not count. -/
def readHome : IO (Option String) := do
  let home ← IO.getEnv "HOME"
  let profile ← IO.getEnv "USERPROFILE"
  return (home <|> profile).filter (· ≠ "")

def fileError : IO.Error → CommandLine.FileError
  | .noFileOrDirectory _ _ _ => .missing
  | .permissionDenied _ _ _ => .denied
  | .inappropriateType (some _) _ _ => .notDirectory
  | .inappropriateType none _ _ => .isDirectory
  | .userError _ => .notText
  | e => .other (toString e)

def readContent (path : String) : IO (Except CommandLine.FileError String) := do
  try
    return .ok (← IO.FS.readFile path)
  catch e =>
    return .error (fileError e)

def outcomeOf (plan : CommandLine.Plan) : IO CommandLine.Outcome := do
  match plan with
  | .done outcome => return outcome
  | .read path next => return next (← readContent path)

def main (args : List String) : IO UInt32 := do
  let outcome ← outcomeOf (CommandLine.plan ⟨.unix, ← readHome⟩ Regex.engine args)
  IO.print outcome.out
  IO.eprint outcome.err
  return outcome.code

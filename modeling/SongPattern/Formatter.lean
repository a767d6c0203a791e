import SongPattern.Pattern.Parser
import SongPattern.Policy.Basic
import SongPattern.Program.Compile
import SongPattern.Program.Run

namespace SongPattern

/-- A pattern that was found to render, with its two programs. -/
structure Formatter where
  pattern : String
  policy : Policy
  scalar : Program
  list : Program
  tags : List String

/-- A song as a program sees it. A numeric tag has one value, even where the song lacks it. -/
def Policy.source (policy : Policy) (song : Song) : Source where
  joined key := policy.value key (song.joined key).display
  pairs key :=
    if isNumericTag key then
      let value := policy.value key (song.textOf key)
      [(value, value)]
    else (song.pairs key).map fun pair => (policy.value key pair.1, policy.value key pair.2)
  song := song

def Fragment.flat : Fragment → String
  | .text s => s
  | .values pairs => Text.joinWith ", " (pairs.map (·.1))

def Fragment.pairs : Fragment → List (String × String)
  | .text s => [(s, s)]
  | .values pairs => pairs

def concat (texts : List String) : String := texts.foldr (· ++ ·) ""

namespace Formatter

/-- One text, before the policy finishes it. -/
def rendered (f : Formatter) (song : Song) : String :=
  concat ((f.scalar.run (f.policy.source song)).fragments.map Fragment.flat)

def format (f : Formatter) (song : Song) : Except PatternError String :=
  f.policy.post (f.rendered song) song

/-- Puts each of the pairs behind each of the choices made so far. -/
def extendChoices (choices pairs : List (String × String)) : List (String × String) :=
  pairs.flatMap fun pair => choices.map fun choice => (choice.1 ++ pair.1, choice.2 ++ pair.2)

/-- Every way to take one pair from each fragment that is not empty. -/
def choices (fragments : List Fragment) : List (String × String) :=
  (fragments.filter (!·.isEmpty)).foldl (fun choices f => extendChoices choices f.pairs)
    [("", "")]

def pairLe (p q : String × String) : Bool := p.1 < q.1 || (p.1 = q.1 && p.2 ≤ q.2)

def dropRepeats : List (String × String) → List (String × String)
  | p :: q :: rest => if p = q then dropRepeats (q :: rest) else p :: dropRepeats (q :: rest)
  | ps => ps

/-- Each pair once, in the order of code points. -/
def asSet (ps : List (String × String)) : List (String × String) :=
  dropRepeats (ps.mergeSort pairLe)

/-- The display and sort texts for all choices of values; never none. -/
def formatList (f : Formatter) (song : Song) : Except PatternError (List (String × String)) := do
  let fragments := (f.list.run (f.policy.source song)).fragments
  let pairs ← (choices fragments).mapM fun pair => do
    return (← f.policy.post pair.1 song, ← f.policy.post pair.2 song)
  return asSet pairs

/-- Refuses a pattern that cannot be rendered for the stand-in song. -/
def build (pattern : String) (policy : Policy) (parser : QueryParser) :
    Except PatternError Formatter := do
  let nodes ← Pattern.parse (policy.preprocess pattern)
  let scalar := Program.compile .joined policy.literal parser nodes
  let list := Program.compile .listed policy.literal parser nodes
  let formatter : Formatter := ⟨pattern, policy, scalar.program, list.program, scalar.tags⟩
  match formatter.format .standIn with
  | .ok _ => .ok formatter
  | .error cause => .error (.invalid pattern cause)

end Formatter

end SongPattern

import SongPattern.Song.Basic

namespace SongPattern

/-- How a program looks tags up: each as one text, or as the list of its values. -/
inductive Mode where
  | joined
  | listed
  deriving DecidableEq

/-- A predicate read as a query. -/
abbrev Matcher := Song → Bool

/-- Tells which texts are queries. -/
abbrev QueryParser := String → Option Matcher

/-- A piece of output. -/
inductive Fragment where
  | text (s : String)
  | values (pairs : List (String × String))
  deriving DecidableEq

def Fragment.isEmpty : Fragment → Bool
  | .text s => s.isEmpty
  | .values pairs => pairs.isEmpty

/-- Jumps name the index that they lead to, counted from the start of the code they stand in. -/
inductive Instr where
  | emit (literal : String)
  | fetch (key : String) (slot : Nat)
  | query (index slot : Nat)
  | emitSlot (slot : Nat)
  | jumpUnless (slot target : Nat)
  | jumpIf (slot target : Nat)
  | jump (target : Nat)
  | mark (mark : Nat)
  /-- Where the output has grown since the mark, keeps a last fragment that is not empty and leaves,
  or takes an empty one back. -/
  | keepOrRetract (mark exit : Nat)
  deriving DecidableEq

namespace Instr

/-- Where an instruction may jump to. -/
def target? : Instr → Option Nat
  | .jumpUnless _ target | .jumpIf _ target | .jump target | .keepOrRetract _ target => some target
  | _ => none

/-- The instruction in code that has been moved behind `offset` other instructions. -/
def shifted (offset : Nat) : Instr → Instr
  | .jumpUnless slot target => .jumpUnless slot (target + offset)
  | .jumpIf slot target => .jumpIf slot (target + offset)
  | .jump target => .jump (target + offset)
  | .keepOrRetract m exit => .keepOrRetract m (exit + offset)
  | other => other

end Instr

structure Program where
  mode : Mode
  code : List Instr
  queries : List Matcher
  slots : Nat
  marks : Nat

end SongPattern

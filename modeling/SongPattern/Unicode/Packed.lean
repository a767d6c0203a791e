import SongPattern.Unicode.CharSet

namespace SongPattern.Unicode

/-- The digit values 0 to 63 stand for `0`–`9`, `A`–`Z`, `a`–`z`, `-` and `_`. -/
def digitValue (c : Char) : Nat :=
  if c.isDigit then c.toNat - 48
  else if c.isUpper then c.toNat - 55
  else if c.isLower then c.toNat - 61
  else if c = '-' then 62
  else 63

/-- Numbers as runs of five-bit digits, the lowest first; a digit from 32 on has a successor. -/
def unpackNumbers (shift value : Nat) : List Char → List Nat
  | [] => []
  | c :: cs =>
    let d := digitValue c
    let value := value + (d % 32) <<< shift
    if 32 ≤ d then unpackNumbers (shift + 5) value cs else value :: unpackNumbers 0 0 cs

/-- Each range as its distance from the end of the last one and its length less one. -/
def unpackRanges (next : Nat) : List Nat → List (Nat × Nat)
  | gap :: extra :: rest =>
    (next + gap, next + gap + extra) :: unpackRanges (next + gap + extra + 1) rest
  | _ => []

def CharSet.unpack (lines : List String) : CharSet :=
  ⟨unpackRanges 0 (unpackNumbers 0 0 (lines.flatMap String.toList))⟩

/-- The set that a table of packed sets holds under a name. -/
def lookupSet? (table : List (List String × List String)) (name : String) : Option CharSet :=
  (table.find? (·.1.contains name)).map fun entry => .unpack entry.2

end SongPattern.Unicode

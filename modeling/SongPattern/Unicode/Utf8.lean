import SongPattern.Unicode.CharSet

namespace SongPattern.Unicode

/-- The bytes of a code point. -/
def utf8Bytes (n : Nat) : List Nat :=
  if n < 0x80 then [n]
  else if n < 0x800 then [0xc0 + n / 64, 0x80 + n % 64]
  else if n < 0x10000 then [0xe0 + n / 4096, 0x80 + n / 64 % 64, 0x80 + n % 64]
  else [0xf0 + n / 262144, 0x80 + n / 4096 % 64, 0x80 + n / 64 % 64, 0x80 + n % 64]

/-- Code points that have as many bytes as each other and any of them in each place: the first and
the last byte for each place. -/
abbrev Spelling := List (Nat × Nat)

/-- Where a range has to be cut so that its last `places` bytes take all values, or only its last
byte differs. -/
def cutAt? (first last places : Nat) : Option Nat :=
  let unit := Nat.pow 64 places
  if first / unit = last / unit then none
  else if first % unit ≠ 0 then some (first / unit * unit + unit - 1)
  else if last % unit ≠ unit - 1 then some (last / unit * unit - 1)
  else none

/-- The last code point of the first piece of a range that has no spelling of its own. -/
def cut? (first last : Nat) : Option Nat :=
  match [0x7f, 0x7ff, 0xffff].find? fun m => first ≤ m && m < last with
  | some m => some m
  | none => if last < 0x80 then none else [1, 2, 3].findSome? (cutAt? first last)

/-- A range in pieces that can be spelled, in rising order and without the surrogates. No piece
takes more than ten cuts. -/
def spellRange : (fuel : Nat) → (first last : Nat) → List Spelling
  | 0, _, _ => []
  | fuel + 1, first, last =>
    if first < 0xe000 && 0xd7ff < last then
      spellRange fuel first 0xd7ff ++ spellRange fuel 0xe000 last
    else if last < first then []
    else match cut? first last with
      | some m => spellRange fuel first m ++ spellRange fuel (m + 1) last
      | none => [(utf8Bytes first).zip (utf8Bytes last)]

def CharSet.spellings (s : CharSet) : List Spelling :=
  s.ranges.flatMap fun r => spellRange 12 r.1 r.2

end SongPattern.Unicode

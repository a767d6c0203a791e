import SongPattern.Number.Integer
import SongPattern.Number.Double

namespace SongPattern.Number

/-- Digits before and behind the point, and the power of ten. -/
structure Decimal where
  whole : List Char
  fraction : List Char
  exponent : Int

namespace Decimal

def readExponent? : List Char → Option Int
  | [] => some 0
  | c :: cs => if c = 'e' || c = 'E' then readSigned? cs else none

/-- A point may stand first or last, but not alone. -/
def read? (cs : List Char) : Option Decimal := do
  let whole := cs.takeWhile Char.isDigit
  let rest := cs.dropWhile Char.isDigit
  let (fraction, rest) := match rest with
    | '.' :: rest => (rest.takeWhile Char.isDigit, rest.dropWhile Char.isDigit)
    | rest => ([], rest)
  guard !(whole ++ fraction).isEmpty
  return ⟨whole, fraction, ← readExponent? rest⟩

/-- The bits of the nearest double. Magnitudes far outside its range are settled by the place of
the first digit, so that no huge power is computed. -/
def bits (d : Decimal) : Nat :=
  let ds := (d.whole ++ d.fraction).dropWhile (· == '0')
  let n := (digitsValue 10 decimalDigit? 0 ds).getD 0
  let e := d.exponent - d.fraction.length
  if n = 0 || e + ds.length < -330 then 0
  else if 330 < e + ds.length then Double.infinityBits
  else if 0 ≤ e then nearestBits (n * Nat.pow 10 e.toNat) 1
  else nearestBits n (Nat.pow 10 (-e).toNat)

end Decimal

def readUnsignedFloat? (negative : Bool) (cs : List Char) : Option Float :=
  let word := cs.map Char.toLower
  if word = "inf".toList || word = "infinity".toList then
    some (Double.signed negative Double.infinityBits)
  else if word = "nan".toList then some Double.nanFloat
  else (Decimal.read? cs).map fun d => Double.signed negative d.bits

/-- A floating-point number with an optional sign. -/
def readFloat? (s : String) : Option Float :=
  match s.toList with
  | '-' :: cs => readUnsignedFloat? true cs
  | '+' :: cs => readUnsignedFloat? false cs
  | cs => readUnsignedFloat? false cs

end SongPattern.Number

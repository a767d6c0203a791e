namespace SongPattern.Number

/-- What the 64 bits of a floating-point number stand for; a finite one is
`mantissa * 2 ^ exponent` up to its sign. -/
inductive Double where
  | nan
  | infinite (negative : Bool)
  | finite (negative : Bool) (mantissa : Nat) (exponent : Int)

namespace Double

def ofFloat (f : Float) : Double :=
  let bits := f.toBits.toNat
  let negative := 1 <<< 63 ≤ bits
  let fraction := bits % (1 <<< 52)
  match bits / (1 <<< 52) % (1 <<< 11) with
  | 0 => .finite negative fraction (-1074)
  | 2047 => if fraction = 0 then .infinite negative else .nan
  | e => .finite negative ((1 <<< 52) + fraction) (e - 1075)

def nanFloat : Float := .ofBits 0x7ff8000000000000

def infinityBits : Nat := 2047 <<< 52

def signed (negative : Bool) (bits : Nat) : Float :=
  .ofBits (.ofNat (if negative then bits + (1 <<< 63) else bits))

end Double

/-- The whole number nearest to `num / den`; a half goes to the even neighbour. -/
def roundHalfEven (num den : Nat) : Nat :=
  let q := num / den
  let r := num % den
  if den < 2 * r || (2 * r == den && q % 2 == 1) then q + 1 else q

/-- `num / den` over `2 ^ e`, as a fraction. -/
def shiftDown (num den : Nat) (e : Int) : Nat × Nat :=
  if 0 ≤ e then (num, den <<< e.toNat) else (num <<< (-e).toNat, den)

/-- The exponent that leaves 53 bits before the point, or the smallest one there is. -/
def exponentOf (num den : Nat) : Int :=
  let e : Int := num.log2 - den.log2 - 53
  let scaled := shiftDown num den e
  max (-1074) (if scaled.1 / scaled.2 < 1 <<< 53 then e else e + 1)

/-- The bits of the double nearest to `num / den`. The leading bit of the mantissa counts as one
step of the exponent field, so a mantissa that rounds up to 54 bits carries into it. -/
def nearestBits (num den : Nat) : Nat :=
  if num = 0 then 0
  else
    let e := exponentOf num den
    let scaled := shiftDown num den e
    min Double.infinityBits (((e + 1074).toNat <<< 52) + roundHalfEven scaled.1 scaled.2)

def toFloat (n : Int) : Float := Double.signed (n < 0) (nearestBits n.natAbs 1)

end SongPattern.Number

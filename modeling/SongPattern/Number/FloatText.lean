import SongPattern.Number.Integer
import SongPattern.Number.Double

namespace SongPattern.Number

def minus (negative : Bool) : List Char := if negative then ['-'] else []

/-- `n / 10 ^ places`, written out with all its places. -/
def withPoint (places n : Nat) : List Char :=
  let ds := digits n
  let ds := zeros (places + 1 - ds.length) ++ ds
  let fraction := ds.drop (ds.length - places)
  ds.take (ds.length - places) ++ if fraction.isEmpty then [] else '.' :: fraction

/-- `num / den` times `2 ^ e`, as a fraction. -/
def shiftUp (num den : Nat) (e : Int) : Nat × Nat := shiftDown num den (-e)

/-- Two places, rounded from the exact value with a half going to the even neighbour. -/
def twoPlaces (f : Float) : String :=
  match Double.ofFloat f with
  | .nan => "NaN"
  | .infinite negative => .ofList (minus negative ++ "inf".toList)
  | .finite negative m e =>
    let exact := shiftUp (m * 100) 1 e
    .ofList (minus negative ++ withPoint 2 (roundHalfEven exact.1 exact.2))

/-- `num / den` times `10 ^ e`, as a fraction. -/
def tens (num den : Nat) (e : Int) : Nat × Nat :=
  if 0 ≤ e then (num * Nat.pow 10 e.toNat, den) else (num, den * Nat.pow 10 (-e).toNat)

/-- `num / den < 10 ^ k`. -/
def belowPower (num den : Nat) (k : Int) : Bool :=
  let scaled := tens num den (-k)
  scaled.1 < scaled.2

/-- The least `k` with `num / den < 10 ^ k`, given that `num` is not zero. -/
def magnitude (num den : Nat) : Int :=
  let guess : Int := (((num.log2 : Int) - den.log2) * 30103).fdiv 100000
  ([guess - 1, guess, guess + 1, guess + 2].find? (belowPower num den)).getD (guess + 3)

/-- The decimal `number * 10 ^ place`. -/
structure Scaled where
  number : Nat
  place : Int

/-- The numbers that round to a double: between the halfway points to its neighbours, which belong
to it exactly when its mantissa is even. The lower neighbour of a power of two is half as far. All
of them count quarters of the last place, `2 ^ (exponent - 2)`. -/
structure Basin where
  lower : Nat
  middle : Nat
  upper : Nat
  closed : Bool
  exponent : Int

namespace Basin

def of (m : Nat) (e : Int) : Basin :=
  let near := m == 1 <<< 52 && e != -1074
  ⟨4 * m - (if near then 1 else 2), 4 * m, 4 * m + 2, m % 2 == 0, e - 2⟩

/-- Holds where `c * 10 ^ place` rounds to the double. -/
def holds (b : Basin) (c : Nat) (place : Int) : Bool :=
  let value := tens c 1 place
  let unit := shiftUp 1 1 b.exponent
  let v := value.1 * unit.2
  let lo := b.lower * unit.1 * value.2
  let hi := b.upper * unit.1 * value.2
  if b.closed then lo ≤ v && v ≤ hi else lo < v && v < hi

/-- The neighbours of the double on the grid of one decimal place that round to it, the nearer one
chosen, and the larger one where they are equally near. -/
def onGrid? (b : Basin) (place : Int) : Option Scaled :=
  let exact := shiftUp b.middle 1 b.exponent
  let scaled := tens exact.1 exact.2 (-place)
  let below := scaled.1 / scaled.2
  let nearer := if 2 * (scaled.1 % scaled.2) < scaled.2 then below else below + 1
  let farther := if nearer = below then below + 1 else below
  if b.holds nearer place then some ⟨nearer, place⟩
  else if b.holds farther place then some ⟨farther, place⟩
  else none

/-- The fewest digits that round to the double; 17 always do. The next power of ten may be among
them. -/
def shortest (b : Basin) : Scaled :=
  let exact := shiftUp b.middle 1 b.exponent
  let k := magnitude exact.1 exact.2
  ((List.range 18).findSome? fun (i : Nat) => b.onGrid? (k - i)).getD ⟨0, 0⟩

end Basin

/-- Never an exponent: zeros reach to the point on either side. -/
def Scaled.positional (d : Scaled) : List Char :=
  if 0 ≤ d.place then digits (d.number * Nat.pow 10 d.place.toNat)
  else withPoint (-d.place).toNat d.number

/-- The shortest digits that read back as the same number. -/
def shortestText (f : Float) : String :=
  match Double.ofFloat f with
  | .nan => "NaN"
  | .infinite negative => .ofList (minus negative ++ "inf".toList)
  | .finite negative 0 _ => .ofList (minus negative ++ ['0'])
  | .finite negative m e => .ofList (minus negative ++ (Basin.of m e).shortest.positional)

end SongPattern.Number

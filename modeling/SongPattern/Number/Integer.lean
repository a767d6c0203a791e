namespace SongPattern.Number

def digitsValue (base : Nat) (digit? : Char → Option Nat) (value : Nat) :
    List Char → Option Nat
  | [] => some value
  | c :: cs => do digitsValue base digit? (value * base + (← digit? c)) cs

def decimalDigit? (c : Char) : Option Nat :=
  if c.isDigit then some (c.toNat - '0'.toNat) else none

/-- A number without sign; at least one digit, and nothing but digits. -/
def readNat? (cs : List Char) : Option Nat :=
  if cs.isEmpty then none else digitsValue 10 decimalDigit? 0 cs

/-- An integer with an optional sign. -/
def readSigned? : List Char → Option Int
  | '-' :: cs => (readNat? cs).map fun n => -(n : Int)
  | '+' :: cs => (readNat? cs).map fun n => (n : Int)
  | cs => (readNat? cs).map fun n => (n : Int)

def fitsWord (n : Int) : Bool := -0x8000000000000000 ≤ n && n < 0x8000000000000000

/-- An integer that fits a signed word of 64 bits. -/
def readWord? (s : String) : Option Int :=
  (readSigned? s.toList).filter fitsWord

def digits (n : Nat) : List Char := Nat.toDigits 10 n

def zeros (count : Nat) : List Char := List.replicate count '0'

/-- Zeros fill the text up to `width` characters; they follow a minus sign, which counts. -/
def padded (width : Nat) (n : Int) : String :=
  let ds := digits n.natAbs
  if n < 0 then .ofList ('-' :: (zeros (width - 1 - ds.length) ++ ds))
  else .ofList (zeros (width - ds.length) ++ ds)

def text (n : Int) : String := padded 0 n

end SongPattern.Number

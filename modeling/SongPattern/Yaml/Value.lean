import SongPattern.Number.Decimal
import SongPattern.Yaml.Document

namespace SongPattern.Yaml

/-- What a scalar stands for. A number too large for a word of 64 bits is none of the others. -/
inductive Value where
  | null
  | bool (b : Bool)
  | int (n : Int)
  | float (f : Float)
  | oversized
  | text (s : String)

namespace Value

def readNull? (s : String) : Option Unit :=
  if s ∈ ["null", "Null", "NULL", "~"] then some () else none

def readBool? (s : String) : Option Bool :=
  if s ∈ ["true", "True", "TRUE"] then some true
  else if s ∈ ["false", "False", "FALSE"] then some false
  else none

/-- Digits that start with a zero, unless they are a single one, are no number. -/
def hasLeadingZero (cs : List Char) : Bool :=
  cs.head? = some '0' && 1 < cs.length && cs.all Char.isDigit

def readMagnitude? : List Char → Option Nat
  | '0' :: 'x' :: cs => if cs.isEmpty then none else Number.digitsValue 16 hexValue? 0 cs
  | '0' :: 'o' :: cs =>
    if cs.isEmpty then none
    else Number.digitsValue 8 (fun c => (Number.decimalDigit? c).filter (· < 8)) 0 cs
  | '0' :: 'b' :: cs =>
    if cs.isEmpty then none
    else Number.digitsValue 2 (fun c => (Number.decimalDigit? c).filter (· < 2)) 0 cs
  | cs => if hasLeadingZero cs then none else Number.readNat? cs

/-- An integer with an optional sign, in decimal or behind `0x`, `0o` or `0b`. -/
def readInt? (s : String) : Option Int :=
  match s.toList with
  | '-' :: cs => (readMagnitude? cs).map fun n => -(n : Int)
  | '+' :: cs => (readMagnitude? cs).map fun n => (n : Int)
  | cs => (readMagnitude? cs).map fun n => (n : Int)

/-- The unsigned words of 64 bits and the negative signed ones are numbers. Up to twice that length
an integer is too large; beyond that it is read as a floating-point number. -/
def ofInt? (n : Int) : Option Value :=
  if -0x8000000000000000 ≤ n && n < 0x10000000000000000 then some (.int n)
  else if -0x80000000000000000000000000000000 ≤ n && n < 0x100000000000000000000000000000000 then
    some .oversized
  else none

def isFinite (f : Float) : Bool :=
  match Number.Double.ofFloat f with
  | .finite _ _ _ => true
  | _ => false

/-- A finite number, or one of the words for those that are not. -/
def readFloat? (s : String) : Option Float :=
  if s ∈ [".inf", ".Inf", ".INF", "+.inf", "+.Inf", "+.INF"] then
    some (Number.Double.signed false Number.Double.infinityBits)
  else if s ∈ ["-.inf", "-.Inf", "-.INF"] then
    some (Number.Double.signed true Number.Double.infinityBits)
  else if s ∈ [".nan", ".NaN", ".NAN"] then some Number.Double.nanFloat
  else (Number.readFloat? s).filter isFinite

def readNumber? (s : String) : Option Value :=
  match (readInt? s).bind ofInt? with
  | some value => some value
  | none =>
    let bare := match s.toList with
      | '-' :: cs | '+' :: cs => cs
      | cs => cs
    if hasLeadingZero bare then none else (readFloat? s).map .float

/-- What an unquoted text stands for. -/
def ofPlain (s : String) : Value :=
  if s = "" || (readNull? s).isSome then .null
  else match readBool? s with
    | some b => .bool b
    | none => (readNumber? s).getD (.text s)

/-- What a scalar stands for. A tag can ask for one kind of value; a tag of the document's own
stands for nothing. -/
def ofScalar? (s : String) (style : Style) : (tag : Option Tag) → Option Value
  | none | some .unreadable => some (if style = .plain then ofPlain s else .text s)
  | some .null => (readNull? s).map fun _ => .null
  | some .bool => (readBool? s).map .bool
  | some .int => (readInt? s).bind ofInt?
  | some .float => (readFloat? s).map .float
  | some .own => none
  | some .other => some (.text s)

end Value

end SongPattern.Yaml

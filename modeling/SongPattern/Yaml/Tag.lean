namespace SongPattern.Yaml

/-- What a tag asks of its node. -/
inductive Tag where
  | null
  | bool
  | int
  | float
  /-- A kind that the document names itself. -/
  | own
  /-- A kind that the document names itself, but with bytes that are no text. -/
  | unreadable
  | other
  deriving DecidableEq

namespace Tag

def mark : UInt8 := 0x21

def bytesOf (s : String) : List UInt8 := s.toByteArray.data.toList

/-- A tag ends at its first zero byte. -/
def clip (bytes : List UInt8) : List UInt8 := bytes.takeWhile (· ≠ 0)

def isText (bytes : List UInt8) : Bool := (ByteArray.mk bytes.toArray).validateUTF8

def kinds : List (List UInt8 × Tag) :=
  [(bytesOf "tag:yaml.org,2002:null", null), (bytesOf "tag:yaml.org,2002:bool", bool),
    (bytesOf "tag:yaml.org,2002:int", int), (bytesOf "tag:yaml.org,2002:float", float)]

def ofBytes (bytes : List UInt8) : Tag :=
  match kinds.lookup bytes with
  | some t => t
  | none =>
    match bytes with
    | b :: rest => if b ≠ mark then other else if isText rest then own else unreadable
    | [] => other

end Tag

end SongPattern.Yaml

import SongPattern.Policy.Basic

namespace SongPattern.Policy

def isUnreserved (b : UInt8) : Bool :=
  let n := b.toNat
  (97 ≤ n && n ≤ 122) || (65 ≤ n && n ≤ 90) || (48 ≤ n && n ≤ 57) ||
    n = 95 || n = 46 || n = 45 || n = 126

def hexDigit (n : Nat) : Char := Char.ofNat (if n < 10 then 48 + n else 55 + n)

def quoteByte (b : UInt8) : List Char :=
  if isUnreserved b then [Char.ofNat b.toNat]
  else if b = 32 then ['+']
  else ['%', hexDigit (b.toNat / 16), hexDigit (b.toNat % 16)]

/-- Form encoding: letters, digits and `_.-~` stand for themselves, a plus for a space, and any
other byte is written in hexadecimal. -/
def quotePlus (s : String) : String :=
  .ofList (s.toList.flatMap fun c => (String.utf8EncodeChar c).flatMap quoteByte)

def url : Policy := { plain with kind := .url, value := fun _ value => quotePlus value }

end SongPattern.Policy

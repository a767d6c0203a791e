namespace SongPattern.Unicode

/-- Code points as ranges in rising order that neither overlap nor touch; both ends belong to a
range. Every operation below restores that form, so two sets with the same members are equal. -/
structure CharSet where
  ranges : List (Nat × Nat)
  deriving DecidableEq

namespace CharSet

def lastCodePoint : Nat := 0x10ffff

def empty : CharSet := ⟨[]⟩

def all : CharSet := ⟨[(0, lastCodePoint)]⟩

def single (n : Nat) : CharSet := ⟨[(n, n)]⟩

def range (first last : Nat) : CharSet := ⟨[(first, last)]⟩

def member (s : CharSet) (n : Nat) : Bool :=
  s.ranges.any fun r => r.1 ≤ n && n ≤ r.2

def contains (s : CharSet) (c : Char) : Bool := s.member c.toNat

/-- Joins ranges sorted by their first code point, `first` to `last` being the one still open. -/
def close (first last : Nat) : List (Nat × Nat) → List (Nat × Nat)
  | [] => [(first, last)]
  | (a, b) :: rest =>
    if a ≤ last + 1 then close first (max b last) rest else (first, last) :: close a b rest

/-- Puts a range in front of the first one that does not start before it. -/
def insertRange (r : Nat × Nat) : List (Nat × Nat) → List (Nat × Nat)
  | [] => [r]
  | q :: rest => if r.1 ≤ q.1 then r :: q :: rest else q :: insertRange r rest

def ofRanges (rs : List (Nat × Nat)) : CharSet :=
  match rs.foldr insertRange [] with
  | [] => empty
  | (a, b) :: rest => ⟨close a b rest⟩

def union (s t : CharSet) : CharSet := ofRanges (s.ranges ++ t.ranges)

/-- The gaps from `next` on. -/
def gaps (next : Nat) : List (Nat × Nat) → List (Nat × Nat)
  | [] => if next ≤ lastCodePoint then [(next, lastCodePoint)] else []
  | (a, b) :: rest => if next < a then (next, a - 1) :: gaps (b + 1) rest else gaps (b + 1) rest

def complement (s : CharSet) : CharSet := ⟨gaps 0 s.ranges⟩

def inter (s t : CharSet) : CharSet := (s.complement.union t.complement).complement

def diff (s t : CharSet) : CharSet := s.inter t.complement

def symmDiff (s t : CharSet) : CharSet := (s.union t).diff (s.inter t)

def unions (ss : List CharSet) : CharSet := ofRanges (ss.flatMap ranges)

end CharSet

end SongPattern.Unicode

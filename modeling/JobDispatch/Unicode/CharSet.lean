/-!
Sets of characters, kept as rising ranges of code points with gaps between them.
-/

namespace JobDispatch.Unicode

/-- A range of code points, both ends included. -/
abbrev Range := Nat × Nat

/-- The largest code point. -/
def maxCode : Nat := 0x10FFFF

structure CharSet where
  ranges : List Range
  deriving DecidableEq, Repr, Inhabited

namespace CharSet

def containsCode (s : CharSet) (n : Nat) : Bool := s.ranges.any fun r => r.1 ≤ n && n ≤ r.2

def contains (s : CharSet) (c : Char) : Bool := s.containsCode c.toNat

def isEmpty (s : CharSet) : Bool := s.ranges.isEmpty

/-- Joins rising ranges that touch each other; `low` and `high` are the range before them. -/
def join (low high : Nat) : List Range → List Range
  | [] => [(low, high)]
  | (a, b) :: rs =>
    if a ≤ high + 1 then join low (max high b) rs else (low, high) :: join a b rs

/-- The set of the code points in any of the ranges. -/
def ofRanges (rs : List Range) : CharSet :=
  match (rs.filter fun r => r.1 ≤ r.2).mergeSort fun a b => a.1 ≤ b.1 with
  | [] => ⟨[]⟩
  | (a, b) :: rest => ⟨join a b rest⟩

def empty : CharSet := ⟨[]⟩

def singleton (c : Char) : CharSet := ⟨[(c.toNat, c.toNat)]⟩

def range (low high : Nat) : CharSet := ofRanges [(low, high)]

def all : CharSet := ⟨[(0, maxCode)]⟩

def ascii : CharSet := ⟨[(0, 0x7F)]⟩

def union (s t : CharSet) : CharSet :=
  if t.ranges.isEmpty then s else if s.ranges.isEmpty then t else ofRanges (s.ranges ++ t.ranges)

def unions (ss : List CharSet) : CharSet := ofRanges (ss.flatMap CharSet.ranges)

/-- The gaps between rising ranges, from `next` on. -/
def gaps (next : Nat) : List Range → List Range
  | [] => if next ≤ maxCode then [(next, maxCode)] else []
  | (a, b) :: rs => if next < a then (next, a - 1) :: gaps (b + 1) rs else gaps (b + 1) rs

def compl (s : CharSet) : CharSet := ⟨gaps 0 s.ranges⟩

def inter (s t : CharSet) : CharSet := (s.compl.union t.compl).compl

def diff (s t : CharSet) : CharSet := s.inter t.compl

def symmDiff (s t : CharSet) : CharSet := (s.diff t).union (t.diff s)

/-- Whether all members have less than eight bits. -/
def isAscii (s : CharSet) : Bool := s.ranges.all fun r => r.2 < 0x80

/-- The only member of a set that has one. -/
def single? (s : CharSet) : Option Nat :=
  match s.ranges with
  | [(a, b)] => if a = b then some a else none
  | _ => none

end CharSet

end JobDispatch.Unicode

import JobDispatch.Unicode.CharSet
import JobDispatch.Unicode.Run

/-!
Sets of characters that the standard names, written as the ranges of their code points.
-/

namespace JobDispatch.Unicode

/-- The names of a set, in lower case and without separators, and its ranges in hexadecimal
digits. -/
structure NamedSet where
  names : List String
  ranges : String

/-- Reads `first-last`, or a single code point. -/
def rangeOfText (s : List Char) : Range :=
  let first := ofHex (s.takeWhile (· != '-'))
  match s.dropWhile (· != '-') with
  | [] => (first, first)
  | _ :: r => (first, ofHex r)

/-- The set of rising ranges that are written with white space between them. -/
def CharSet.ofText (s : String) : CharSet := ⟨(words s).map rangeOfText⟩

namespace NamedSet

def set (n : NamedSet) : CharSet := .ofText n.ranges

def find? (table : List NamedSet) (name : String) : Option CharSet :=
  (table.find? fun n => n.names.contains name).map set

/-- The union of several sets of a table. -/
def all (table : List NamedSet) (names : List String) : CharSet :=
  .unions (names.filterMap (find? table))

end NamedSet

end JobDispatch.Unicode

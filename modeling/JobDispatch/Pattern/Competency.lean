import JobDispatch.Pattern.Image
import JobDispatch.Pattern.Reader
import JobDispatch.Pattern.Size

/-!
Competencies: patterns that have to match the whole of a value. A text that is no pattern stands
for itself.
-/

namespace JobDispatch.Pattern

/-- The meaning of a pattern's text, if it is a pattern and small enough. -/
def meaning? (p : List Char) : Option Meaning := do
  let t ← Tree.read p
  let (n, _) ← t.node .start
  if fitsSize n then return n else none

/-- A pattern put between the anchors of a text. -/
def anchored (p : List Char) : List Char := "^(?:".toList ++ p ++ ")$".toList

/-- The meaning of a pattern between anchors, if the pattern has one on its own, too. -/
def competency? (p : String) : Option Meaning :=
  if (meaning? p.toList).isSome then meaning? (anchored p.toList) else none

/-- Whether a competency covers a value, where `m` is the competency's meaning. -/
def covers (m : Option Meaning) (p v : String) : Bool :=
  match m with
  | some n => n.matchesPart v.toList
  | none => p == v

/-- Whether a competency covers a value. -/
def fits (p v : String) : Bool := covers (competency? p) p v

end JobDispatch.Pattern

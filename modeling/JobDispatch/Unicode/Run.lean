/-!
Runs of code points with a step, and the runs they are taken to.
-/

namespace JobDispatch.Unicode

/-- The value of a hexadecimal digit. -/
def hexValue (c : Char) : Nat :=
  if c.isDigit then c.toNat - 48 else if c.toNat < 97 then c.toNat - 55 else c.toNat - 87

def ofHex (s : List Char) : Nat := s.foldl (fun n c => n * 16 + hexValue c) 0

/-- The code points from `first` to `last`, one in every `step` of them, taken to those from
`target` on. -/
structure Run where
  first : Nat
  last : Nat
  step : Nat
  target : Nat

namespace Run

/-- Reads `first-last/step:target`, where the step and the end may be missing. -/
def ofText (s : List Char) : Run :=
  let target := ofHex ((s.dropWhile (· != ':')).drop 1)
  let s := s.takeWhile (· != ':')
  let step := if s.contains '/' then ofHex ((s.dropWhile (· != '/')).drop 1) else 1
  let s := s.takeWhile (· != '/')
  let first := ofHex (s.takeWhile (· != '-'))
  ⟨first, if s.contains '-' then ofHex ((s.dropWhile (· != '-')).drop 1) else first, step, target⟩

def image? (r : Run) (n : Nat) : Option Nat :=
  if r.first ≤ n && n ≤ r.last && (n - r.first) % r.step == 0 then some (n - r.first + r.target)
  else none

def pairs (r : Run) : List (Nat × Nat) :=
  (List.range (r.last - r.first + 1)).filterMap fun i =>
    (r.image? (r.first + i)).map fun t => (r.first + i, t)

end Run

/-- The texts between the white space of a table. -/
def words (s : String) : List (List Char) :=
  (s.toList.splitOnP fun c => c == ' ' || c == '\n').filter (· != [])

def readRuns (s : String) : List Run := (words s).map Run.ofText

end JobDispatch.Unicode

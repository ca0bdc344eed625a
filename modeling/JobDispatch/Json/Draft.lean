import JobDispatch.Json.Value

/-!
JSON texts as they are read: the value that a text spells out up to its first fault. A fault
stands where the text stops being JSON, so whoever interprets the value from left to right meets
either a value of the wrong shape or the fault, whichever comes first.
-/

namespace JobDispatch

/-- How the reading of a container ended. -/
inductive Ending where
  | closed
  | cut
  /-- a value other than a text stands where a field's name belongs -/
  | nameless
  deriving DecidableEq, Repr

inductive Draft where
  | null
  | bool (b : Bool)
  | number (n : Number)
  /-- absent when an escape stands for half of a surrogate pair -/
  | text (s : Option String)
  | list (items : List Draft) (ending : Ending)
  | record (fields : List (Option String × Draft)) (ending : Ending)
  /-- the text is no JSON from here on -/
  | broken
  deriving Inhabited

namespace Draft

mutual

/-- The draft of a faultless text. -/
def ofJson : Json → Draft
  | .null => null
  | .bool b => bool b
  | .number n => number n
  | .text s => text (some s)
  | .list items => list (ofItems items) .closed
  | .record fields => record (ofFields fields) .closed

def ofItems : List Json → List Draft
  | [] => []
  | x :: xs => ofJson x :: ofItems xs

def ofFields : List (String × Json) → List (Option String × Draft)
  | [] => []
  | (k, v) :: fs => (some k, ofJson v) :: ofFields fs

end

mutual

/-- The value of a draft without faults. -/
def toJson? : Draft → Option Json
  | null => some .null
  | bool b => some (.bool b)
  | number n => some (.number n)
  | text (some s) => some (.text s)
  | list items .closed => (toItems? items).map .list
  | record fields .closed => (toFields? fields).map .record
  | _ => none

def toItems? : List Draft → Option (List Json)
  | [] => some []
  | x :: xs => do return (← x.toJson?) :: (← toItems? xs)

def toFields? : List (Option String × Draft) → Option (List (String × Json))
  | [] => some []
  | (k, v) :: fs => do return (← k, ← v.toJson?) :: (← toFields? fs)

end

end Draft

end JobDispatch

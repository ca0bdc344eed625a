import JobDispatch.Job.Change
import JobDispatch.Runner.Change
import JobDispatch.Wire.Job

/-!
Verdicts on changes, as they are told to others.
-/

namespace JobDispatch

structure Verdict where
  valid : Bool
  message : Option String
  deriving DecidableEq, Repr

/-- The verdict on a change with or without an objection. -/
def Verdict.ofObjection (message : Option String) : Verdict := ⟨message.isNone, message⟩

instance : Wire Verdict where
  toJson v := .record [("valid", Wire.toJson v.valid), ("message", Wire.toJson v.message)]
  decoder := .record ⟨false, none⟩ [
    .of "valid" .required Wire.decoder fun x v => { v with valid := x },
    .of "message" .optional Wire.decoder fun x v => { v with message := x }]

def JobChange.verdict (c : JobChange) : Verdict := .ofObjection (c.objection.map (·.message))

def JobCreation.verdict (c : JobCreation) : Verdict := .ofObjection (c.objection.map (·.message))

def RunnerChange.verdict (c : RunnerChange) : Verdict := .ofObjection (c.objection.map (·.message))

def RunnerCreation.verdict (c : RunnerCreation) : Verdict :=
  .ofObjection (c.objection.map (·.message))

end JobDispatch

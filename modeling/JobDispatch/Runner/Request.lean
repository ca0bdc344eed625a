import JobDispatch.Runner.Basic

/-!
What runners ask of the registry: to be registered, and to have their status noted.
-/

namespace JobDispatch

structure RegisterRunner where
  callback : Option String
  timeToLive : Option Int
  competencies : Option Competencies
  deriving DecidableEq, Repr, Inhabited

def RegisterRunner.value (r : RegisterRunner) : RunnerValue :=
  ⟨r.callback, r.timeToLive, r.competencies, none⟩

structure RunnerStatusPatch where
  status : RunnerStatus
  deriving DecidableEq, Repr

end JobDispatch

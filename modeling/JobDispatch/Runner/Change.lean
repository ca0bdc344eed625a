import JobDispatch.Runner.Basic

/-!
Registrations of runners, which are checked, and updates of registered ones, which are not.
-/

namespace JobDispatch

/-- Why a runner cannot be registered. -/
inductive RunnerObjection where
  | noCallback
  | noTimeToLive
  | timeToLiveNotPositive
  | noCompetencies
  | noCategories
  | noNames
  deriving DecidableEq, Repr

def RunnerObjection.message : RunnerObjection → String
  | noCallback => "a runner must have a callback"
  | noTimeToLive => "a runner must have a time to live"
  | timeToLiveNotPositive => "a runner time to live must be positive"
  | noCompetencies => "a runner must have competencies"
  | noCategories => "runner competencies must have categories set"
  | noNames => "runner competencies must have names set"

structure RunnerCreation where
  initial : RunnerValue

namespace RunnerCreation

/-- The first thing that a new runner lacks. -/
def objection (c : RunnerCreation) : Option RunnerObjection :=
  if c.initial.callback = none then some .noCallback
  else match c.initial.timeToLive with
    | none => some .noTimeToLive
    | some ttl =>
      if ttl ≤ 0 then some .timeToLiveNotPositive
      else match c.initial.competencies with
        | none => some .noCompetencies
        | some k =>
          if k.categories = none then some .noCategories
          else if k.names = none then some .noNames
          else none

/-- A new runner is idle unless it says otherwise, and was heard of now for the first time. -/
def appliedAt (c : RunnerCreation) (now : Time.Instant) : RunnerValue :=
  let runtime := c.initial.runtime.getD .blank
  { c.initial with
    runtime := some ⟨some (runtime.status.getD .idle), some now, some now⟩ }

end RunnerCreation

structure RunnerChange where
  current : RunnerValue
  proposed : RunnerValue

namespace RunnerChange

def objection (_ : RunnerChange) : Option RunnerObjection := none

def applied (c : RunnerChange) : RunnerValue := c.proposed

end RunnerChange

end JobDispatch

import JobDispatch.Job.Basic

/-!
Changes of jobs: a current and a proposed value, the rules that a proposal has to keep, and the
value that is stored when it does. A creation has no current value.
-/

namespace JobDispatch

/-- Why a job cannot be created or changed as proposed. -/
inductive JobObjection where
  | noName
  | noCategory
  | noAccount
  | doneIsFinal
  | exitStatusMissing
  | alreadyRunning
  deriving DecidableEq, Repr

def JobObjection.message : JobObjection → String
  | noName => "a job must have a name"
  | noCategory => "a job must have a category"
  | noAccount => "a job must have an account id"
  | doneIsFinal => "cannot change a job when run status is DONE"
  | exitStatusMissing => "exit status must be set"
  | alreadyRunning => "job is already RUNNING"

structure JobChange where
  current : JobValue
  proposed : JobValue

namespace JobChange

/-- The first rule that a change breaks: a done job stays as it is, a running job is done with
an exit status only, and does not start again. -/
def objection (c : JobChange) : Option JobObjection :=
  if c.current.status.run = some .done then some .doneIsFinal
  else if c.current.status.run = some .running then
    if c.proposed.status.run = some .done ∧ c.proposed.status.exit = none then
      some .exitStatusMissing
    else if c.proposed.status.run = some .running then some .alreadyRunning
    else none
  else none

/-- The value that a change leads to at an instant: a pending job that runs is stamped as
started, one that becomes done as finished. -/
def appliedAt (c : JobChange) (now : Time.Instant) : JobValue :=
  let p := c.proposed
  if c.current.status.run = some .pending ∧ p.status.run = some .running then
    { p with processing := { p.processing with started := some now } }
  else if c.current.status.run ≠ some .done ∧ p.status.run = some .done then
    { p with processing := { p.processing with finished := some now } }
  else p

end JobChange

structure JobCreation where
  initial : JobValue

namespace JobCreation

/-- The first thing that a new job lacks. -/
def objection (c : JobCreation) : Option JobObjection :=
  if c.initial.name = none then some .noName
  else if c.initial.category = none then some .noCategory
  else if c.initial.accountId = none then some .noAccount
  else none

/-- A new job is pending and submitted now. -/
def appliedAt (c : JobCreation) (now : Time.Instant) : JobValue :=
  { c.initial with
    status := { c.initial.status with run := some .pending }
    processing := { c.initial.processing with submitted := some now } }

end JobCreation

end JobDispatch

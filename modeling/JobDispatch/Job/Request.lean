import JobDispatch.Job.Basic

/-!
What callers ask of the registry about a job: a new one, or a change of a stored one.
-/

namespace JobDispatch

/-- A new job as its owner describes it. -/
structure CreateJob where
  name : Option String
  category : Option String
  accountId : Option String
  arguments : List String
  deriving DecidableEq, Repr, Inhabited

def CreateJob.value (r : CreateJob) : JobValue :=
  { JobValue.blank with
    name := r.name
    category := r.category
    arguments := r.arguments
    accountId := r.accountId }

/-- A change of the job that is stored at `version`. -/
structure JobPatch where
  version : Nat
  status : Option JobStatus
  result : Option String
  deriving DecidableEq, Repr, Inhabited

namespace JobPatch

/-- Takes a pending job to run it. -/
def reserve (version : Nat) : JobPatch := ⟨version, some .running, none⟩

/-- Reports the status and result of a value. -/
def report (version : Nat) (v : JobValue) : JobPatch := ⟨version, some v.status, v.result⟩

/-- The value that a patch proposes: its status and its result, where it has them, in place of
the current ones. -/
def applyTo (p : JobPatch) (current : JobValue) : JobValue :=
  { current with
    status := p.status.getD current.status
    result := p.result <|> current.result }

end JobPatch

end JobDispatch

import JobDispatch.Job.Change
import JobDispatch.Job.Request
import JobDispatch.Query.JobQuery
import JobDispatch.Store.Repository

/-!
What the registry does with jobs: takes new ones, finds them, and changes them for those who
name the version they know.
-/

namespace JobDispatch

instance : Documented JobValue := ⟨JobValue.document⟩

inductive JobError where
  | notFound (id : String)
  | refused (o : JobObjection)
  | versionConflict (id : String) (expected actual : Nat)
  deriving DecidableEq, Repr

namespace JobError

def ofStore : StoreError → JobError
  | .notFound id => notFound id
  | .versionConflict id expected actual => versionConflict id expected actual

def message : JobError → String
  | notFound id => "job " ++ id ++ " not found"
  | refused o => o.message
  | versionConflict id expected actual =>
    "job " ++ id ++ " is at version " ++ Text.decimal actual ++ ", not " ++ Text.decimal expected

end JobError

abbrev JobAction (β : Type) := Action (Repository JobValue) JobError β

namespace Jobs

/-- Stores a new job, pending and submitted now. -/
def launch (now : Time.Instant) (req : CreateJob) : JobAction Job :=
  let creation : JobCreation := ⟨req.value⟩
  match creation.objection with
  | some o => throw (.refused o)
  | none => Action.rephrase .ofStore (Repository.create (creation.appliedAt now))

def get (id : String) : JobAction Job := do
  match ← Action.rephrase .ofStore (Repository.retrieve id) with
  | some job => return job
  | none => throw (.notFound id)

def search (q : JobQuery) (start stop : Nat) : JobAction (Page Job) :=
  Action.rephrase .ofStore (Repository.search q.filter start stop)

/-- The value a patch leads to, computed from the job as it was retrieved: the patch has to name
the job's version, and the change has to keep the rules. -/
def checkPatch (now : Time.Instant) (job : Job) (patch : JobPatch) : Except JobError JobValue :=
  if job.version ≠ patch.version then
    .error (.versionConflict job.id patch.version job.version)
  else
    let change : JobChange := ⟨job.value, patch.applyTo job.value⟩
    match change.objection with
    | some o => .error (.refused o)
    | none => .ok (change.appliedAt now)

/-- Changes a job: it is retrieved, and updated if it is still the same then. -/
def patch (now : Time.Instant) (id : String) (p : JobPatch) : JobAction Job := do
  let job ← get id
  match checkPatch now job p with
  | .error e => throw e
  | .ok value => Action.rephrase .ofStore (Repository.update job value)

end Jobs

end JobDispatch

import JobDispatch.Client.Error
import JobDispatch.Agent.Config
import JobDispatch.Job.Request
import JobDispatch.Query.JobQuery
import JobDispatch.Agent.Worker

/-!
A runner's desk: how it gets jobs from the registry, and how it reports what came of them. What
lies between the runner and the registry is left open, and so is how time passes.
-/

namespace JobDispatch

/-- The runner and the registry no longer agree on a job. -/
structure FatalError where
  correlation : String
  jobId : String
  reason : String
  deriving DecidableEq, Repr

def FatalError.message (e : FatalError) : String :=
  "fatal failure on job " ++ e.jobId ++ " (correlation " ++ e.correlation ++ "): " ++ e.reason

/-- What a desk can do. -/
structure Desk (m : Type → Type) where
  /-- the first jobs that fit, up to a number of them -/
  candidates : JobParams → Nat → m (Except RegistryError (List Job))
  patch : String → JobPatch → m (Except RegistryError Job)
  sleep : Time.Span → m Unit
  /-- a text by which what belongs together can be found again -/
  correlation : m String
  /-- tells whoever watches over the runner -/
  raise : FatalError → m Unit

/-- Which jobs are asked for, and how stubbornly they are reported. -/
structure DeskRules where
  params : JobParams
  window : Nat
  maxAttempts : Nat
  retryDelay : Time.Span
  deriving DecidableEq, Repr

/-- The rules of a configuration: pending jobs of its account, category and names, and at least
one attempt at a report. -/
def RunnerConfig.deskRules (c : RunnerConfig) : DeskRules where
  params := JobParams.withNames
    ⟨some c.accountId, some c.category, none, some .pending, none⟩ c.jobNames
  window := c.candidateWindow
  maxAttempts := max c.updateMaxAttempts 1
  retryDelay := c.updateRetryDelay

/-- A job that failed, with the reason as its result. -/
def Entity.failed (job : Job) (reason : String) : Job :=
  job.withValue ((job.value.withStatus .done (some .failure)).withResult reason)

namespace Desk

variable {m : Type → Type} [Monad m] (d : Desk m)

/-- Reserves the first candidate that can be reserved. -/
def reserveFirst : List Job → m (Option Job)
  | [] => return none
  | c :: cs => do
    match ← d.patch c.id (.reserve c.version) with
    | .ok job => return some job
    | .error _ => reserveFirst cs

/-- Reserves a job, if one can be had. -/
def nextJob (rules : DeskRules) : m (Except RegistryError (Option Job)) := do
  match ← d.candidates rules.params rules.window with
  | .error e => return .error e
  | .ok cs => return .ok (← d.reserveFirst cs)

/-- Gives a report up. -/
def giveUp (job : Job) (reason : String) : m (Except FatalError Job) := do
  let e : FatalError := ⟨← d.correlation, job.id, reason⟩
  d.raise e
  return .error e

/-- Reports with up to `left` more attempts after this one, which is the attempt of a number. -/
def reportFrom (rules : DeskRules) (job : Job) : Nat → Nat → m (Except FatalError Job)
  | left, attempt => do
    match ← d.patch job.id (.report job.version job.value) with
    | .ok stored => return .ok stored
    | .error e =>
      if !e.isTransient then d.giveUp job e.message
      else match left with
        | 0 =>
          d.giveUp job ("gave up after " ++ Text.decimal attempt ++ " attempt(s): " ++ e.message)
        | left + 1 =>
          d.sleep rules.retryDelay
          reportFrom rules job left (attempt + 1)

/-- Reports a job; the registry has to know the version that it names. -/
def report (rules : DeskRules) (job : Job) : m (Except FatalError Job) :=
  d.reportFrom rules job (rules.maxAttempts - 1) 1

end Desk

/-- How the processor of a job ends. -/
inductive Processed where
  | finished (job : Job)
  | failed (text : String)
  | panicked

/-- What a worker does with a job once its processor ended: a failure is reported like a job that
failed, and after a panic nothing is reported. -/
def Desk.conclude {m : Type → Type} [Monad m] (d : Desk m) (rules : DeskRules) (job : Job) :
    Processed → m Outcome
  | .panicked => return .panicked
  | .finished done => outcome <$> d.report rules done
  | .failed text => outcome <$> d.report rules (job.failed text)
where
  outcome : Except FatalError Job → Outcome
    | .ok _ => .finished
    | .error _ => .failed

end JobDispatch

import JobDispatch.Query.RunnerQuery
import JobDispatch.Runner.Change
import JobDispatch.Runner.Request
import JobDispatch.Store.Repository

/-!
What the registry does with runners: registers them, finds them, notes when they were heard of,
and marks those that have fallen silent.
-/

namespace JobDispatch

instance : Documented RunnerValue := ⟨RunnerValue.document⟩

inductive RunnerError where
  | notFound (id : String)
  | refused (o : RunnerObjection)
  | conflict (id : String)
  deriving DecidableEq, Repr

namespace RunnerError

def ofStore : StoreError → RunnerError
  | .notFound id => notFound id
  | .versionConflict id _ _ => conflict id

def message : RunnerError → String
  | notFound id => "runner " ++ id ++ " not found"
  | refused o => o.message
  | conflict id => "runner " ++ id ++ " was updated concurrently"

end RunnerError

abbrev RunnerAction (β : Type) := Action (Repository RunnerValue) RunnerError β

/-- Whether a runner's time to live passed since it was last heard of. A time that leads past
the last instant never passes. -/
def RunnerValue.isStale (v : RunnerValue) (now : Time.Instant) : Bool :=
  match v.lastPing, v.timeToLive with
  | some ping, some ttl =>
    v.status != some .disconnected && (ping.addSeconds ttl).any fun limit => limit.before now
  | _, _ => false

namespace Runners

/-- Stores a new runner, which was heard of now. -/
def register (now : Time.Instant) (req : RegisterRunner) : RunnerAction Runner :=
  let creation : RunnerCreation := ⟨req.value⟩
  match creation.objection with
  | some o => throw (.refused o)
  | none => Action.rephrase .ofStore (Repository.create (creation.appliedAt now))

def get (id : String) : RunnerAction Runner := do
  match ← Action.rephrase .ofStore (Repository.retrieve id) with
  | some runner => return runner
  | none => throw (.notFound id)

def search (q : RunnerQuery) (start stop : Nat) : RunnerAction (Page Runner) :=
  Action.rephrase .ofStore (Repository.search q.filter start stop)

/-- The value of a runner, as it was retrieved, that gives its status now. -/
def checkStatus (now : Time.Instant) (runner : Runner) (p : RunnerStatusPatch) :
    Except RunnerError RunnerValue :=
  let change : RunnerChange := ⟨runner.value, runner.value.pinged p.status now⟩
  match change.objection with
  | some o => .error (.refused o)
  | none => .ok change.applied

/-- Notes a runner's status, and that it was heard of now. -/
def patchStatus (now : Time.Instant) (id : String) (p : RunnerStatusPatch) :
    RunnerAction Runner := do
  let runner ← get id
  match checkStatus now runner p with
  | .error e => throw e
  | .ok value => Action.rephrase .ofStore (Repository.update runner value)

/-- Marks runners one by one and counts those that were still as given. -/
def disconnectEach : List Runner → StateM (Repository RunnerValue) Nat
  | [] => return 0
  | r :: rs => do
    let marked := match ← (Repository.update r (r.value.withStatus .disconnected)).run with
      | .ok _ => 1
      | .error _ => 0
    return marked + (← disconnectEach rs)

/-- Marks the runners that have fallen silent as disconnected and counts them. -/
def disconnectStale (now : Time.Instant) : RunnerAction Nat := do
  let page ← Action.rephrase .ofStore (Repository.all 0 Text.maxWord)
  ExceptT.lift (disconnectEach (page.items.filter fun r => r.value.isStale now))

end Runners

end JobDispatch

import JobDispatch.Registry.Basic

/-!
Cleaning up: silent runners are marked, and what was done or disconnected long enough ago is
deleted. The parts of a pass do not depend on each other's success.
-/

namespace JobDispatch

/-- How long finished jobs and disconnected runners are kept. -/
structure Retention where
  jobs : Time.Span
  runners : Time.Span
  deriving DecidableEq, Repr

structure CleanupReport where
  disconnected : Nat
  purgedJobs : Nat
  purgedRunners : Nat
  deriving DecidableEq, Repr

namespace Retention

/-- The instant a span before now, or the earliest one. -/
def cutoff (now : Time.Instant) (span : Time.Span) : Time.Instant := (now.sub span).getD .first

def expiredJobs (k : Retention) (now : Time.Instant) : Filter :=
  .and [.eq "status.run" RunStatus.done.name, .before "processing.finished" (cutoff now k.jobs)]

def expiredRunners (k : Retention) (now : Time.Instant) : Filter :=
  .and [.eq "runtime.status" RunnerStatus.disconnected.name,
    .before "runtime.last_ping" (cutoff now k.runners)]

end Retention

namespace Registry

/-- The count that an action gives, or 0 where it fails. -/
def counted {ε : Type} (a : Action Registry ε Nat) : StateM Registry Nat := do
  return match ← a.run with
    | .ok n => n
    | .error _ => 0

/-- One pass of the cleaner. -/
def clean (keep : Retention) (now : Time.Instant) : StateM Registry CleanupReport := do
  let disconnected ← counted (onRunners (Runners.disconnectStale now))
  let purgedJobs ← counted (onJobs (Repository.deleteFrom (keep.expiredJobs now)))
  let purgedRunners ← counted (onRunners (Repository.deleteFrom (keep.expiredRunners now)))
  return ⟨disconnected, purgedJobs, purgedRunners⟩

end Registry

/-- What happens to a cleaner that runs in the background. -/
inductive CleanerEvent where
  /-- the interval passed, and it is now -/
  | tick (now : Time.Instant)
  /-- the shutdown signal got a value -/
  | signal (value : Bool)
  /-- nobody is left to give the signal -/
  | abandoned

/-- A cleaner over a registry; `running` tells whether it goes on. -/
structure Cleaner where
  registry : Registry
  running : Bool

/-- A cleaner makes a pass at each tick until it is told to stop or abandoned. -/
def Cleaner.step (keep : Retention) (c : Cleaner) : CleanerEvent → Cleaner
  | .tick now =>
    if c.running then { c with registry := ((c.registry |> Registry.clean keep now).run).2 } else c
  | .signal value => { c with running := c.running && !value }
  | .abandoned => { c with running := false }

end JobDispatch

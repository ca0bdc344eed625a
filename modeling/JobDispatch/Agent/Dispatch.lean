import JobDispatch.Agent.Desk
import JobDispatch.Agent.Pool

/-!
Polling: as long as a worker is idle, jobs are reserved and given to the pool.
-/

namespace JobDispatch

/-- What polling needs of the pool and of the desk. -/
structure Dispatch (m : Type → Type) where
  size : Nat
  hasIdleWorker : m Bool
  next : m (Except RegistryError (Option Job))
  give : Job → m (Except PoolError Unit)
  report : Job → m (Except FatalError Job)

namespace Dispatch

variable {m : Type → Type} [Monad m] (d : Dispatch m)

/-- Goes on polling with room for so many more jobs; `dispatched` were given to the pool. A job
that the pool refuses is reported as failed. -/
def pollFrom : Nat → Nat → m (Except FatalError Nat)
  | 0, dispatched => return .ok dispatched
  | room + 1, dispatched => do
    if !(← d.hasIdleWorker) then return .ok dispatched
    match ← d.next with
    | .ok (some job) =>
      match ← d.give job with
      | .ok () => pollFrom room (dispatched + 1)
      | .error e =>
        match ← d.report (job.failed ("refused by runner: " ++ e.message)) with
        | .ok _ => return .ok dispatched
        | .error f => return .error f
    | _ => return .ok dispatched

/-- Gives as many jobs to the pool as it takes, and says how many. -/
def poll : m (Except FatalError Nat) := d.pollFrom d.size 0

end Dispatch

end JobDispatch

import JobDispatch.Registry.Jobs
import JobDispatch.Registry.Runners

/-!
The registry: a repository of jobs and one of runners.
-/

namespace JobDispatch

structure Registry where
  jobs : Repository JobValue
  runners : Repository RunnerValue

namespace Registry

def empty : Registry := ⟨.empty "J", .empty "R"⟩

variable {ε β : Type}

def onJobs (a : Action (Repository JobValue) ε β) : Action Registry ε β :=
  a.onPart jobs fun s r => { r with jobs := s }

def onRunners (a : Action (Repository RunnerValue) ε β) : Action Registry ε β :=
  a.onPart runners fun s r => { r with runners := s }

end Registry

end JobDispatch

import JobDispatch.Client.Call
import JobDispatch.Registry.Listing
import JobDispatch.Wire.Job
import JobDispatch.Wire.Entity
import JobDispatch.Wire.Runner

/-!
The client of the registry: one call for each thing that the registry does.
-/

namespace JobDispatch

/-- A client of the registry at an address, which has no slash at its end. -/
structure Client where
  base : String
  deriving DecidableEq, Repr

namespace Client

def ofAddress (address : String) : Client :=
  ⟨String.ofList (address.toList.reverse.dropWhile (· == '/')).reverse⟩

variable (c : Client)

def launchJob (req : CreateJob) : Call Job :=
  ⟨Call.requestTo .post (c.base ++ "/jobs") [] (some (Wire.toJson req)), Reply.value⟩

def getJob (id : String) : Call Job :=
  ⟨Call.requestTo .get (c.base ++ "/jobs/" ++ id) [] none, Reply.value⟩

def listJobs (p : JobParams) (w : Window) : Call (Page Job) :=
  ⟨Call.requestTo .get (c.base ++ "/jobs") (p.toForm ++ w.toForm) none, Reply.value⟩

def patchJob (id : String) (p : JobPatch) : Call Job :=
  ⟨Call.requestTo .patch (c.base ++ "/jobs/" ++ id) [] (some (Wire.toJson p)), Reply.value⟩

def registerRunner (req : RegisterRunner) : Call Runner :=
  ⟨Call.requestTo .post (c.base ++ "/runners") [] (some (Wire.toJson req)), Reply.value⟩

def getRunner (id : String) : Call Runner :=
  ⟨Call.requestTo .get (c.base ++ "/runners/" ++ id) [] none, Reply.value⟩

def listRunners (p : RunnerParams) (w : Window) : Call (Page Runner) :=
  ⟨Call.requestTo .get (c.base ++ "/runners") (p.toForm ++ w.toForm) none, Reply.value⟩

def patchRunnerStatus (id : String) (status : RunnerStatus) : Call Unit :=
  ⟨Call.requestTo .patch (c.base ++ "/runners/" ++ id) []
    (some (Wire.toJson (⟨status⟩ : RunnerStatusPatch))), Reply.bare⟩

end Client

end JobDispatch

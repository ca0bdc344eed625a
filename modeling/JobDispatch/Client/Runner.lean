import JobDispatch.Client.Basic

/-!
What a runner asks of the registry over a client, and the errors as the runner sees them.
-/

namespace JobDispatch.Client

variable {m : Type → Type} [Monad m] (send : Http.Url → Http.Request → m Reply)

def seenByRunner {α : Type} (c : Call α) : m (Except RegistryError α) := do
  return (← c.perform send).mapError .ofClient

/-- The first jobs that fit, at most `size` of them; for none of them nobody is asked. -/
def candidates (c : Client) (p : JobParams) (size : Nat) : m (Except RegistryError (List Job)) :=
  if size = 0 then return .ok []
  else do return (← seenByRunner send (c.listJobs p ⟨0, size - 1⟩)).map Page.items

/-- Registers a runner and gives the identity that the registry assigned. -/
def enrol (c : Client) (req : RegisterRunner) : m (Except RegistryError String) := do
  return (← seenByRunner send (c.registerRunner req)).map Entity.id

end JobDispatch.Client

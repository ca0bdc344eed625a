import JobDispatch.Http.Form
import JobDispatch.Query.JobQuery
import JobDispatch.Query.RunnerQuery
import JobDispatch.Text.Decimal

/-!
What a request for a listing says in its query: which entities, and which window of them.
-/

namespace JobDispatch

open Http (Form)

/-- A window of a listing, both ends included. -/
structure Window where
  start : Nat
  stop : Nat
  deriving DecidableEq, Repr

namespace Window

/-- The window of a request that names none. -/
def standard : Window := ⟨0, 99⟩

def toForm (w : Window) : Form := [("start", Text.decimal w.start), ("end", Text.decimal w.stop)]

def ofForm? (f : Form) : Option Window := do
  let start ← f.read? "start" (Text.readNat Text.maxWord)
  let stop ← f.read? "end" (Text.readNat Text.maxWord)
  return ⟨start.getD standard.start, stop.getD standard.stop⟩

end Window

/-- The pair of a name and its value, where there is one. -/
def Form.entry (name : String) (value : Option String) : Form :=
  (value.map fun v => (name, v)).toList

namespace JobParams

def toForm (p : JobParams) : Form :=
  Form.entry "account_id" p.accountId ++ Form.entry "category" p.category ++
    Form.entry "names" p.names ++ Form.entry "run_status" (p.run.map RunStatus.name) ++
    Form.entry "exit_status" (p.exit.map ExitStatus.name)

def ofForm? (f : Form) : Option JobParams := do
  return ⟨← f.read? "account_id" some, ← f.read? "category" some, ← f.read? "names" some,
    ← f.read? "run_status" fun s => RunStatus.names.lookup s,
    ← f.read? "exit_status" fun s => ExitStatus.names.lookup s⟩

end JobParams

namespace RunnerParams

def toForm (p : RunnerParams) : Form :=
  Form.entry "category" p.category ++ Form.entry "name" p.name ++
    Form.entry "status" (p.status.map RunnerStatus.name)

def ofForm? (f : Form) : Option RunnerParams := do
  return ⟨← f.read? "category" some, ← f.read? "name" some,
    ← f.read? "status" fun s => RunnerStatus.names.lookup s⟩

end RunnerParams

end JobDispatch

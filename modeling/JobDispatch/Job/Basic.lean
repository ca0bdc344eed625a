import JobDispatch.Entity
import JobDispatch.Time.Instant

/-!
Jobs: what is to be run for whom, how far it got and what came of it.
-/

namespace JobDispatch

inductive RunStatus where
  | pending
  | running
  | done
  deriving DecidableEq, Repr

inductive ExitStatus where
  | success
  | failure
  deriving DecidableEq, Repr

namespace RunStatus

def name : RunStatus → String
  | pending => "PENDING"
  | running => "RUNNING"
  | done => "DONE"

def names : List (String × RunStatus) :=
  [("PENDING", pending), ("RUNNING", running), ("DONE", done)]

/-- The status of a name in letters of either case; a text that is none is given back in upper
case. -/
def parse (s : String) : Except String RunStatus :=
  match names.lookup s.toUpper with
  | some r => .ok r
  | none => .error s.toUpper

/-- The step of a job's life that a status stands for. -/
def rank : RunStatus → Nat
  | pending => 0
  | running => 1
  | done => 2

theorem lookup_name (r : RunStatus) : names.lookup r.name = some r := by cases r <;> decide

end RunStatus

namespace ExitStatus

def name : ExitStatus → String
  | success => "SUCCESS"
  | failure => "FAILURE"

def names : List (String × ExitStatus) := [("SUCCESS", success), ("FAILURE", failure)]

def parse (s : String) : Except String ExitStatus :=
  match names.lookup s.toUpper with
  | some e => .ok e
  | none => .error s.toUpper

theorem lookup_name (e : ExitStatus) : names.lookup e.name = some e := by cases e <;> decide

end ExitStatus

/-- How far a job got; the exit status belongs to a job that is done. -/
structure JobStatus where
  run : Option RunStatus
  exit : Option ExitStatus
  deriving DecidableEq, Repr, Inhabited

namespace JobStatus

def pending : JobStatus := ⟨some .pending, none⟩

def running : JobStatus := ⟨some .running, none⟩

def done (exit : ExitStatus) : JobStatus := ⟨some .done, some exit⟩

end JobStatus

/-- When a job passed the steps of its life. -/
structure Processing where
  submitted : Option Time.Instant
  started : Option Time.Instant
  finished : Option Time.Instant
  deriving DecidableEq, Inhabited

structure JobValue where
  name : Option String
  category : Option String
  arguments : List String
  result : Option String
  status : JobStatus
  processing : Processing
  accountId : Option String
  deriving DecidableEq, Inhabited

abbrev Job := Entity JobValue

namespace JobValue

/-- A job of which nothing is known. -/
def blank : JobValue := ⟨none, none, [], none, ⟨none, none⟩, ⟨none, none, none⟩, none⟩

def withStatus (v : JobValue) (run : RunStatus) (exit : Option ExitStatus) : JobValue :=
  { v with status := ⟨some run, exit⟩ }

def withResult (v : JobValue) (result : String) : JobValue := { v with result := some result }

end JobValue

end JobDispatch

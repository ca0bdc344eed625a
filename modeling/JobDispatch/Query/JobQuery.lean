import JobDispatch.Job.Basic
import JobDispatch.Query.Filter
import JobDispatch.Text.Blank

/-!
Queries for jobs: lists of criteria that all have to hold, and the single criterion that a
request's parameters spell out.
-/

namespace JobDispatch

/-- One criterion; of several names one has to be the job's, and all parts have to hold. -/
structure JobCriteria where
  accountId : Option String
  category : Option String
  names : List String
  run : Option RunStatus
  exit : Option ExitStatus
  deriving DecidableEq, Repr, Inhabited

structure JobQuery where
  criteria : List JobCriteria
  deriving DecidableEq, Repr, Inhabited

/-- The fields of a job that filters see. -/
def JobValue.document (v : JobValue) : Document := fun path =>
  match path with
  | "name" => v.name.map .text
  | "category" => v.category.map .text
  | "accounting.account_id" => v.accountId.map .text
  | "status.run" => v.status.run.map fun s => .text s.name
  | "status.exit" => v.status.exit.map fun s => .text s.name
  | "processing.submitted" => v.processing.submitted.map .time
  | "processing.started" => v.processing.started.map .time
  | "processing.finished" => v.processing.finished.map .time
  | _ => none

namespace JobCriteria

def filter (c : JobCriteria) : Filter :=
  Filter.and <|
    (c.accountId.map (Filter.eq "accounting.account_id")).toList ++
    (c.category.map (Filter.eq "category")).toList ++
    (if c.names.isEmpty then [] else [Filter.oneOf "name" c.names]) ++
    (c.run.map fun s => Filter.eq "status.run" s.name).toList ++
    (c.exit.map fun s => Filter.eq "status.exit" s.name).toList

end JobCriteria

def JobQuery.filter (q : JobQuery) : Filter := Filter.and (q.criteria.map JobCriteria.filter)

/-- The criterion of a request; `names` is a list with commas. -/
structure JobParams where
  accountId : Option String
  category : Option String
  names : Option String
  run : Option RunStatus
  exit : Option ExitStatus
  deriving DecidableEq, Repr, Inhabited

/-- The texts between the commas of a list, without white space at their ends and without
those of which nothing is left. -/
def splitNames (s : String) : List String :=
  ((s.toList.splitOn ',').map fun p => Text.trim (String.ofList p)).filter (· != "")

/-- A list of texts with commas between them. -/
def joinNames (names : List String) : String := ",".intercalate names

namespace JobParams

def blank : JobParams := ⟨none, none, none, none, none⟩

/-- Asks for the given names; none of them leaves the name open. -/
def withNames (p : JobParams) (names : List String) : JobParams :=
  { p with names := if names.isEmpty then none else some (joinNames names) }

def query (p : JobParams) : JobQuery :=
  ⟨[⟨p.accountId, p.category, (p.names.map splitNames).getD [], p.run, p.exit⟩]⟩

end JobParams

end JobDispatch

import JobDispatch.Runner.Basic
import JobDispatch.Query.Filter

/-!
Queries for runners. A runner is asked for by a category and a name, and answers with the
patterns of its competencies.
-/

namespace JobDispatch

structure RunnerCriteria where
  category : Option String
  name : Option String
  status : Option RunnerStatus
  deriving DecidableEq, Repr, Inhabited

structure RunnerQuery where
  criteria : List RunnerCriteria
  deriving DecidableEq, Repr, Inhabited

/-- The fields of a runner that filters see. -/
def RunnerValue.document (v : RunnerValue) : Document := fun path =>
  match path with
  | "callback" => v.callback.map .text
  | "competencies.categories" => (v.competencies.bind Competencies.categories).map .texts
  | "competencies.names" => (v.competencies.bind Competencies.names).map .texts
  | "runtime.status" => v.status.map fun s => .text s.name
  | "runtime.created" => (v.runtime.bind Runtime.created).map .time
  | "runtime.last_ping" => v.lastPing.map .time
  | _ => none

def RunnerCriteria.filter (c : RunnerCriteria) : Filter :=
  Filter.and <|
    (c.category.map (Filter.matching "competencies.categories")).toList ++
    (c.name.map (Filter.matching "competencies.names")).toList ++
    (c.status.map fun s => Filter.eq "runtime.status" s.name).toList

def RunnerQuery.filter (q : RunnerQuery) : Filter :=
  Filter.and (q.criteria.map RunnerCriteria.filter)

/-- The criterion of a request. -/
structure RunnerParams where
  category : Option String
  name : Option String
  status : Option RunnerStatus
  deriving DecidableEq, Repr, Inhabited

def RunnerParams.blank : RunnerParams := ⟨none, none, none⟩

def RunnerParams.query (p : RunnerParams) : RunnerQuery := ⟨[⟨p.category, p.name, p.status⟩]⟩

end JobDispatch

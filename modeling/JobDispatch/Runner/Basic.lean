import JobDispatch.Entity
import JobDispatch.Time.Instant

/-!
Runners as the registry knows them: where they are reached, which jobs they are competent for,
and when they were last heard of.
-/

namespace JobDispatch

inductive RunnerStatus where
  | idle
  | running
  | disconnected
  deriving DecidableEq, Repr

namespace RunnerStatus

def name : RunnerStatus → String
  | idle => "IDLE"
  | running => "RUNNING"
  | disconnected => "DISCONNECTED"

def names : List (String × RunnerStatus) :=
  [("IDLE", idle), ("RUNNING", running), ("DISCONNECTED", disconnected)]

/-- The status of a name in letters of either case; a busy runner is a running one. -/
def parse (s : String) : Except String RunnerStatus :=
  match (("BUSY", running) :: names).lookup s.toUpper with
  | some r => .ok r
  | none => .error s.toUpper

theorem lookup_name (r : RunnerStatus) : names.lookup r.name = some r := by cases r <;> decide

end RunnerStatus

/-- Patterns of the categories and names of jobs that a runner takes. -/
structure Competencies where
  categories : Option (List String)
  names : Option (List String)
  deriving DecidableEq, Repr, Inhabited

structure Runtime where
  status : Option RunnerStatus
  created : Option Time.Instant
  lastPing : Option Time.Instant
  deriving DecidableEq, Inhabited

def Runtime.blank : Runtime := ⟨none, none, none⟩

/-- `timeToLive` is the number of seconds of silence after which a runner counts as gone. -/
structure RunnerValue where
  callback : Option String
  timeToLive : Option Int
  competencies : Option Competencies
  runtime : Option Runtime
  deriving DecidableEq, Inhabited

abbrev Runner := Entity RunnerValue

namespace RunnerValue

def blank : RunnerValue := ⟨none, none, none, none⟩

def status (v : RunnerValue) : Option RunnerStatus := v.runtime.bind Runtime.status

def lastPing (v : RunnerValue) : Option Time.Instant := v.runtime.bind Runtime.lastPing

def withStatus (v : RunnerValue) (status : RunnerStatus) : RunnerValue :=
  { v with runtime := some { v.runtime.getD .blank with status := some status } }

/-- The value of a runner that was heard of at an instant. -/
def pinged (v : RunnerValue) (status : RunnerStatus) (instant : Time.Instant) : RunnerValue :=
  { v with
    runtime := some { v.runtime.getD .blank with status := some status, lastPing := some instant } }

end RunnerValue

end JobDispatch

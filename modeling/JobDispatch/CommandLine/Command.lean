import JobDispatch.CommandLine.Grammar
import JobDispatch.Job.Request
import JobDispatch.Registry.Config
import JobDispatch.Registry.Listing

/-!
The commands that people give to the registry, and the grammar of their lines.
-/

namespace JobDispatch.CommandLine

inductive Command where
  | submit (req : CreateJob)
  | listJobs (params : JobParams) (window : Window)
  | getJob (id : String)
  | listRunners (params : RunnerParams)
  | getRunner (id : String)
  deriving DecidableEq, Repr

/-- A command with the registry it is for, and whether the answer is wanted as JSON. -/
structure Invocation where
  registryUrl : String
  json : Bool
  command : Command
  deriving DecidableEq, Repr

namespace Command

def json : Parameter := .flag "json"

def position (s : String) : Option Nat := Text.readNat Text.maxWord s

def runStatus (s : String) : Option RunStatus := (RunStatus.parse s).toOption

def exitStatus (s : String) : Option ExitStatus := (ExitStatus.parse s).toOption

def runnerStatus (s : String) : Option RunnerStatus := (RunnerStatus.parse s).toOption

def submitGrammar : Grammar Command :=
  .action
    [json, .needed "name", .needed "category", .needed "account",
      { Parameter.repeatable "arg" with hyphens := true }]
    none
    fun g => .submit ⟨g.value? "name", g.value? "category", g.value? "account", g.values "arg"⟩

def listJobsGrammar : Grammar Command :=
  .action
    [json, .option "account", .option "category", .repeatable "name",
      .reading "status" runStatus, .reading "exit" exitStatus,
      .reading "start" position, .reading "end" position]
    none
    fun g =>
      let params : JobParams := ⟨g.value? "account", g.value? "category", none,
        (g.value? "status").bind runStatus, (g.value? "exit").bind exitStatus⟩
      .listJobs (params.withNames (g.values "name"))
        ⟨((g.value? "start").bind position).getD Window.standard.start,
          ((g.value? "end").bind position).getD Window.standard.stop⟩

def getGrammar (build : String → Command) : Grammar Command :=
  .action [json] (some (.needed "id")) fun g => build ((g.value? "id").getD "")

def listRunnersGrammar : Grammar Command :=
  .action [json, .option "category", .option "name", .reading "status" runnerStatus] none
    fun g => .listRunners ⟨g.value? "category", g.value? "name",
      (g.value? "status").bind runnerStatus⟩

def grammar : Grammar Command :=
  .choice [.option "registry-url", json] [
    ("job", .choice [json] [("submit", submitGrammar), ("list", listJobsGrammar),
      ("get", getGrammar .getJob)]),
    ("runner", .choice [json] [("list", listRunnersGrammar), ("get", getGrammar .getRunner)])]

end Command

namespace Invocation

def registryUrlVariable : String := "CONVEYOR_REGISTRY_URL"

def standardUrl : String := "http://localhost:8080"

/-- Reads the words of a line; the environment may name another registry than the standard
one. -/
def read (env : Environment) (words : List String) : Except UsageError Invocation :=
  match Command.grammar.read words with
  | .ok (command, given) =>
    .ok ⟨((given.value? "registry-url").orElse fun _ => env registryUrlVariable).getD standardUrl,
      given.has "json", command⟩
  | .error .helpForNothing =>
    let atRoot := words.filter (· != "--") = []
    .error (if atRoot ∧ (env registryUrlVariable).isSome then .missingCommand else .helpForNothing)
  | .error e => .error e

end Invocation

end JobDispatch.CommandLine

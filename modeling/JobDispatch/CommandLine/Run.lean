import JobDispatch.Client.Basic
import JobDispatch.CommandLine.Command
import JobDispatch.CommandLine.Identifier
import JobDispatch.CommandLine.Report

/-!
Carrying out a command: the registry is asked, and the answer is shown.
-/

namespace JobDispatch.CommandLine

/-- Kinds of things that identities belong to. -/
inductive Kind where
  | job
  | runner
  deriving DecidableEq, Repr

def Kind.name : Kind → String
  | job => "job"
  | runner => "runner"

/-- Why a command fails. -/
inductive Failure where
  | call (context : Option String) (e : ClientError)
  /-- no identity begins like this -/
  | noMatch (kind : Kind) (start : String)
  | ambiguous (kind : Kind) (start : String) (ids : List String)
  deriving DecidableEq, Repr

namespace Failure

def isTransport : Failure → Bool
  | call _ e => e.isTransport
  | _ => false

/-- What was being done when it failed. -/
def context : Failure → List String
  | call c _ => c.toList
  | _ => []

/-- What failed. -/
def cause : Failure → String
  | call _ e => e.message
  | noMatch kind start => "No " ++ kind.name ++ " found with ID starting with '" ++ start ++ "'"
  | ambiguous kind start ids =>
    "Ambiguous prefix '" ++ start ++ "' matches multiple " ++ kind.name ++ "s: " ++
      ", ".intercalate ids

end Failure

/-- The window of the listing in which identities are looked for. -/
def resolutionWindow : Window := ⟨0, 999⟩

/-- The window in which runners are listed. -/
def runnerWindow : Window := Window.standard

/-- The identity, of those given, that begins in some way; there has to be exactly one. -/
def uniqueMatch (kind : Kind) (start : String) (ids : List String) : Except Failure String :=
  match ids.filter fun id => start.toList.isPrefixOf (Unicode.lower id).toList with
  | [] => .error (.noMatch kind start)
  | [id] => .ok id
  | many => .error (.ambiguous kind start many)

section

variable {m : Type → Type} [Monad m] (send : Http.Url → Http.Request → m Reply)

def ask {α : Type} (context : Option String) (c : Call α) : ExceptT Failure m α :=
  ExceptT.mk do return (← c.perform send).mapError (.call context)

/-- The identity of the job that people mean. -/
def resolveJob (c : Client) : Identifier → ExceptT Failure m String
  | .full id => return id
  | .leading start => do
    let page ← ask send (some "Failed to fetch jobs for ID resolution")
      (c.listJobs .blank resolutionWindow)
    ExceptT.mk (pure (uniqueMatch .job start (page.items.map Entity.id)))

/-- The identity of the runner that people mean. -/
def resolveRunner (c : Client) : Identifier → ExceptT Failure m String
  | .full id => return id
  | .leading start => do
    let page ← ask send (some "Failed to fetch runners for ID resolution")
      (c.listRunners .blank resolutionWindow)
    ExceptT.mk (pure (uniqueMatch .runner start (page.items.map Entity.id)))

/-- Shows a value as JSON or as a report. -/
def present {α : Type} [Wire α] (json : Bool) (report : α → List String) (a : α) : String :=
  "".intercalate ((if json then [(Wire.toJson a).pretty] else report a).map (· ++ "\n"))

/-- Carries out a command and gives what is shown. -/
def Invocation.run (b : Brush) (i : Invocation) : ExceptT Failure m String :=
  let c := Client.ofAddress i.registryUrl
  match i.command with
  | .submit req => do
    return present i.json (Report.submitted b)
      (← ask send (some "Failed to submit job") (c.launchJob req))
  | .listJobs p w => do
    return present i.json (Report.jobList b) (← ask send none (c.listJobs p w))
  | .getJob text => do
    let id ← resolveJob send c (.ofText text)
    return present i.json (Report.jobDetails b) (← ask send none (c.getJob id))
  | .listRunners p => do
    return present i.json (Report.runnerList b) (← ask send none (c.listRunners p runnerWindow))
  | .getRunner text => do
    let id ← resolveRunner send c (.ofText text)
    return present i.json (Report.runnerDetails b) (← ask send none (c.getRunner id))

end

end JobDispatch.CommandLine

import JobDispatch.CommandLine.Style
import JobDispatch.Job.Basic
import JobDispatch.Page
import JobDispatch.Runner.Basic
import JobDispatch.Text.Decimal
import JobDispatch.Time.Notation

/-!
Jobs and runners as they are shown to people, line by line.
-/

namespace JobDispatch.CommandLine.Report

open Text (decimal signedDecimal)

def orDash (s : Option String) : String := s.getD "-"

def time (t : Option Time.Instant) : String := orDash (t.map Time.Instant.toPlain)

def ofJobStatus (b : Brush) (s : JobStatus) : String :=
  match s.run, s.exit with
  | some .done, some .success => b .green "DONE (SUCCESS)"
  | some .done, some .failure => b .red "DONE (FAILURE)"
  | some .done, none => "DONE"
  | some .running, _ => b .cyan "RUNNING"
  | some .pending, _ => b .yellow "PENDING"
  | none, _ => b .dimmed "UNKNOWN"

def ofRunnerStatus (b : Brush) : Option RunnerStatus → String
  | some .idle => b .green RunnerStatus.idle.name
  | some .running => b .yellow RunnerStatus.running.name
  | some .disconnected => b .red RunnerStatus.disconnected.name
  | none => b .dimmed "UNKNOWN"

def jobSummary (b : Brush) (job : Job) : List String :=
  let v := job.value
  ["  " ++ b .cyan "▸" ++ " Job " ++ b .dimmed job.id,
    "    Name:      " ++ orDash v.name ++ " (" ++ orDash v.category ++ ")",
    "    Account:   " ++ orDash v.accountId,
    "    Status:    " ++ ofJobStatus b v.status,
    "    Submitted: " ++ b .dimmed (time v.processing.submitted),
    ""]

/-- How long a job ran, in whole seconds. -/
def duration (p : Processing) : List String :=
  match p.started, p.finished with
  | some started, some finished =>
    ["  Duration:   " ++ signedDecimal (finished.secondsSince started) ++ "s"]
  | _, _ => []

def arguments (b : Brush) (args : List String) : List String :=
  if args.isEmpty then [] else ["", b .bold "Arguments:", "  " ++ " ".intercalate args]

def result (b : Brush) (v : JobValue) : List String :=
  match v.result with
  | none => []
  | some r =>
    ["", b .bold "Result:", if v.status.exit = some .failure then b .red r else r]

def jobDetails (b : Brush) (job : Job) : List String :=
  let v := job.value
  [b .bold "Job Details:",
    "  ID:         " ++ b .cyan job.id,
    "  Version:    " ++ decimal job.version,
    "  Name:       " ++ orDash v.name,
    "  Category:   " ++ orDash v.category,
    "  Account:    " ++ orDash v.accountId,
    "  Status:     " ++ ofJobStatus b v.status,
    "  Submitted:  " ++ time v.processing.submitted,
    "  Started:    " ++ time v.processing.started,
    "  Finished:   " ++ time v.processing.finished] ++
    duration v.processing ++ arguments b v.arguments ++ result b v

def submitted (b : Brush) (job : Job) : List String :=
  (b .green "✓" ++ " Submitted job " ++ b .cyan job.id) :: jobDetails b job

def jobList (b : Brush) (page : Page Job) : List String :=
  if page.isEmpty then [b .yellow "No jobs found."]
  else
    b .bold ("Showing " ++ decimal page.start ++ "-" ++ decimal page.stop ++ " of " ++
      decimal page.total ++ " job(s):") :: "" :: page.items.flatMap (jobSummary b)

def runnerSummary (b : Brush) (runner : Runner) : List String :=
  let v := runner.value
  let ttl := v.timeToLive.map fun n => signedDecimal n ++ "s"
  ["  " ++ b .cyan "▸" ++ " Runner " ++ b .bold runner.id,
    "    Status:       " ++ ofRunnerStatus b v.status,
    "    Callback:     " ++ orDash v.callback,
    "    Time to live: " ++ orDash ttl,
    "    Registered:   " ++ b .dimmed (time (v.runtime.bind Runtime.created)),
    "    Last Seen:    " ++ b .dimmed (time v.lastPing),
    ""]

def competencies (b : Brush) (c : Competencies) : List String :=
  [b .bold "Competencies:",
    "  Categories: " ++ ", ".intercalate (c.categories.getD []),
    "  Names:      " ++ ", ".intercalate (c.names.getD [])]

def runnerDetails (b : Brush) (runner : Runner) : List String :=
  runnerSummary b runner ++ (runner.value.competencies.map (competencies b)).getD []

def runnerList (b : Brush) (page : Page Runner) : List String :=
  if page.isEmpty then [b .yellow "No runners registered."]
  else
    b .bold ("Found " ++ decimal page.total ++ " registered runner(s):") :: "" ::
      page.items.flatMap (runnerSummary b)

end JobDispatch.CommandLine.Report

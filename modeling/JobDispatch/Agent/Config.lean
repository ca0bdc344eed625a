import JobDispatch.Query.JobQuery
import JobDispatch.Registry.Config
import JobDispatch.Runner.Request

/-!
The configuration of a runner, which comes from environment variables: which registry it works
for, which jobs it takes, and how it goes about them.
-/

namespace JobDispatch

open Time (Span)

structure RunnerConfig where
  registryUrl : String
  callback : String
  accountId : String
  category : String
  jobNames : List String
  /-- the seconds of silence after which the registry gives the runner up -/
  timeToLive : Int
  workerCount : Nat
  pollInterval : Span
  heartbeatInterval : Span
  /-- how many candidates are looked at for one reservation -/
  candidateWindow : Nat
  updateMaxAttempts : Nat
  updateRetryDelay : Span
  workerWaitTimeout : Span
  shutdownTimeout : Span
  deriving DecidableEq, Repr

namespace RunnerConfig

/-- The callback of a runner that is given none, from a fresh identity. -/
def generatedCallback (identity : String) : String := "conveyor-runner-" ++ identity

/-- The configuration of a runner of which only the most necessary is known. -/
def ofBasics (callback registryUrl accountId category : String) (jobNames : List String) :
    RunnerConfig where
  registryUrl := registryUrl
  callback := callback
  accountId := accountId
  category := category
  jobNames := jobNames
  timeToLive := 60
  workerCount := 2
  pollInterval := .ofSeconds 5
  heartbeatInterval := .ofSeconds 20
  candidateWindow := 10
  updateMaxAttempts := 5
  updateRetryDelay := .ofMillis 2000
  workerWaitTimeout := .ofMillis 500
  shutdownTimeout := .ofSeconds 30

def standard (callback : String) : RunnerConfig :=
  ofBasics callback "http://localhost:8080" "default" "default" ["default"]

/-- Why an environment makes no configuration. -/
inductive Gap where
  | notSet (key : String)
  | invalid (key raw : String)
  deriving DecidableEq, Repr

def Gap.message : Gap → String
  | notSet key => key ++ " environment variable not set"
  | invalid key raw => key ++ " has an invalid value: '" ++ raw ++ "'"

def required (env : Environment) (key : String) : Except Gap String :=
  match env key with
  | some raw => .ok raw
  | none => .error (.notSet key)

/-- The value of a variable, read by `read` without the blanks around it, or `standard` where it
is not set. -/
def parsed {α : Type} (env : Environment) (key : String) (read : String → Option α)
    (standard : α) : Except Gap α :=
  match env key with
  | none => .ok standard
  | some raw =>
    match read (Text.trim raw) with
    | some a => .ok a
    | none => .error (.invalid key raw)

def count : String → Option Nat := Text.readNat Text.maxWord

def seconds (s : String) : Option Span := (count s).map .ofSeconds

def millis (s : String) : Option Span := (count s).map .ofMillis

/-- The configuration of an environment; `callback` is used where it names none. -/
def ofEnvironment (callback : String) (env : Environment) : Except Gap RunnerConfig := do
  let registryUrl ← required env "REGISTRY_URL"
  let accountId ← required env "RUNNER_ACCOUNT_ID"
  let category ← required env "RUNNER_CATEGORY"
  let jobNames ← required env "RUNNER_JOB_NAMES"
  let c := ofBasics ((env "RUNNER_CALLBACK").getD callback) registryUrl accountId category
    (splitNames jobNames)
  return { c with
    timeToLive :=
      ← parsed env "RUNNER_TTL" (Text.readInt Text.minSigned Text.maxSigned) c.timeToLive
    workerCount := ← parsed env "WORKER_COUNT" count c.workerCount
    pollInterval := ← parsed env "POLL_INTERVAL" seconds c.pollInterval
    heartbeatInterval := ← parsed env "HEARTBEAT_INTERVAL" seconds c.heartbeatInterval
    candidateWindow := ← parsed env "CANDIDATE_WINDOW" count c.candidateWindow
    updateMaxAttempts :=
      ← parsed env "UPDATE_MAX_ATTEMPTS" (Text.readNat Text.maxHalfWord) c.updateMaxAttempts
    updateRetryDelay := ← parsed env "UPDATE_RETRY_DELAY" millis c.updateRetryDelay
    workerWaitTimeout := ← parsed env "WORKER_WAIT_TIMEOUT" millis c.workerWaitTimeout
    shutdownTimeout := ← parsed env "SHUTDOWN_TIMEOUT" seconds c.shutdownTimeout }

inductive Flaw where
  | noRegistryUrl
  | noHttpUrl
  | noCallback
  | noAccountId
  | noCategory
  | noJobNames
  /-- the named quantity is not above zero -/
  | notPositive (name : String)
  deriving DecidableEq, Repr

def Flaw.message : Flaw → String
  | noRegistryUrl => "registry_url cannot be empty"
  | noHttpUrl => "registry_url must start with http:// or https://"
  | noCallback => "callback cannot be empty"
  | noAccountId => "account_id cannot be empty"
  | noCategory => "category cannot be empty"
  | noJobNames => "job_names must name at least one job"
  | notPositive name => name ++ " must be greater than 0"

def hasHttpUrl (c : RunnerConfig) : Bool :=
  "http://".toList.isPrefixOf c.registryUrl.toList ||
    "https://".toList.isPrefixOf c.registryUrl.toList

def zero : Span := ⟨0, 0⟩

/-- The first thing that is wrong with a configuration. -/
def flaw (c : RunnerConfig) : Option Flaw :=
  if c.registryUrl = "" then some .noRegistryUrl
  else if !c.hasHttpUrl then some .noHttpUrl
  else if c.callback = "" then some .noCallback
  else if c.accountId = "" then some .noAccountId
  else if c.category = "" then some .noCategory
  else if c.jobNames = [] then some .noJobNames
  else if c.timeToLive ≤ 0 then some (.notPositive "time_to_live")
  else if c.workerCount = 0 then some (.notPositive "worker_count")
  else if c.pollInterval = zero then some (.notPositive "poll_interval")
  else if c.heartbeatInterval = zero then some (.notPositive "heartbeat_interval")
  else if c.candidateWindow = 0 then some (.notPositive "candidate_window")
  else if c.updateMaxAttempts = 0 then some (.notPositive "update_max_attempts")
  else if c.workerWaitTimeout = zero then some (.notPositive "worker_wait_timeout")
  else none

/-- How a runner of a configuration registers: it is competent for its category and for the
names of its jobs. -/
def registration (c : RunnerConfig) : RegisterRunner :=
  ⟨some c.callback, some c.timeToLive, some ⟨some [c.category], some c.jobNames⟩⟩

end RunnerConfig

end JobDispatch

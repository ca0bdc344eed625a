import JobDispatch.Text.Decimal
import JobDispatch.Time.Instant

/-!
The registry's configuration, which comes from environment variables.
-/

namespace JobDispatch

/-- The variables of an environment. -/
abbrev Environment := String → Option String

structure RegistryConfig where
  bindAddress : String
  cleanupInterval : Time.Span
  jobRetention : Time.Span
  runnerRetention : Time.Span
  deriving DecidableEq, Repr

namespace RegistryConfig

def standard : RegistryConfig := ⟨"0.0.0.0:8080", .ofSeconds 60, .ofSeconds 86400, .ofSeconds 3600⟩

/-- A variable whose value is no number of seconds. -/
structure BadSeconds where
  key : String
  value : String
  deriving DecidableEq, Repr

def BadSeconds.message (e : BadSeconds) : String :=
  e.key ++ " must be a number of seconds, got '" ++ e.value ++ "'"

/-- The seconds of a variable, or the standard ones where it is not set. -/
def seconds (env : Environment) (name : String) (standard : Time.Span) :
    Except BadSeconds Time.Span :=
  match env name with
  | none => .ok standard
  | some raw =>
    match Text.readNat Text.maxWord raw with
    | some n => .ok (.ofSeconds n)
    | none => .error ⟨name, raw⟩

def ofEnvironment (env : Environment) : Except BadSeconds RegistryConfig := do
  return ⟨(env "REGISTRY_BIND_ADDR").getD standard.bindAddress,
    ← seconds env "CLEANUP_INTERVAL" standard.cleanupInterval,
    ← seconds env "JOB_RETENTION" standard.jobRetention,
    ← seconds env "RUNNER_RETENTION" standard.runnerRetention⟩

inductive Flaw where
  | noBindAddress
  | noCleanupInterval
  deriving DecidableEq, Repr

def Flaw.message : Flaw → String
  | noBindAddress => "bind_addr cannot be empty"
  | noCleanupInterval => "cleanup_interval must be greater than 0"

/-- The first thing that is wrong with a configuration. -/
def flaw (c : RegistryConfig) : Option Flaw :=
  if c.bindAddress = "" then some .noBindAddress
  else if c.cleanupInterval = ⟨0, 0⟩ then some .noCleanupInterval
  else none

end RegistryConfig

end JobDispatch

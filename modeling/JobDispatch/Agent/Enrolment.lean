import JobDispatch.Client.Error
import JobDispatch.Runner.Request
import JobDispatch.Time.Instant

/-!
Enrolment: a runner registers, again and again with growing pauses as long as nobody answers.
-/

namespace JobDispatch

inductive EnrolmentError where
  | refused (e : RegistryError)
  | gaveUp (e : RegistryError)
  deriving DecidableEq, Repr

def EnrolmentError.message : EnrolmentError → String
  | refused e => "Registry refused registration: " ++ e.message
  | gaveUp e => "Failed to register with registry: " ++ e.message

namespace Enrolment

def maxAttempts : Nat := 10

/-- The first pause, in milliseconds. -/
def firstPause : Nat := 500

def longestPause : Nat := 30000

/-- The pause after another one. -/
def nextPause (pause : Nat) : Nat := min (pause * 2) longestPause

variable {m : Type → Type} [Monad m] (register : m (Except RegistryError String))
  (sleep : Time.Span → m Unit)

/-- Registers with up to `left` more attempts after this one. -/
def runFrom : Nat → Nat → m (Except EnrolmentError String)
  | left, pause => do
    match ← register with
    | .ok id => return .ok id
    | .error e =>
      if !e.isTransient then return .error (.refused e)
      else match left with
        | 0 => return .error (.gaveUp e)
        | left + 1 =>
          sleep (.ofMillis pause)
          runFrom left (nextPause pause)

/-- Registers, and gives the identity that the registry assigned. -/
def run : m (Except EnrolmentError String) := runFrom register sleep (maxAttempts - 1) firstPause

end Enrolment

end JobDispatch

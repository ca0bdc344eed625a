import JobDispatch.Agent.Desk
import JobDispatch.Agent.Watch

/-!
The loop of a runner: it polls at every tick until it is told to shut down, and stops at once when
a report turned fatal. Of several things that are ready the fatal reports come first and the tick
comes last.
-/

namespace JobDispatch

/-- The runner stops because of a report. -/
structure Diverged where
  fatal : FatalError
  deriving DecidableEq, Repr

def Diverged.message (_ : Diverged) : String :=
  "Runner stopped: job state diverged from the registry"

inductive SupervisionAt where
  | selecting
  | polling
  | returned (r : Except Diverged Unit)

structure Supervision where
  /-- the reports that turned fatal and were not looked at yet -/
  fatals : List FatalError
  shutdown : Watch
  /-- the ticks that are due -/
  ticks : Nat
  at_ : SupervisionAt

/-- What happens around the loop. -/
inductive SupervisionEvent where
  | raised (e : FatalError)
  | signalled (value : Bool)
  | abandoned
  | ticked
  /-- the poll at hand came to an end -/
  | polled (r : Except FatalError Nat)

namespace Supervision

/-- The loop at its beginning, with its first tick due. -/
def start (fatals : List FatalError) (shutdown : Watch) : Supervision :=
  ⟨fatals, shutdown, 1, .selecting⟩

/-- Takes in what happens. -/
def hear (s : Supervision) : SupervisionEvent → Supervision
  | .raised e => { s with fatals := s.fatals ++ [e] }
  | .signalled value => { s with shutdown := s.shutdown.signal value }
  | .abandoned => { s with shutdown := s.shutdown.abandon }
  | .ticked => { s with ticks := s.ticks + 1 }
  | .polled r =>
    match s.at_ with
    | .polling =>
      match r with
      | .ok _ => { s with at_ := .selecting }
      | .error e => { s with at_ := .returned (.error ⟨e⟩) }
    | _ => s

/-- The next step of the loop, if something is ready for it. -/
def step (s : Supervision) : Option Supervision :=
  match s.at_ with
  | .selecting =>
    match s.fatals with
    | e :: rest => some { s with fatals := rest, at_ := .returned (.error ⟨e⟩) }
    | [] =>
      match s.shutdown.changed? with
      | some (true, shutdown) => some { s with shutdown, at_ := .returned (.ok ()) }
      | some (false, shutdown) => some { s with shutdown }
      | none =>
        match s.ticks with
        | 0 => none
        | ticks + 1 => some { s with ticks, at_ := .polling }
  | _ => none

/-- The first report that turned fatal after the loop ended, and those behind it. -/
def lateFatal : List FatalError → Except Diverged Unit × List FatalError
  | [] => (.ok (), [])
  | e :: rest => (.error ⟨e⟩, rest)

end Supervision

end JobDispatch

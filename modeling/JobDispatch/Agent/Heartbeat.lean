import JobDispatch.Agent.Watch
import JobDispatch.Runner.Basic

/-!
The heartbeat of a runner: its status is pushed to the registry at intervals, and at once when the
pool becomes full or accepts again. Instants are counted in milliseconds.
-/

namespace JobDispatch

/-- How far the task of a heartbeat is. A beat reads the status, notes it and pushes it. -/
inductive HeartbeatAt where
  | asleep (until_ : Nat)
  | reading
  | noting (status : RunnerStatus)
  | pushing (status : RunnerStatus)
  | ended
  deriving DecidableEq, Repr

structure Heartbeat where
  interval : Nat
  lastKnown : Option RunnerStatus
  /-- whether a wake is pending; more than one at a time is never kept -/
  wake : Bool
  shutdown : Watch
  /-- absent before the task is started -/
  task : Option HeartbeatAt
  deriving DecidableEq, Repr

namespace Heartbeat

def ofInterval (ms : Nat) : Heartbeat := ⟨ms, none, false, .quiet, none⟩

def spawn (h : Heartbeat) (now : Nat) : Heartbeat :=
  { h with task := some (.asleep (now + h.interval)) }

def hasEnded (h : Heartbeat) : Bool := h.task == some .ended

/-- Hears that the pool has a status now; one that is known already wakes nobody. -/
def edge (h : Heartbeat) (status : RunnerStatus) : Heartbeat :=
  if h.lastKnown = some status then h else { h with lastKnown := some status, wake := true }

/-- What can end a sleep. -/
inductive Cause where
  | shutdown
  | wake
  | timer
  deriving DecidableEq, Repr

/-- Ends a sleep for a cause, if there is that cause. A signal that does not tell to stop begins
the sleep anew. -/
def rouse (h : Heartbeat) (now : Nat) (cause : Cause) : Option Heartbeat :=
  match h.task with
  | some (.asleep until_) =>
    match cause with
    | .shutdown =>
      match h.shutdown.changed? with
      | none => none
      | some (stop, shutdown) =>
        some { h with shutdown, task := some (if stop then .ended else .asleep (now + h.interval)) }
    | .wake => if h.wake then some { h with wake := false, task := some .reading } else none
    | .timer => if until_ ≤ now then some { h with task := some .reading } else none
  | _ => none

/-- The next step of a beat, with the status that the runner has now; the last step pushes. -/
def beatStep (h : Heartbeat) (now : Nat) (current : RunnerStatus) :
    Option (Heartbeat × Option RunnerStatus) :=
  match h.task with
  | some .reading => some ({ h with task := some (.noting current) }, none)
  | some (.noting status) =>
    some ({ h with lastKnown := some status, task := some (.pushing status) }, none)
  | some (.pushing status) =>
    some ({ h with task := some (.asleep (now + h.interval)) }, some status)
  | _ => none

/-- A whole beat, with nothing mixed in. -/
def beat (h : Heartbeat) (now : Nat) (current : RunnerStatus) :
    Nat → Heartbeat × List RunnerStatus
  | 0 => (h, [])
  | steps + 1 =>
    match h.beatStep now current with
    | none => (h, [])
    | some (h, pushed) =>
      let (h, more) := h.beat now current steps
      (h, pushed.toList ++ more)

/-- The number of steps of a beat. -/
def beatSteps : Nat := 3

/-- Lets the task go on at an instant until it sleeps with no cause to wake; gives what was
pushed. -/
def goOn (now : Nat) (current : RunnerStatus) :
    List Cause → Heartbeat → Heartbeat × List RunnerStatus
  | [], h => (h, [])
  | c :: cs, h =>
    match h.rouse now c with
    | none => goOn now current cs h
    | some h =>
      let (h, pushed) := h.beat now current beatSteps
      let (h, more) := goOn now current cs h
      (h, pushed ++ more)

def settle (now : Nat) (current : RunnerStatus) (h : Heartbeat) : Heartbeat × List RunnerStatus :=
  goOn now current [.shutdown, .wake, .timer] h

/-- The instant at which the task wakes by itself. -/
def due? (h : Heartbeat) : Option Nat :=
  match h.task with
  | some (.asleep until_) => some until_
  | _ => none

/-- Lets time pass up to an instant, with room for so many beats; gives what was pushed and
when. -/
def pass (h : Heartbeat) (target : Nat) (current : RunnerStatus) :
    Nat → Heartbeat × List (Nat × RunnerStatus)
  | 0 => (h, [])
  | room + 1 =>
    match h.due? with
    | none => (h, [])
    | some now =>
      if target < now then (h, [])
      else
        let (h, pushed) := settle now current h
        let (h, more) := h.pass target current room
        (h, pushed.map (now, ·) ++ more)

/-- Lets a time pass from an instant on. A beat takes at least a millisecond of it. -/
def advance (now ms : Nat) (current : RunnerStatus) (h : Heartbeat) :
    Heartbeat × List (Nat × RunnerStatus) :=
  h.pass (now + ms) current (ms + 1)

end Heartbeat

end JobDispatch

import JobDispatch.Agent.Locks
import JobDispatch.Agent.Meter
import JobDispatch.Agent.Worker
import JobDispatch.Job.Basic

/-!
Pools of workers that process jobs, each job under a lock. Threads give jobs to a pool, work for
it, start it and stop it; their steps touch the pool one at a time and can be mixed in every way.
-/

namespace JobDispatch

inductive PoolError where
  | lockFailed (e : LockError)
  | busy
  | notRunning
  | noThread (cause : String)
  deriving DecidableEq, Repr

def PoolError.message : PoolError → String
  | lockFailed e => "locking failed: " ++ e.message
  | busy => "pool busy"
  | notRunning => "pool is not running"
  | noThread cause => "failed to spawn worker thread: " ++ cause

/-- What happens at a pool, as others see it. -/
inductive PoolEvent where
  | locked (id : String)
  | lockFailed (e : LockError)
  | released (id : String)
  | releaseFailed (e : LockError)
  /-- the worker of an index begins to process a submission -/
  | begun (worker : Nat) (s : Submission Job)
  | told (listener : String) (status : PoolStatus)
  deriving DecidableEq

structure Pool where
  workers : List (Worker Job)
  idle : IdleMeter
  busy : BusyMeter
  locks : Locks
  running : Bool
  stopped : Bool
  listeners : List String
  /-- the threads that were started for the pool and not collected by a stop -/
  handles : List Nat
  /-- whether a start is at work on the handles -/
  held : Bool
  deriving DecidableEq

/-- What a thread owes before it goes on: each is a step of its own. -/
inductive Duty where
  | release (id : String)
  | lessIdle
  | moreIdle
  | moreBusy
  | lessBusy
  | tell (listener : String) (status : PoolStatus)
  deriving DecidableEq, Repr

/-- How far a thread is with giving a job to the pool. -/
inductive Giving where
  | entering
  | locking
  | offering (worker : Nat) (s : Submitter Job)
  | returned (r : Except PoolError Unit)

inductive Starting where
  | checking
  | claiming
  | opening
  | spawning (worker : Nat)
  | returned (r : Except PoolError Unit)

/-- How far a thread is with stopping the pool; the result tells whether all threads ended. -/
inductive Stopping where
  | claiming
  | marking
  | telling (worker : Nat)
  | collecting
  | joining (threads : List Nat)
  | returned (all : Bool)

inductive Role where
  | give (s : Submission Job) (at_ : Giving)
  | work (worker : Nat) (at_ : WorkerAt Job)
  | start (at_ : Starting)
  | stop (at_ : Stopping)

structure Thread where
  duties : List Duty
  role : Role

/-- A pool and the threads around it, each known by its position. -/
structure Scene where
  pool : Pool
  threads : List Thread

/-- What comes of a thread's step: the pool, the thread, and the threads it starts. -/
structure Progressed where
  pool : Pool
  thread : Thread
  started : List Thread
  events : List PoolEvent

namespace Pool

def ofSize (n : Nat) : Pool where
  workers := List.replicate n .ready
  idle := .ofSize n
  busy := .ofSize n
  locks := .empty
  running := false
  stopped := false
  listeners := []
  handles := []
  held := false

def size (p : Pool) : Nat := p.workers.length

def status (p : Pool) : PoolStatus := p.busy.status

def hasIdleWorker (p : Pool) : Bool := p.workers.any Worker.isIdle

def setSlot (p : Pool) (i : Nat) (slot : Slot (Submission Job)) : Pool :=
  { p with workers := p.workers.modify i fun w => { w with slot } }

/-- Takes a lock, as others see it. -/
def lock (p : Pool) (id : String) : Except LockError Pool × List PoolEvent :=
  match p.locks.lock id with
  | .ok locks => (.ok { p with locks }, [.locked id])
  | .error e => (.error e, [.lockFailed e])

/-- Gives a lock back, as others see it. -/
def release (p : Pool) (id : String) : Except LockError Pool × List PoolEvent :=
  match p.locks.release id with
  | .ok locks => (.ok { p with locks }, [.released id])
  | .error e => (.error e, [.releaseFailed e])

/-- Gives a lock back, or leaves the locks as they are where it is not held. -/
def releaseOrKeep (p : Pool) (id : String) : Pool × List PoolEvent :=
  let (r, events) := p.release id
  (r.toOption.getD p, events)

/-- The listeners that have to be told of a new status, if there is one. -/
def duties (p : Pool) (status : Option PoolStatus) : List Duty :=
  match status with
  | none => []
  | some status => p.listeners.map fun l => .tell l status

end Pool

/-- Does what a thread owes; more may come of it. -/
def Duty.perform (p : Pool) : Duty → Pool × List Duty × List PoolEvent
  | release id =>
    let (p, events) := p.releaseOrKeep id
    (p, [], events)
  | lessIdle => ({ p with idle := p.idle.less.1 }, [], [])
  | moreIdle => ({ p with idle := p.idle.more.1 }, [], [])
  | moreBusy =>
    let (busy, status) := p.busy.more
    ({ p with busy }, p.duties status, [])
  | lessBusy =>
    let (busy, status) := p.busy.less
    ({ p with busy }, p.duties status, [])
  | tell listener status => (p, [], [.told listener status])

/-- What a thread owes after it reserved a slot. -/
def Duty.afterReserving : List Duty := [lessIdle, moreBusy]

/-- What a thread owes after it gave a slot back. -/
def Duty.afterFreeing : List Duty := [moreIdle, lessBusy]

namespace Giving

/-- The next step of giving a job to the pool: it is locked and offered to one worker after the
other; if all are busy the lock is given back. -/
def step (p : Pool) (s : Submission Job) :
    Giving → Option (Pool × Giving × List Duty × List PoolEvent)
  | entering => some (p, if p.running then locking else returned (.error .notRunning), [], [])
  | locking =>
    match p.lock s.item.id with
    | (.ok p, events) => some (p, offering 0 (.reserving s), [], events)
    | (.error e, events) => some (p, returned (.error (.lockFailed e)), [], events)
  | offering i sub =>
    match p.workers[i]? with
    | none =>
      let (p, events) := p.releaseOrKeep s.item.id
      some (p, returned (.error .busy), [], events)
    | some w =>
      match sub.step w.slot with
      | none => none
      | some (slot, sub) =>
        let p := p.setSlot i slot
        match sub with
        | .accepted => some (p, returned (.ok ()), [], [])
        | .refused _ => some (p, offering (i + 1) (.reserving s), [], [])
        | sub => some (p, offering i sub, Duty.afterReserving, [])
  | returned _ => none

end Giving

/-- What a worker's thread owes when it leaves a place, and what others see of it: an item is
released when its processing ended, and a slot given back is counted. -/
def WorkerAt.leave (i : Nat) (slot : Slot (Submission Job)) :
    WorkerAt Job → WorkerAt Job → List Duty × List PoolEvent
  | .holding s _, _ => ([.release s.item.id], [])
  | .freeing _, _ => (if slot.status = .running then Duty.afterFreeing else [], [])
  | _, .holding s _ => ([], [.begun i s])
  | _, _ => ([], [])

namespace Starting

/-- The next step of starting the pool: one thread for each worker. -/
def step (p : Pool) (threads : Nat) (turn : Turn) :
    Starting → Option (Pool × Starting × List Thread)
  | checking => some (p, if p.stopped then returned (.error .notRunning) else claiming, [])
  | claiming =>
    if p.running then some (p, returned (.ok ()), [])
    else some ({ p with running := true }, opening, [])
  | opening => if p.held then none else some ({ p with held := true }, spawning 0, [])
  | spawning i =>
    if p.size ≤ i then some ({ p with held := false }, returned (.ok ()), [])
    else match turn with
      | .noThread cause => some ({ p with held := false }, returned (.error (.noThread cause)), [])
      | _ => some ({ p with handles := p.handles ++ [threads] }, spawning (i + 1),
          [⟨[], .work i .looking⟩])
  | returned _ => none

end Starting

def Thread.hasEnded (t : Thread) : Bool :=
  match t.role with
  | .work _ .ended => t.duties.isEmpty
  | _ => false

namespace Stopping

/-- The next step of stopping the pool: every worker is told, and their threads are waited for
until the time is over. -/
def step (p : Pool) (threads : List Thread) (turn : Turn) : Stopping → Option (Pool × Stopping)
  | claiming =>
    if p.running then some ({ p with running := false }, marking) else some (p, returned true)
  | marking => some ({ p with stopped := true }, telling 0)
  | telling i =>
    if p.size ≤ i then some (p, collecting)
    else some ({ p with workers := p.workers.modify i Worker.stop }, telling (i + 1))
  | collecting => if p.held then none else some ({ p with handles := [] }, joining p.handles)
  | joining ts =>
    if ts.all fun k => threads[k]?.any Thread.hasEnded then some (p, returned true)
    else if turn = .late then some (p, returned false)
    else none
  | returned _ => none

end Stopping

namespace Scene

/-- What a thread does when it owes nothing. -/
def act (s : Scene) (turn : Turn) : Role → Option Progressed
  | .give sub g =>
    (g.step s.pool sub).map fun (pool, g, duties, events) =>
      ⟨pool, ⟨duties, .give sub g⟩, [], events⟩
  | .work i w =>
    match s.pool.workers[i]? with
    | none => none
    | some worker =>
      (w.step worker.keepsOn worker.slot turn).map fun (slot, w') =>
        let (duties, events) := w.leave i worker.slot w'
        ⟨s.pool.setSlot i slot, ⟨duties, .work i w'⟩, [], events⟩
  | .start g =>
    (g.step s.pool s.threads.length turn).map fun (pool, g, started) =>
      ⟨pool, ⟨[], .start g⟩, started, []⟩
  | .stop g =>
    (g.step s.pool s.threads turn).map fun (pool, g) => ⟨pool, ⟨[], .stop g⟩, [], []⟩

/-- The next step of a thread, if it can make one. -/
def advance (s : Scene) (turn : Turn) (t : Thread) : Option Progressed :=
  match t.duties with
  | [] => s.act turn t.role
  | d :: ds =>
    let (pool, more, events) := d.perform s.pool
    some ⟨pool, { t with duties := more ++ ds }, [], events⟩

/-- A step of the thread at a position. -/
def step (s : Scene) (k : Nat) (turn : Turn) : Option (Scene × List PoolEvent) := do
  let p ← s.advance turn (← s.threads[k]?)
  return (⟨p.pool, s.threads.set k p.thread ++ p.started⟩, p.events)

end Scene

end JobDispatch

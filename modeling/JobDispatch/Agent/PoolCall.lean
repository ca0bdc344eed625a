import JobDispatch.Agent.Pool
import JobDispatch.Runner.Basic

/-!
Calls of a pool from beginning to end, with nothing mixed in. After each call all threads go on
until they wait for something.
-/

namespace JobDispatch

/-- A change of a scene that others see something of. -/
abbrev SceneM (α : Type) := StateM (Scene × List PoolEvent) α

namespace Scene

def ofSize (n : Nat) : Scene := ⟨.ofSize n, []⟩

/-- More steps than any thread makes at a stretch. -/
def patience (s : Scene) : Nat := 2 * s.pool.size + s.pool.listeners.length + 16

/-- Lets a thread make a step, if it can. -/
def stepWith (k : Nat) (turn : Turn) : SceneM Bool := fun (s, events) =>
  match s.step k turn with
  | none => (false, s, events)
  | some (s, more) => (true, s, events ++ more)

/-- Lets a thread make up to `n` steps. -/
def goOn (k : Nat) : Nat → SceneM Unit
  | 0 => return
  | n + 1 => do if ← stepWith k .go then goOn k n

/-- Lets a thread go on until it waits for something. -/
def run (k : Nat) : SceneM Unit := do goOn k (← get).1.patience

def runAll : List Nat → SceneM Unit
  | [] => return
  | k :: ks => do
    run k
    runAll ks

/-- Lets all threads go on until they wait for something. -/
def settle : SceneM Unit := do runAll (List.range (← get).1.threads.length)

/-- Adds a thread, lets it go on, and gives its position. -/
def enter (role : Role) : SceneM Nat := fun (s, events) =>
  let k := s.threads.length
  let (_, r) := run k (⟨s.pool, s.threads ++ [⟨[], role⟩]⟩, events)
  (k, r)

def roleOf (k : Nat) : SceneM (Option Role) := do return ((← get).1.threads[k]?).map Thread.role

/-- Gives a job to the pool. -/
def give (job : Job) (reason : String) : SceneM (Except PoolError Unit) := do
  let k ← enter (.give ⟨job, reason⟩ .entering)
  settle
  match ← roleOf k with
  | some (.give _ (.returned r)) => return r
  | _ => return .error .busy

def start : SceneM (Except PoolError Unit) := do
  let k ← enter (.start .checking)
  settle
  match ← roleOf k with
  | some (.start (.returned r)) => return r
  | _ => return .error .notRunning

/-- The time that the workers wait is over, once for each of them. -/
def wakeAll : List Nat → SceneM Unit
  | [] => return
  | k :: ks => do
    let _ ← stepWith k .late
    run k
    wakeAll ks

/-- Stops the pool and waits long enough for workers that process nothing. -/
def stop : SceneM Bool := do
  let k ← enter (.stop .claiming)
  wakeAll ((List.range (← get).1.threads.length).filter (· != k))
  run k
  let _ ← stepWith k .late
  match ← roleOf k with
  | some (.stop (.returned all)) => return all
  | _ => return false

/-- The thread that processes the job of an identity, and the job. -/
def holder? (s : Scene) (id : String) : Option (Nat × Job) :=
  s.threads.zipIdx.findSome? fun (t, k) =>
    match t.role with
    | .work _ (.holding sub _) => if sub.item.id = id then some (k, sub.item) else none
    | _ => none

/-- The processing of a job ends; false if nobody processes it. -/
def finish (id : String) (o : Outcome) : SceneM Bool := do
  match (← get).1.holder? id with
  | none => return false
  | some (k, _) =>
    let _ ← stepWith k (.processed o)
    run k
    return true

/-- Changes the pool without any thread. -/
def onPool {α : Type} (f : Pool → Except α Pool × List PoolEvent) : SceneM (Except α Unit) :=
  fun (s, events) =>
    match f s.pool with
    | (.ok pool, more) => (.ok (), { s with pool }, events ++ more)
    | (.error e, more) => (.error e, s, events ++ more)

def lock (id : String) : SceneM (Except LockError Unit) := onPool (·.lock id)

def release (id : String) : SceneM (Except LockError Unit) := onPool (·.release id)

/-- Adds a listener, which is told of every new status after those that were there before. -/
def listen (name : String) : SceneM Unit := fun (s, events) =>
  ((), { s with pool := { s.pool with listeners := s.pool.listeners ++ [name] } }, events)

end Scene

/-- The status that a runner with this pool reports. -/
def Pool.runnerStatus (p : Pool) : RunnerStatus :=
  match p.status with
  | .full => .running
  | .accepting => .idle

end JobDispatch

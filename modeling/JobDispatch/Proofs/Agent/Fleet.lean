import JobDispatch.Agent.Station
import JobDispatch.Proofs.Agent.Program
import JobDispatch.Proofs.Registry.Traffic

/-!
Fleets: any number of runners beside one registry that others launch jobs in. The steps of all of
them are mixed in every way. A request takes its time on the way to the registry, the answer takes
its time on the way back, and whoever waits for it can give it up at any time.
-/

namespace JobDispatch

/-- A runner: how it asks for jobs and reports them, and its pool. -/
structure Agent where
  rules : DeskRules
  scene : Scene

/-- A runner before it begins. -/
structure Outfit where
  rules : DeskRules
  workers : Nat
  listeners : List String

def Outfit.agent (o : Outfit) : Agent :=
  ⟨o.rules, { Pool.ofSize o.workers with listeners := o.listeners }, []⟩

/-- A program that is carried out for an agent: a poll, or what a thread of its pool does with a
job. -/
structure Fiber where
  agent : Nat
  thread : Option Nat
  program : Program (Option Outcome)
  /-- the call, or the thread that gives a job to the pool, whose end it waits for -/
  waits : Option Nat

structure Fleet where
  traffic : Traffic
  agents : List Agent
  fibers : List Fiber
  /-- the jobs whose processors ran, in the order of their beginning, each with its agent -/
  begun : List (Nat × Submission Job)

/-- What an answer depends on besides the fleet. -/
inductive Hint where
  | go
  /-- the request or its answer is given up -/
  | lost (e : RegistryError)
  | named (name : String)
  | processed (how : Processed)

inductive FleetEvent where
  | launches (now : Time.Instant) (req : CreateJob)
  | cleans (f : Filter)
  /-- the registry makes the next step of a call -/
  | serves (call : Nat)
  | polls (agent : Nat)
  | opens (agent : Nat)
  | closes (agent : Nat)
  /-- a thread of an agent's pool makes its next step -/
  | moves (agent thread : Nat) (turn : Turn)
  /-- a fiber asks what it has to ask; the instant is the one at which the registry acts on it -/
  | asks (fiber : Nat) (now : Time.Instant)
  /-- a fiber is answered and goes on -/
  | hears (fiber : Nat) (hint : Hint)

/-- The call of the registry that a question comes to. -/
def Ask.call? (now : Time.Instant) : Ask → Option JobCall
  | listing params (n + 1) => some (.search params.query 0 n)
  | patching id p => some (.patch now id p)
  | _ => none

def Ask.given? : Ask → Option Job
  | giving job => some job
  | _ => none

/-- A pool with one more thread. -/
def Agent.join (a : Agent) (role : Role) : Agent :=
  { a with scene := ⟨a.scene.pool, a.scene.threads ++ [⟨[], role⟩]⟩ }

def PoolEvent.begun? : PoolEvent → Option (Submission Job)
  | begun _ s => some s
  | _ => none

namespace Fleet

def start (outfits : List Outfit) : Fleet :=
  ⟨.start Registry.empty.jobs.store, outfits.map Outfit.agent, [], []⟩

/-- The reply to the call that a fiber waits for. -/
def reply (f : Fleet) (x : Fiber) : Option JobReply := do
  return (← f.traffic.entry (← x.waits)).2

/-- What a fiber can be answered now. -/
def answer (f : Fleet) (x : Fiber) (hint : Hint) : (q : Ask) → Option q.Answer
  | .listing _ 0 => some (.ok [])
  | .listing _ (_ + 1) =>
    match hint, f.reply x with
    | .lost e, _ => x.waits.map fun _ => .error e
    | _, some (.found r) => some ((r.mapError RegistryError.ofJob).map Page.items)
    | _, _ => none
  | .patching _ _ =>
    match hint, f.reply x with
    | .lost e, _ => x.waits.map fun _ => .error e
    | _, some (.patched r) => some (r.mapError RegistryError.ofJob)
    | _, _ => none
  | .sleeping _ => some ()
  | .naming =>
    match hint with
    | .named name => some name
    | _ => none
  | .raising _ => some ()
  | .looking => (f.agents[x.agent]?).map fun a => a.scene.pool.hasIdleWorker
  | .giving _ => do
    let a ← f.agents[x.agent]?
    match ← a.scene.threads[← x.waits]? with
    | ⟨[], .give _ (.returned r)⟩ => some r
    | _ => none
  | .processing _ =>
    match hint with
    | .processed how => if how.isDone then some how else none
    | _ => none

/-- A question goes to the registry, or a job to the pool. -/
def ask (f : Fleet) (n : Nat) (x : Fiber) (q : Ask) (now : Time.Instant) : Fleet :=
  match q.call? now, q.given?, f.agents[x.agent]? with
  | some c, _, _ =>
    { f with
      traffic := f.traffic.react (.enter c)
      fibers := f.fibers.set n { x with waits := some f.traffic.calls.length } }
  | none, some job, some a =>
    { f with
      agents := f.agents.set x.agent (a.join (.give ⟨job, "reserved"⟩ .entering))
      fibers := f.fibers.set n { x with waits := some a.scene.threads.length } }
  | _, _, _ => f

/-- What came of the last job that a thread of a pool handled, when it is done with it. -/
def outcome? (f : Fleet) (agent thread : Nat) : Option Outcome := do
  let x ← (f.fibers.filter fun x => x.agent == agent && x.thread == some thread).getLast?
  (← x.program.result?)

/-- Whether a thread of a pool can be given a turn. -/
def permits (f : Fleet) (agent thread : Nat) : Turn → Bool
  | .processed o => f.outcome? agent thread == some o
  | _ => true

/-- A pool goes on; where a worker begins to process a job, the job is handled. -/
def move (f : Fleet) (n : Nat) (a : Agent) (thread : Nat) (s : Scene) (events : List PoolEvent) :
    Fleet :=
  let jobs := events.filterMap PoolEvent.begun?
  { f with
    agents := f.agents.set n { a with scene := s }
    fibers := f.fibers ++
      jobs.map fun s => ⟨n, some thread, some <$> Program.handle a.rules s.item, none⟩
    begun := f.begun ++ jobs.map fun s => (n, s) }

/-- What an event makes of a fleet; an event that cannot happen changes nothing. -/
def react (f : Fleet) : FleetEvent → Fleet
  | .launches now req => { f with traffic := f.traffic.react (.enter (.launch now req)) }
  | .cleans filter => { f with traffic := f.traffic.react (.enter (.purge filter)) }
  | .serves i => { f with traffic := f.traffic.react (.advance i) }
  | .polls n =>
    match f.agents[n]? with
    | none => f
    | some a =>
      let poll := Program.poll a.rules a.scene.pool.size
      { f with fibers := f.fibers ++ [⟨n, none, (fun _ => none) <$> poll, none⟩] }
  | .opens n =>
    match f.agents[n]? with
    | none => f
    | some a => { f with agents := f.agents.set n (a.join (.start .checking)) }
  | .closes n =>
    match f.agents[n]? with
    | none => f
    | some a => { f with agents := f.agents.set n (a.join (.stop .claiming)) }
  | .moves n thread turn =>
    match f.agents[n]? with
    | none => f
    | some a =>
      match if f.permits n thread turn then a.scene.step thread turn else none with
      | none => f
      | some (s, events) => f.move n a thread s events
  | .asks n now =>
    match f.fibers[n]? with
    | none => f
    | some x =>
      match x.waits, x.program with
      | none, .asks q _ => f.ask n x q now
      | _, _ => f
  | .hears n hint =>
    match f.fibers[n]? with
    | none => f
    | some x =>
      match x.program with
      | .ends _ => f
      | .asks q next =>
        match f.answer x hint q with
        | none => f
        | some a => { f with fibers := f.fibers.set n { x with program := next a, waits := none } }

def run (outfits : List Outfit) (es : List FleetEvent) : Fleet := es.foldl react (start outfits)

end Fleet

end JobDispatch

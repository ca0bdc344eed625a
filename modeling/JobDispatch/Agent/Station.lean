import JobDispatch.Agent.Dispatch
import JobDispatch.Agent.PoolCall
import JobDispatch.Agent.Script
import JobDispatch.Agent.Supervision
import JobDispatch.Registry.Basic

/-!
A runner beside its registry: a pool, the desk on the registry's own jobs, and what goes wrong
between the two.
-/

namespace JobDispatch

/-- An error of the registry as a runner sees it. -/
def RegistryError.ofJob (e : JobError) : RegistryError :=
  match e with
  | .notFound _ => .rejected 404 e.message
  | .refused _ => .rejected 400 e.message
  | .versionConflict .. => .conflict e.message

/-- What happens at a station, as others see it. -/
inductive StationEvent where
  | listed
  | patched (id : String) (version : Nat) (run : Option RunStatus)
  | atPool (e : PoolEvent)
  deriving DecidableEq

structure Station where
  registry : Registry
  scene : Scene
  listPlan : CallPlan
  patchPlan : CallPlan
  /-- the reports that turned fatal and were not looked at yet -/
  fatals : List FatalError
  trace : List StationEvent

abbrev StationM := StateM Station

namespace Station

def ofSize (n : Nat) : Station := ⟨.empty, .ofSize n, [], [], [], []⟩

def note (e : StationEvent) : StationM Unit := modify fun s => { s with trace := s.trace ++ [e] }

/-- Does something at the pool. -/
def onScene {α : Type} (a : SceneM α) : StationM α := fun s =>
  let (b, scene, events) := a.run (s.scene, [])
  (b, { s with scene, trace := s.trace ++ events.map .atPool })

/-- Does something with the jobs of the registry. -/
def onJobs {ε β : Type} (a : Action (Repository JobValue) ε β) : StationM (Except ε β) := fun s =>
  let (b, registry) := (Registry.onJobs a).perform s.registry
  (b, { s with registry })

/-- Asks the registry, unless an error is planned. -/
def ask {β : Type} (planned : Option RegistryError) (a : JobAction β) :
    StationM (Except RegistryError β) :=
  match planned with
  | some e => return .error e
  | none => onJobs (Action.rephrase .ofJob a)

def nextListPlan : StationM (Option RegistryError) :=
  modifyGet fun s => (s.listPlan.head?.join, { s with listPlan := s.listPlan.tail })

def nextPatchPlan : StationM (Option RegistryError) :=
  modifyGet fun s => (s.patchPlan.head?.join, { s with patchPlan := s.patchPlan.tail })

def desk (now : Time.Instant) : Desk StationM where
  candidates p n := do
    note .listed
    let planned ← nextListPlan
    if n = 0 then return .ok []
    return (← ask planned (Jobs.search p.query 0 (n - 1))).map Page.items
  patch id p := do
    note (.patched id p.version (p.status.bind JobStatus.run))
    ask (← nextPatchPlan) (Jobs.patch now id p)
  sleep _ := return
  correlation := return ""
  raise e := modify fun s => { s with fatals := s.fatals ++ [e] }

variable (now : Time.Instant) (rules : DeskRules)

def poll : StationM (Except FatalError Nat) := do
  let d : Dispatch StationM := {
    size := (← get).scene.pool.size
    hasIdleWorker := return (← get).scene.pool.hasIdleWorker
    next := (desk now).nextJob rules
    give := fun job => onScene (Scene.give job "reserved")
    report := (desk now).report rules }
  d.poll

/-- The processor of a job ends, and what comes of it is reported; false if nobody processes the
job. -/
def conclude (id : String) (how : Job → Processed) : StationM Bool := do
  match (← get).scene.holder? id with
  | none => return false
  | some (_, job) =>
    let outcome ← (desk now).conclude rules job (how job)
    onScene (Scene.finish id outcome)

/-- Lets the loop go on for up to `n` steps; `during` is what happens while it polls. -/
def superviseFrom (during : List SupervisionEvent) : Nat → Supervision → StationM Supervision
  | 0, s => return s
  | n + 1, s => do
    match s.at_ with
    | .returned _ => return s
    | .polling =>
      let r ← poll now rules
      superviseFrom during n ((during.foldl Supervision.hear s).hear (.polled r))
    | .selecting =>
      match { s with fatals := (← get).fatals }.step with
      | none => return s
      | some s =>
        modify fun station => { station with fatals := s.fatals }
        superviseFrom during n s

/-- More steps than the loop makes before it waits for its second tick. -/
def firstSteps : Nat := 6

/-- Runs the loop; absent if it does not end before its second tick. -/
def supervise (shutdown : Watch) (during : List SupervisionEvent) :
    StationM (Option (Except Diverged Unit)) := do
  match (← superviseFrom now rules during firstSteps (.start [] shutdown)).at_ with
  | .returned r => return some r
  | _ => return none

/-- Looks for a report that turned fatal after the loop ended. -/
def lateFatal : StationM (Except Diverged Unit) :=
  modifyGet fun s =>
    let (r, fatals) := Supervision.lateFatal s.fatals
    (r, { s with fatals })

end Station

end JobDispatch

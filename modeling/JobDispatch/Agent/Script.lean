import JobDispatch.Agent.Desk
import JobDispatch.Agent.Enrolment

/-!
A registry that answers as it is told: calls end with planned errors, one after the other, and
succeed when the plan is used up. Time passes in sleeps alone, and every call is written down with
its instant in milliseconds.
-/

namespace JobDispatch

/-- What is planned for a call: an error, or nothing out of the ordinary. -/
abbrev CallPlan := List (Option RegistryError)

inductive ScriptCall where
  | candidates (params : JobParams) (window : Nat)
  | patch (id : String) (patch : JobPatch)
  /-- a registration, and whether it succeeded -/
  | register (req : RegisterRunner) (ok : Bool)
  deriving DecidableEq, Repr

structure Script where
  now : Nat
  plan : CallPlan
  /-- the jobs that a listing gives -/
  jobs : List Job
  calls : List (Nat × ScriptCall)
  fatals : List FatalError

abbrev ScriptM := StateM Script

namespace Script

def ofPlan (plan : CallPlan) (jobs : List Job) : Script := ⟨0, plan, jobs, [], []⟩

/-- What is planned for the next call, which is written down. -/
def next (call : Option RegistryError → ScriptCall) : ScriptM (Option RegistryError) := fun s =>
  let e := s.plan.head?.join
  (e, { s with plan := s.plan.tail, calls := s.calls ++ [(s.now, call e)] })

def sleep (t : Time.Span) : ScriptM Unit :=
  modify fun s => { s with now := s.now + t.seconds * 1000 + t.nanos / 1000000 }

/-- The job that a patch leads to: the listed one with its status and result changed. -/
def patched (s : Script) (id : String) (p : JobPatch) : Job :=
  let known := s.jobs.find? fun c => c.id == id
  ⟨id, p.version + 1, p.applyTo ((known.map Entity.value).getD .blank)⟩

def desk : Desk ScriptM where
  candidates p n := do
    match ← next fun _ => .candidates p n with
    | some e => return .error e
    | none => return .ok ((← get).jobs.take n)
  patch id p := do
    match ← next fun _ => .patch id p with
    | some e => return .error e
    | none => return .ok ((← get).patched id p)
  sleep := sleep
  correlation := return ""
  raise e := modify fun s => { s with fatals := s.fatals ++ [e] }

/-- Registers, and gives the identity `id` where nothing goes wrong. -/
def register (id : String) (req : RegisterRunner) : ScriptM (Except RegistryError String) := do
  match ← next fun e => .register req e.isNone with
  | some e => return .error e
  | none => return .ok id

end Script

end JobDispatch

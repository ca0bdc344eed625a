import JobDispatch.Http.Message
import JobDispatch.Registry.Basic
import JobDispatch.Registry.Listing
import JobDispatch.Wire.Entity
import JobDispatch.Wire.Job
import JobDispatch.Wire.Runner

/-!
The registry as a server: how a request finds its way to the registry, and how what comes of it
is answered.
-/

namespace JobDispatch

open Http (Form Request Response)

/-- The resources of the registry; an identity is taken from the path as it stands. -/
inductive Resource where
  | health
  | jobs
  | job (segment : List Char)
  | runners
  | runner (segment : List Char)
  deriving DecidableEq, Repr

def Resource.ofPath? (path : List Char) : Option Resource :=
  match path.splitOn '/' with
  | [[], s] =>
    if s = "health".toList then some .health
    else if s = "jobs".toList then some .jobs
    else if s = "runners".toList then some .runners
    else none
  | [[], s, id] =>
    if id = [] then none
    else if s = "jobs".toList then some (.job id)
    else if s = "runners".toList then some (.runner id)
    else none
  | _ => none

/-- The identity that a segment of a path stands for. -/
def identity? (segment : List Char) : Option String :=
  (Text.decodeStrict (Http.percentDecode segment)).map String.ofList

def JobError.response : JobError → Response
  | .notFound id => .error 404 (JobError.notFound id).message
  | .refused o => .error 400 o.message
  | .versionConflict id expected actual =>
    .error 409 (JobError.versionConflict id expected actual).message

def RunnerError.response : RunnerError → Response
  | .notFound id => .error 404 (RunnerError.notFound id).message
  | .refused o => .error 400 o.message
  | .conflict id => .error 409 (RunnerError.conflict id).message

namespace Registry

/-- Answers with the result of an action, or with its error. -/
def reply {ε β : Type} (ok : β → Response) (error : ε → Response) (a : Action Registry ε β) :
    StateM Registry Response := do
  return match ← a.run with
    | .ok b => ok b
    | .error e => error e

def replyJobs {β : Type} (ok : β → Response) (a : JobAction β) : StateM Registry Response :=
  reply ok JobError.response (onJobs a)

def replyRunners {β : Type} (ok : β → Response) (a : RunnerAction β) : StateM Registry Response :=
  reply ok RunnerError.response (onRunners a)

/-- How many jobs and runners there are. -/
def health : StateM Registry Response :=
  reply
    (fun (n : Nat × Nat) => ⟨200, some (.record [("jobs", .ofNat n.1), ("runners", .ofNat n.2),
      ("status", .text "ok")])⟩)
    (fun e : StoreError => .error 500 e.message)
    do
      let jobs ← onJobs (Repository.all 0 0)
      let runners ← onRunners (Repository.all 0 0)
      return (jobs.total, runners.total)

/-- Goes on with the value in a request's body. -/
def withBody {α : Type} [Wire α] (r : Request) (k : α → StateM Registry Response) :
    StateM Registry Response :=
  match r.json (α := α) with
  | .ok a => k a
  | .error e => return e

/-- Goes on with the identity in a path. -/
def withIdentity (segment : List Char) (k : String → StateM Registry Response) :
    StateM Registry Response :=
  match identity? segment with
  | some id => k id
  | none => return .bare 400

def listJobs (f : Form) : StateM Registry Response :=
  match JobParams.ofForm? f, Window.ofForm? f with
  | some p, some w => replyJobs (.json 200) (Jobs.search p.query w.start w.stop)
  | _, _ => return .bare 400

def listRunners (f : Form) : StateM Registry Response :=
  match RunnerParams.ofForm? f, Window.ofForm? f with
  | some p, some w => replyRunners (.json 200) (Runners.search p.query w.start w.stop)
  | _, _ => return .bare 400

/-- Answers a request for a resource. -/
def answer (now : Time.Instant) (r : Request) : Resource → StateM Registry Response
  | .health =>
    match r.method with
    | .get => health
    | _ => return .bare 405
  | .jobs =>
    match r.method with
    | .get => listJobs (Form.decode r.query)
    | .post => withBody r fun req : CreateJob => replyJobs (.json 201) (Jobs.launch now req)
    | _ => return .bare 405
  | .job segment =>
    match r.method with
    | .get => withIdentity segment fun id => replyJobs (.json 200) (Jobs.get id)
    | .patch => withIdentity segment fun id =>
      withBody r fun p : JobPatch => replyJobs (.json 200) (Jobs.patch now id p)
    | _ => return .bare 405
  | .runners =>
    match r.method with
    | .get => listRunners (Form.decode r.query)
    | .post => withBody r fun req : RegisterRunner =>
      replyRunners (.json 201) (Runners.register now req)
    | _ => return .bare 405
  | .runner segment =>
    match r.method with
    | .get => withIdentity segment fun id => replyRunners (.json 200) (Runners.get id)
    | .patch => withIdentity segment fun id =>
      withBody r fun p : RunnerStatusPatch =>
        replyRunners (fun _ => .bare 204) (Runners.patchStatus now id p)
    | _ => return .bare 405

/-- Serves a request. HEAD is answered like GET, without a body. -/
def serve (now : Time.Instant) (r : Request) : StateM Registry Response :=
  match Resource.ofPath? r.path with
  | none => return .bare 404
  | some resource =>
    if r.method = .head then do
      return { (← answer now { r with method := .get } resource) with body := none }
    else answer now r resource

end Registry

end JobDispatch

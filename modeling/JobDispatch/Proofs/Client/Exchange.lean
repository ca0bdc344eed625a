import JobDispatch.Proofs.Agent.Post
import JobDispatch.Proofs.Registry.Cleaning
import JobDispatch.Proofs.Registry.Results
import JobDispatch.Proofs.Wire.Runner

/-!
A client and a registry with nothing between them: a request is served at once, and the response
comes back as it is. What the registry writes of a value or of an error is what the client reads.
-/

namespace JobDispatch

open Http (Request Response Url)

namespace JobError

def status : JobError → Nat
  | notFound _ => 404
  | refused _ => 400
  | versionConflict _ _ _ => 409

def isConflict : JobError → Bool
  | versionConflict _ _ _ => true
  | _ => false

/-- An error as a client tells it. -/
def refusal (e : JobError) : ClientError := .refused e.status e.message

theorem response_eq (e : JobError) : e.response = .error e.status e.message := by
  cases e <;> rfl

/-- A runner sees the conflicts of versions apart from all other errors. -/
theorem ofClient_refusal (e : JobError) : RegistryError.ofClient e.refusal =
    if e.isConflict then .conflict e.refusal.message else .rejected e.status e.message := by
  cases e <;> rfl

end JobError

namespace RunnerError

def status : RunnerError → Nat
  | notFound _ => 404
  | refused _ => 400
  | conflict _ => 409

def isConflict : RunnerError → Bool
  | conflict _ => true
  | _ => false

/-- An error as a client tells it. -/
def refusal (e : RunnerError) : ClientError := .refused e.status e.message

theorem response_eq (e : RunnerError) : e.response = .error e.status e.message := by
  cases e <;> rfl

theorem ofClient_refusal (e : RunnerError) : RegistryError.ofClient e.refusal =
    if e.isConflict then .conflict e.refusal.message else .rejected e.status e.message := by
  cases e <;> rfl

end RunnerError

/-- The message of an error is found again in the body that was written of it. -/
theorem errorText_written (m : String) :
    errorText (bodyText (Text.utf8 (Json.record [("error", .text m)]).write)) = m := by
  let j := Json.record [("error", .text m)]
  have proper : j.Proper := ⟨trivial, trivial⟩
  have read := Draft.read_write proper
  have text : bodyText (Text.utf8 j.write) = String.ofList j.write := by
    rw [bodyText, Text.decodeLossy_utf8]
    rfl
  have whole : (Draft.ofJson j).canGather Draft.nestingLimit = true :=
    Json.gathers_record (by simp [Json.gathers_text])
  have same : (Draft.ofJson j).toJson? = some j := rfl
  have field : Json.field? "error" j = some (.text m) := rfl
  have last : ((some [] : Option (List Char)).any fun r => Draft.skipSpace r = []) = true := rfl
  change errorText (bodyText (Text.utf8 j.write)) = m
  rw [text, errorText, String.toList_ofList]
  simp only [read, whole, last, same, field, Bool.and_true, if_true, Option.bind_some]

namespace Reply

variable {α : Type} [Wire α] (worded : Nat → List UInt8)

/-- A value that is read back as it was written comes back in a response of success. -/
theorem value_json {status : Nat} (success : isSuccess status = true) {a : α}
    (faithful : Wire.Faithful a) :
    value (.full status (Post.bytes worded (.json status a))) = .ok a := by
  have body : (decode? (Post.bytes worded (.json status a)) : Option α) = some a := by
    have read := decode?_utf8 (α := α) (Wire.toJson a)
    rw [show Wire.read (Wire.toJson a).compact = .ok a from faithful.read_write] at read
    exact read
  exact value_of_decode? success body

theorem value_error {status : Nat} (failure : isSuccess status = false) (m : String) :
    (value (.full status (Post.bytes worded (.error status m))) : Except ClientError α) =
      .error (.refused status m) := by
  rw [value_of_failure failure]
  exact congrArg (fun text => Except.error (ClientError.refused status text)) (errorText_written m)

theorem bare_error {status : Nat} (failure : isSuccess status = false) (m : String) :
    bare (.full status (Post.bytes worded (.error status m))) = .error (.refused status m) := by
  simp only [bare, failure]
  exact congrArg (fun text => Except.error (ClientError.refused status text)) (errorText_written m)

end Reply

namespace Registry

variable {ε β : Type}

/-- Carries a request to the registry, which serves it at once, and its response back. -/
def exchange (worded : Nat → List UInt8) (now : Time.Instant) (_ : Url) (r : Request) :
    StateM Registry Reply := do
  let a ← serve now r
  return .full a.status (Post.bytes worded a)

/-- What an action does and gives, its errors as a client tells them. -/
def outcome (refusal : ε → ClientError) (a : Action Registry ε β) :
    StateM Registry (Except ClientError β) := do
  return (← a.run).mapError refusal

theorem outcome_run (refusal : ε → ClientError) (a : Action Registry ε β) (reg : Registry) :
    (outcome refusal a).run reg = ((a.perform reg).1.mapError refusal, (a.perform reg).2) := rfl

theorem outcome_of_ok {refusal : ε → ClientError} {a : Action Registry ε β} {b : β}
    {reg reg' : Registry} (h : a.perform reg = (.ok b, reg')) :
    (outcome refusal a).run reg = (.ok b, reg') := by
  rw [outcome_run, h]
  rfl

theorem outcome_of_error {refusal : ε → ClientError} {a : Action Registry ε β} {e : ε}
    {reg reg' : Registry} (h : a.perform reg = (.error e, reg')) :
    (outcome refusal a).run reg = (.error (refusal e), reg') := by
  rw [outcome_run, h]
  rfl

variable {worded : Nat → List UInt8} {now : Time.Instant} {reg : Registry}

/-- A call that has a request reads the response that it is served with. -/
theorem perform_served {call : Call β} {u : Url} {r : Request}
    (asks : call.request = some (u, r)) :
    (call.perform (exchange worded now)).run reg =
      (call.read (.full ((serve now r).run reg).1.status
        (Post.bytes worded ((serve now r).run reg).1)), ((serve now r).run reg).2) := by
  rw [Call.perform, asks]
  rfl

/-- A call comes to what the action gives that its request is answered with, if both kinds of
answers are read as what they were written for. -/
theorem perform_exchange {call : Call β} {service : Action Registry ε β}
    {refusal : ε → ClientError} {ok : β → Response} {error : ε → Response} {u : Url} {r : Request}
    (asks : call.request = some (u, r)) (served : serve now r = reply ok error service)
    (oks : ∀ b reg', service.perform reg = (.ok b, reg') →
      call.read (.full (ok b).status (Post.bytes worded (ok b))) = .ok b)
    (errors : ∀ e, call.read (.full (error e).status (Post.bytes worded (error e))) =
      .error (refusal e)) :
    (call.perform (exchange worded now)).run reg = (outcome refusal service).run reg := by
  rw [perform_served asks, outcome_run, served]
  cases performed : service.perform reg with
  | mk x reg' =>
    cases x with
    | ok b =>
      rw [reply_ok performed, oks b reg' performed]
      rfl
    | error e =>
      rw [reply_error performed, errors e]
      rfl

/-- An action of which nothing but its having been done is told. -/
theorem perform_discard {a : Action Registry ε β} {x : Except ε β} {reg' : Registry}
    (h : a.perform reg = (x, reg')) : (discard a).perform reg = (x.map fun _ => (), reg') := by
  have bound : (discard a).perform reg = (a >>= fun _ => pure ()).perform reg := rfl
  rw [bound, Action.perform_bind, h]
  cases x <;> rfl

/-- What is answered alike whatever an action gives is an answer to its having been done. -/
theorem reply_discard (a : Action Registry ε β) (error : ε → Response) (done : Response) :
    reply (fun _ => done) error a = reply (fun _ => done) error (discard a) := by
  funext reg
  change (reply (fun _ => done) error a).run reg = (reply (fun _ => done) error (discard a)).run reg
  cases performed : a.perform reg with
  | mk x reg' =>
    have discarded := perform_discard performed
    cases x with
    | ok b => rw [reply_ok performed, reply_ok discarded]
    | error e => rw [reply_error performed, reply_error discarded]

theorem ok_of_onJobs {a : Action (Repository JobValue) ε β} {b : β} {reg' : Registry}
    (h : (onJobs a).perform reg = (.ok b, reg')) :
    ∃ jobs, a.perform reg.jobs = (.ok b, jobs) := by
  cases performed : a.perform reg.jobs with
  | mk x jobs =>
    rw [perform_onJobs performed] at h
    obtain ⟨rfl, -⟩ := Prod.mk.inj h
    exact ⟨jobs, rfl⟩

theorem ok_of_onRunners {a : Action (Repository RunnerValue) ε β} {b : β} {reg' : Registry}
    (h : (onRunners a).perform reg = (.ok b, reg')) :
    ∃ runners, a.perform reg.runners = (.ok b, runners) := by
  cases performed : a.perform reg.runners with
  | mk x runners =>
    rw [perform_onRunners performed] at h
    obtain ⟨rfl, -⟩ := Prod.mk.inj h
    exact ⟨runners, rfl⟩

section

variable (worded)

theorem value_jobError {α : Type} [Wire α] (e : JobError) :
    (Reply.value (.full e.response.status (Post.bytes worded e.response)) :
      Except ClientError α) = .error e.refusal := by
  have failure := JobError.not_success e
  rw [e.response_eq] at failure ⊢
  exact Reply.value_error worded failure e.message

theorem value_runnerError {α : Type} [Wire α] (e : RunnerError) :
    (Reply.value (.full e.response.status (Post.bytes worded e.response)) :
      Except ClientError α) = .error e.refusal := by
  have failure := RunnerError.not_success e
  rw [e.response_eq] at failure ⊢
  exact Reply.value_error worded failure e.message

theorem bare_runnerError (e : RunnerError) :
    Reply.bare (.full e.response.status (Post.bytes worded e.response)) = .error e.refusal := by
  have failure := RunnerError.not_success e
  rw [e.response_eq] at failure ⊢
  exact Reply.bare_error worded failure e.message

end

/-- What a registry counts fits 64 bits, and so do the next versions of what it stores. -/
structure Fits (reg : Registry) : Prop where
  jobs : reg.jobs.store.entities.length ≤ Text.maxWord
  jobVersions : ∀ e ∈ reg.jobs.store.entities, e.version < Text.maxWord
  runners : reg.runners.store.entities.length ≤ Text.maxWord
  runnerVersions : ∀ e ∈ reg.runners.store.entities, e.version < Text.maxWord
  lives : ∀ e ∈ reg.runners.store.entities, LiveFits e.value.timeToLive

theorem fits_assorted : assorted.Fits :=
  ⟨by decide, by decide, by decide, by decide, by decide⟩

end Registry

namespace Http.Request

/-- Where nothing ends a path the whole target is one. -/
theorem path_eq {r : Request} {path : List Char} (target : r.target = '/' :: path)
    (parts : ∀ d ∈ path, Url.isPart d = true) : r.path = '/' :: path := by
  rw [Request.path, target]
  refine List.takeWhile_eq_self_iff.mpr ?_
  intro d hd
  rcases List.mem_cons.mp hd with rfl | hd
  · rfl
  · have part := parts d hd
    simp only [Url.isPart, Bool.and_eq_true] at part
    simp [part]

/-- A request with a value in its body. -/
def writing {α : Type} [Wire α] (method : Http.Method) (path : List Char) (a : α) : Request :=
  ⟨method, '/' :: path, some "application/json", Wire.write a⟩

theorem json_writing {α : Type} [Wire α] {method : Http.Method} {path : List Char} {a : α}
    (small : (Wire.write a).utf8ByteSize ≤ maxBody) (faithful : Wire.Faithful a) :
    (writing method path a).json = .ok a :=
  json_write rfl small rfl faithful

end Http.Request

end JobDispatch

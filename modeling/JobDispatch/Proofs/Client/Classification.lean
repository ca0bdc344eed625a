import JobDispatch.Client.Runner
import JobDispatch.Proofs.Agent.Post
import JobDispatch.Proofs.Agent.Rehearsal

/-!
Failures of calls, sorted by what came back for the request: nobody answered, or the whole of a
response came, whose status and body sort it further. A response that breaks off inside its body
is the one thing that came to nothing and is taken for an answer all the same.
-/

namespace JobDispatch

open Http (Request Url)

/-- A text is the JSON of a value, from its beginning to its end. -/
def Json.Spelled (text : String) (j : Json) : Prop :=
  ∃ draft rest, Draft.read text.toList = (draft, some rest) ∧ Draft.skipSpace rest = [] ∧
    draft.canGather Draft.nestingLimit = true ∧ draft.toJson? = some j

/-- What the body of a failure says: the text under `error` in its JSON, or else the body. -/
inductive Tells (body : String) : String → Prop
  | error {j : Json} {text : String} (json : Json.Spelled body j)
    (field : j.field? "error" = some (.text text)) : Tells body text
  | body (plain : ∀ j text, Json.Spelled body j → j.field? "error" ≠ some (.text text)) :
    Tells body body

namespace Json

/-- The value of which a text is the JSON. -/
def ofText? (text : String) : Option Json :=
  let (draft, rest) := Draft.read text.toList
  if draft.canGather Draft.nestingLimit && rest.any fun r => Draft.skipSpace r = []
  then draft.toJson? else none

theorem spelled_iff {text : String} {j : Json} : Spelled text j ↔ ofText? text = some j := by
  rw [Spelled, ofText?]
  obtain ⟨draft, rest⟩ := Draft.read text.toList
  cases rest with
  | none => simp
  | some rest =>
    simp only [Prod.mk.injEq, Option.some.injEq, Option.any_some, Bool.and_eq_true,
      decide_eq_true_eq, Option.ite_none_right_eq_some]
    constructor
    · rintro ⟨_, _, ⟨rfl, rfl⟩, ends, whole, value⟩
      exact ⟨⟨whole, ends⟩, value⟩
    · rintro ⟨⟨whole, ends⟩, value⟩
      exact ⟨draft, rest, ⟨rfl, rfl⟩, ends, whole, value⟩

end Json

theorem errorText_eq (body : String) : errorText body =
    match (Json.ofText? body).bind (Json.field? "error") with
    | some (.text s) => s
    | _ => body := rfl

theorem tells_errorText (body : String) : Tells body (errorText body) := by
  rw [errorText_eq]
  split
  · next s told =>
    obtain ⟨j, json, field⟩ := Option.bind_eq_some_iff.mp told
    exact .error (Json.spelled_iff.mpr json) field
  · next untold =>
    refine .body ?_
    intro j s json field
    exact untold s (Option.bind_eq_some_iff.mpr ⟨j, Json.spelled_iff.mp json, field⟩)

/-- A body says one thing. -/
theorem tells_iff {body m : String} : Tells body m ↔ errorText body = m := by
  constructor
  · intro said
    rw [errorText_eq]
    cases said with
    | error json field => rw [Json.spelled_iff.mp json, Option.bind_some, field]
    | body plain =>
      split
      · next s told =>
        obtain ⟨j, json, field⟩ := Option.bind_eq_some_iff.mp told
        exact absurd field (plain j s (Json.spelled_iff.mpr json))
      · rfl
  · rintro rfl
    exact tells_errorText body

namespace Reply

/-- Whether the whole of a response came back. -/
def Complete : Reply → Prop
  | full .. => True
  | _ => False

/-- What comes of a call is sorted by what came back for it: nobody answered exactly if the whole
of a response did not come, and a whole response is sorted by its status and its body alone. -/
structure Sorts {α : Type} [Wire α] (reply : Reply) (x : Except ClientError α) : Prop where
  transport : (∃ e, x = .error e ∧ e.isTransport = true) ↔ ¬reply.Complete
  refused : ∀ status body, reply = .full status body → ∀ s m,
    x = .error (.refused s m) ↔
      isSuccess status = false ∧ s = status ∧ Tells (bodyText body) m
  unreachable : (∃ why, x.mapError .ofClient = .error (RegistryError.unreachable why)) ↔
    ¬reply.Complete
  conflict : ∀ status body, reply = .full status body →
    ((∃ why, x.mapError .ofClient = .error (RegistryError.conflict why)) ↔ status = 409)
  rejected : ∀ status body, reply = .full status body → ∀ s m,
    x.mapError .ofClient = .error (RegistryError.rejected s m) ↔
      isSuccess status = false ∧ status ≠ 409 ∧ s = status ∧ Tells (bodyText body) m
  malformed : ∀ status body, reply = .full status body →
    ((∃ why, x.mapError .ofClient = .error (RegistryError.malformed why)) ↔
      isSuccess status = true ∧ (decode? body : Option α) = none)
  ok : ∀ status body, reply = .full status body → ∀ a,
    x = .ok a ↔ isSuccess status = true ∧ decode? body = some a

end Reply

theorem Except.mapError_eq_error_iff {ε ε' α : Type} {f : ε → ε'} {x : Except ε α} {e' : ε'} :
    x.mapError f = .error e' ↔ ∃ e, x = .error e ∧ f e = e' := by
  cases x <;> simp [Except.mapError]

namespace RegistryError

variable {e : ClientError}

/-- A runner counts a registry as unreachable exactly if its client says that nobody answered. -/
theorem unreachable_iff : (∃ why, ofClient e = .unreachable why) ↔ e.isTransport = true := by
  cases e with
  | refused s m =>
    rw [ofClient]
    split <;> simp [ClientError.isTransport]
  | unanswered why => simp [ofClient, ClientError.isTransport]
  | unreadable why => simp [ofClient, ClientError.isTransport]

theorem conflict_iff : (∃ why, ofClient e = .conflict why) ↔ ∃ m, e = .refused 409 m := by
  cases e with
  | refused s m =>
    rw [ofClient]
    split <;> simp [*]
  | unanswered why => simp [ofClient]
  | unreadable why => simp [ofClient]

theorem rejected_iff {s : Nat} {m : String} :
    ofClient e = .rejected s m ↔ s ≠ 409 ∧ e = .refused s m := by
  cases e with
  | refused s' m' =>
    rw [ofClient]
    split
    · next clash =>
      refine iff_of_false nofun ?_
      rintro ⟨other, same⟩
      exact other ((ClientError.refused.inj same).1.symm.trans clash)
    · next other =>
      simp only [rejected.injEq, ClientError.refused.injEq, iff_and_self]
      rintro ⟨rfl, -⟩
      exact other
  | unanswered why => simp [ofClient]
  | unreadable why => simp [ofClient]

theorem malformed_iff : (∃ why, ofClient e = .malformed why) ↔ ∃ why, e = .unreadable why := by
  cases e with
  | refused s m =>
    rw [ofClient]
    split <;> simp
  | unanswered why => simp [ofClient]
  | unreadable why => simp [ofClient]

theorem isTransient_iff {r : RegistryError} :
    r.isTransient = true ↔ ∃ why, r = .unreachable why := by
  cases r <;> simp [isTransient]

end RegistryError

namespace Reply

section

variable {α : Type} [Wire α] {x : Except ClientError α} {reply : Reply}

/-- What a runner makes of an error follows from what the client makes of it. -/
theorem Sorts.of_client
    (transport : (∃ e, x = .error e ∧ e.isTransport = true) ↔ ¬reply.Complete)
    (refused : ∀ status body, reply = .full status body → ∀ s m,
      x = .error (.refused s m) ↔
        isSuccess status = false ∧ s = status ∧ Tells (bodyText body) m)
    (unreadable : ∀ status body, reply = .full status body →
      ((∃ why, x = .error (.unreadable why)) ↔
        isSuccess status = true ∧ (decode? body : Option α) = none))
    (ok : ∀ status body, reply = .full status body → ∀ a,
      x = .ok a ↔ isSuccess status = true ∧ decode? body = some a) :
    Sorts reply x where
  transport := transport
  refused := refused
  unreachable := by
    rw [← transport]
    simp only [Except.mapError_eq_error_iff]
    rw [exists_comm]
    simp only [exists_and_left, RegistryError.unreachable_iff]
  conflict status body full := by
    simp only [Except.mapError_eq_error_iff]
    rw [exists_comm]
    simp only [exists_and_left, RegistryError.conflict_iff]
    constructor
    · rintro ⟨_, called, m, rfl⟩
      exact ((refused status body full 409 m).mp called).2.1.symm
    · rintro rfl
      have called := (refused 409 body full 409 _).mpr ⟨rfl, rfl, tells_errorText (bodyText body)⟩
      exact ⟨_, called, _, rfl⟩
  rejected status body full s m := by
    rw [Except.mapError_eq_error_iff]
    constructor
    · rintro ⟨e, called, seen⟩
      obtain ⟨other, rfl⟩ := RegistryError.rejected_iff.mp seen
      obtain ⟨failure, rfl, told⟩ := (refused status body full s m).mp called
      exact ⟨failure, other, rfl, told⟩
    · rintro ⟨failure, other, rfl, told⟩
      exact ⟨_, (refused s body full s m).mpr ⟨failure, rfl, told⟩,
        RegistryError.rejected_iff.mpr ⟨other, rfl⟩⟩
  malformed status body full := by
    rw [← unreadable status body full]
    simp only [Except.mapError_eq_error_iff]
    rw [exists_comm]
    simp only [exists_and_left, RegistryError.malformed_iff]
    constructor
    · rintro ⟨_, called, why, rfl⟩
      exact ⟨why, called⟩
    · rintro ⟨why, called⟩
      exact ⟨_, called, why, rfl⟩
  ok := ok

variable {status : Nat} {body : List UInt8}

theorem value_not_transport : ¬∃ e, (value (.full status body) : Except ClientError α) = .error e ∧
    e.isTransport = true := by
  rintro ⟨e, called, transport⟩
  rw [value] at called
  split at called
  · split at called
    · cases called
    · cases called
      cases transport
  · cases called
    cases transport

theorem value_refused_iff {s : Nat} {m : String} :
    (value (.full status body) : Except ClientError α) = .error (.refused s m) ↔
      isSuccess status = false ∧ s = status ∧ Tells (bodyText body) m := by
  rw [tells_iff]
  cases success : isSuccess status with
  | false => simp [value_of_failure success, ClientError.ofResponse, eq_comm]
  | true =>
    simp only [value, success, if_true]
    split <;> simp [ClientError.noValue]

theorem value_unreadable_iff :
    (∃ why, (value (.full status body) : Except ClientError α) = .error (.unreadable why)) ↔
      isSuccess status = true ∧ (decode? body : Option α) = none := by
  cases success : isSuccess status with
  | false => simp [value_of_failure success, ClientError.ofResponse]
  | true =>
    simp only [value, success, if_true, true_and]
    split <;> simp [*, ClientError.noValue]

theorem value_ok_iff {a : α} :
    value (.full status body) = .ok a ↔ isSuccess status = true ∧ decode? body = some a := by
  cases success : isSuccess status with
  | false => simp [value_of_failure success]
  | true =>
    simp only [value, success, if_true, true_and]
    split <;> simp [*]

/-- What comes of a call is sorted as it should be, unless the response broke off. -/
theorem sorts_value_iff : Sorts reply (value reply : Except ClientError α) ↔
    ∀ status, reply ≠ .cut status := by
  cases reply with
  | nothing why =>
    refine iff_of_true ?_ (fun _ => Reply.noConfusion)
    refine .of_client (iff_of_true ⟨_, rfl, rfl⟩ id) ?_ ?_ ?_
    · rintro _ _ ⟨⟩
    · rintro _ _ ⟨⟩
    · rintro _ _ ⟨⟩
  | cut status =>
    refine iff_of_false ?_ (fun whole => whole status rfl)
    intro sorts
    obtain ⟨e, called, transport⟩ := sorts.transport.mpr id
    rw [value] at called
    cases called
    split at transport <;> cases transport
  | full status body =>
    refine iff_of_true ?_ (fun _ => Reply.noConfusion)
    refine .of_client (iff_of_false value_not_transport (fun part => part trivial)) ?_ ?_ ?_
    · rintro _ _ ⟨⟩ s m
      exact value_refused_iff
    · rintro _ _ ⟨⟩
      exact value_unreadable_iff
    · rintro _ _ ⟨⟩ a
      exact value_ok_iff

end

end Reply

namespace Rehearsal

variable (x : Rehearsal) {job : Job} {rules : DeskRules} {left attempt : Nat}
  {diary : List DeskStep}

theorem countP_attempts (pause : Time.Span) (first n : Nat) :
    (x.attempts job pause first n).countP DeskStep.isPatch = n := by
  induction n generalizing first with
  | zero => rfl
  | succ n ih =>
    cases n with
    | zero => rfl
    | succ n =>
      rw [attempts_succ, List.countP_append, List.countP_cons, ih]
      change 1 + (n + 1 + 0) = n + 2
      omega

theorem countP_raisings (r : Except FatalError Job) :
    (raisings r).countP DeskStep.isPatch = 0 := by
  cases r <;> rfl

/-- While attempts are left, one is followed by another exactly if nobody answered it. -/
theorem reportFrom_again_iff :
    diary.countP DeskStep.isPatch + 1 <
        ((x.desk.reportFrom rules job (left + 1) attempt).run diary).2.countP DeskStep.isPatch ↔
      isSilence (x.outcomes (diary.countP DeskStep.isPatch)) = true := by
  obtain ⟨pauses, r, run, course⟩ := x.reportFrom_run job (left + 1) attempt rules diary
  rw [run, List.countP_append, List.countP_append, countP_attempts, countP_raisings]
  cases pauses with
  | zero =>
    have heard := course.last.resolve_left (by omega)
    rw [Nat.add_zero] at heard
    simp [heard]
  | succ pauses =>
    have silent := course.silent 0 (Nat.zero_lt_succ pauses)
    rw [Nat.add_zero] at silent
    simp [silent]

end Rehearsal

namespace Client

/-- What a client can ask for that is answered with a body. -/
inductive Question where
  | launchJob (req : CreateJob)
  | getJob (id : String)
  | listJobs (p : JobParams) (w : Window)
  | patchJob (id : String) (p : JobPatch)
  | registerRunner (req : RegisterRunner)
  | getRunner (id : String)
  | listRunners (p : RunnerParams) (w : Window)

namespace Question

/-- What the body of an answer stands for. -/
def Answer : Question → Type
  | launchJob _ | getJob _ | patchJob .. => Job
  | listJobs .. => Page Job
  | registerRunner _ | getRunner _ => Runner
  | listRunners .. => Page Runner

instance wireAnswer : (q : Question) → Wire q.Answer
  | launchJob _ | getJob _ | patchJob .. => inferInstanceAs (Wire Job)
  | listJobs .. => inferInstanceAs (Wire (Page Job))
  | registerRunner _ | getRunner _ => inferInstanceAs (Wire Runner)
  | listRunners .. => inferInstanceAs (Wire (Page Runner))

def call (c : Client) : (q : Question) → Call q.Answer
  | launchJob req => c.launchJob req
  | getJob id => c.getJob id
  | listJobs p w => c.listJobs p w
  | patchJob id p => c.patchJob id p
  | registerRunner req => c.registerRunner req
  | getRunner id => c.getRunner id
  | listRunners p w => c.listRunners p w

theorem call_read (c : Client) (q : Question) : (q.call c).read = Reply.value := by
  cases q <;> rfl

end Question

section

variable {α : Type} (answer : Url → Request → Reply) (k : Call α)

/-- What comes back for a call; there is nothing to send to an address that is none. -/
def received : Reply :=
  match k.request with
  | none => .nothing "builder error"
  | some (u, r) => answer u r

/-- What a client makes of what comes back for a call. -/
def heard : Except ClientError α :=
  (k.perform fun u r => (pure (answer u r) : Id Reply)).run

def heardByRunner : Except RegistryError α :=
  (seenByRunner (fun u r => (pure (answer u r) : Id Reply)) k).run

theorem heardByRunner_eq : heardByRunner answer k = (heard answer k).mapError .ofClient := rfl

theorem heard_eq : heard answer k = k.read (received answer k) := by
  rw [heard, Call.perform, received]
  cases k.request <;> rfl

end

/-- What comes of a question is sorted by what came back for it, and a report of a job is made
again while attempts are left exactly if the whole of a response did not come back. -/
structure Discerned (c : Client) (answer : Url → Request → Reply) (q : Question) : Prop where
  call : (received answer (q.call c)).Sorts (heard answer (q.call c))
  report : ∀ (x : Rehearsal) (rules : DeskRules) (job : Job) (left attempt : Nat)
    (diary : List DeskStep), q = .patchJob job.id (.report job.version job.value) →
    x.outcomes (diary.countP DeskStep.isPatch) =
      heardByRunner answer (c.patchJob job.id (.report job.version job.value)) →
    (diary.countP DeskStep.isPatch + 1 <
        ((x.desk.reportFrom rules job (left + 1) attempt).run diary).2.countP DeskStep.isPatch ↔
      ¬(received answer (q.call c)).Complete)

variable {c : Client} {answer : Url → Request → Reply} {q : Question}

theorem sorts_heard_iff : (received answer (q.call c)).Sorts (heard answer (q.call c)) ↔
    ∀ status, received answer (q.call c) ≠ .cut status := by
  rw [heard_eq, q.call_read]
  exact Reply.sorts_value_iff

theorem isSilence_iff {x : Except RegistryError Job} :
    isSilence x = true ↔ ∃ why, x = .error (.unreachable why) := by
  cases x with
  | ok job => simp [isSilence]
  | error e => simp [isSilence, RegistryError.isTransient_iff]

/-- Whatever a client asks for, what comes of it is sorted by what came back, unless that was a
response that broke off inside its body. -/
theorem discerned_iff (c : Client) (answer : Url → Request → Reply) (q : Question) :
    Discerned c answer q ↔ ∀ status, received answer (q.call c) ≠ .cut status := by
  rw [← sorts_heard_iff]
  constructor
  · exact Discerned.call
  · intro sorts
    refine ⟨sorts, ?_⟩
    rintro x rules job left attempt diary rfl outcome
    rw [Rehearsal.reportFrom_again_iff, outcome, isSilence_iff, heardByRunner_eq]
    exact sorts.unreachable

/-- A job that breaks off in its body is taken for an answer of success that cannot be read. -/
theorem not_discerned_cut :
    heard (fun _ _ => .cut 200) (Post.localhost.getJob "J1") = .error .noValue ∧
      ¬ Discerned Post.localhost (fun _ _ => .cut 200) (.getJob "J1") := by
  have asks : (Post.localhost.getJob "J1").request.isSome = true := by decide +kernel
  obtain ⟨p, asks⟩ := Option.isSome_iff_exists.mp asks
  have broken : received (fun _ _ => .cut 200) (Post.localhost.getJob "J1") = .cut 200 := by
    rw [received, asks]
  constructor
  · rw [heard_eq, broken]
    rfl
  · intro discerned
    exact sorts_heard_iff.mp discerned.call 200 broken

end Client

end JobDispatch

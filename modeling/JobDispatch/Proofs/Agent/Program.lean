import JobDispatch.Agent.Dispatch
import JobDispatch.Proofs.Registry.Reservation

/-!
What a runner does, written down as a program: the desk and the dispatch over a monad that only
notes what is asked. However the questions are answered, a job that was reserved is given to the
pool at once, and no patch does anything but reserve a job or report it as done.
-/

namespace JobDispatch

/-- What a runner asks of what is around it. -/
inductive Ask where
  | listing (params : JobParams) (window : Nat)
  | patching (id : String) (p : JobPatch)
  | sleeping (t : Time.Span)
  /-- a text by which what belongs together can be found again -/
  | naming
  | raising (e : FatalError)
  /-- whether a worker is idle -/
  | looking
  | giving (job : Job)
  | processing (job : Job)

def Ask.Answer : Ask → Type
  | listing .. => Except RegistryError (List Job)
  | patching .. => Except RegistryError Job
  | sleeping _ => Unit
  | naming => String
  | raising _ => Unit
  | looking => Bool
  | giving _ => Except PoolError Unit
  | processing _ => Processed

/-- The questions that have nothing to do with a single job. -/
def Ask.Quiet : Ask → Prop
  | patching .. | giving _ | processing _ => False
  | _ => True

/-- Whether a job that comes back from its processor is done. -/
def Processed.isDone : Processed → Bool
  | finished job => job.value.status.run == some .done
  | _ => true

inductive Program (α : Type) where
  | ends (a : α)
  | asks (q : Ask) (next : q.Answer → Program α)

namespace Program

variable {α β : Type}

def bind : Program α → (α → Program β) → Program β
  | ends a, k => k a
  | asks q next, k => asks q fun a => (next a).bind k

instance : Monad Program where
  pure := ends
  bind := bind

def ask (q : Ask) : Program q.Answer := asks q ends

def desk : Desk Program where
  candidates params window := ask (.listing params window)
  patch id p := ask (.patching id p)
  sleep t := ask (.sleeping t)
  correlation := ask .naming
  raise e := ask (.raising e)

/-- The dispatch of a runner whose pool has so many workers. -/
def dispatch (rules : DeskRules) (size : Nat) : Dispatch Program where
  size
  hasIdleWorker := ask .looking
  next := desk.nextJob rules
  give job := ask (.giving job)
  report := desk.report rules

def poll (rules : DeskRules) (size : Nat) : Program (Except FatalError Nat) :=
  (dispatch rules size).poll

/-- What a worker does with a job: its processor runs, and what comes of it is reported. -/
def handle (rules : DeskRules) (job : Job) : Program Outcome := do
  desk.conclude rules job (← ask (.processing job))

/-- The result of a program that has ended. -/
def result? : Program α → Option α
  | ends a => some a
  | asks .. => none

/-- Programs that hold a job only from its reservation until it is given to the pool, which is what
they do next. `kept` tells which job is still held at the end. -/
inductive Orderly (kept : α → Option Job) : Option Job → Program α → Prop
  | ends (a : α) : Orderly kept (kept a) (.ends a)
  | reserving (id : String) (v : Nat) (next : Except RegistryError Job → Program α)
      (got : ∀ job, Orderly kept (some job) (next (.ok job)))
      (lost : ∀ e, Orderly kept none (next (.error e))) :
      Orderly kept none (.asks (.patching id (.reserve v)) next)
  | reporting (id : String) (p : JobPatch) (next : Except RegistryError Job → Program α)
      (done : p.reports) (after : ∀ a, Orderly kept none (next a)) :
      Orderly kept none (.asks (.patching id p) next)
  | giving (job : Job) (next : Except PoolError Unit → Program α)
      (after : ∀ r, Orderly kept none (next r)) :
      Orderly kept (some job) (.asks (.giving job) next)
  | processing (job : Job) (next : Processed → Program α)
      (after : ∀ how : Processed, how.isDone → Orderly kept none (next how)) :
      Orderly kept none (.asks (.processing job) next)
  | quiet (q : Ask) (next : q.Answer → Program α) (quiet : q.Quiet)
      (after : ∀ a, Orderly kept none (next a)) :
      Orderly kept none (.asks q next)

theorem Orderly.bind {kept : α → Option Job} {kept' : β → Option Job} {held : Option Job}
    {p : Program α} {k : α → Program β} (h : Orderly kept held p)
    (rest : ∀ a, Orderly kept' (kept a) (k a)) : Orderly kept' held (p >>= k) := by
  induction h with
  | ends a => exact rest a
  | reserving id v next got lost ihg ihl => exact .reserving id v _ ihg ihl
  | reporting id p next done after ih => exact .reporting id p _ done ih
  | giving job next after ih => exact .giving job _ ih
  | processing job next after ih => exact .processing job _ ih
  | quiet q next quiet after ih => exact .quiet q _ quiet ih

/-- The job that comes with the answer of the desk. -/
def reservedBy : Except RegistryError (Option Job) → Option Job
  | .ok job => job
  | .error _ => none

theorem orderly_reserveFirst (cs : List Job) : Orderly id none (desk.reserveFirst cs) := by
  induction cs with
  | nil => exact .ends none
  | cons c cs ih =>
    refine .reserving c.id c.version _ ?_ ?_
    · intro job
      exact .ends (some job)
    · intro e
      exact ih

theorem orderly_nextJob (rules : DeskRules) : Orderly reservedBy none (desk.nextJob rules) := by
  refine .quiet (.listing rules.params rules.window) _ trivial ?_
  intro a
  cases a with
  | error e => exact .ends (Except.error e)
  | ok cs => exact (orderly_reserveFirst cs).bind fun job => .ends (Except.ok job)

theorem orderly_giveUp (job : Job) (reason : String) :
    Orderly (fun _ => none) none (desk.giveUp job reason) := by
  refine .quiet .naming _ trivial ?_
  intro name
  exact .quiet (.raising ⟨name, job.id, reason⟩) _ trivial fun _ => .ends _

theorem orderly_reportFrom (rules : DeskRules) (job : Job)
    (done : job.value.status.run = some .done) (left attempt : Nat) :
    Orderly (fun _ => none) none (desk.reportFrom rules job left attempt) := by
  have reports : (JobPatch.report job.version job.value).reports := by
    simp [JobPatch.reports, JobPatch.report, done]
  induction left generalizing attempt with
  | zero =>
    unfold Desk.reportFrom
    refine .reporting job.id _ _ reports ?_
    intro a
    cases a with
    | ok stored => exact .ends (Except.ok stored)
    | error e =>
      change Orderly _ none (if !e.isTransient then desk.giveUp job e.message else _)
      split_ifs
      · exact orderly_giveUp job e.message
      · exact orderly_giveUp job _
  | succ left ih =>
    unfold Desk.reportFrom
    refine .reporting job.id _ _ reports ?_
    intro a
    cases a with
    | ok stored => exact .ends (Except.ok stored)
    | error e =>
      change Orderly _ none (if !e.isTransient then desk.giveUp job e.message else _)
      split_ifs
      · exact orderly_giveUp job e.message
      · exact .quiet (.sleeping rules.retryDelay) _ trivial fun _ => ih (attempt + 1)

theorem orderly_report (rules : DeskRules) (job : Job)
    (done : job.value.status.run = some .done) :
    Orderly (fun _ => none) none (desk.report rules job) :=
  orderly_reportFrom rules job done _ _

theorem orderly_pollFrom (rules : DeskRules) (size room dispatched : Nat) :
    Orderly (fun _ => none) none ((dispatch rules size).pollFrom room dispatched) := by
  induction room generalizing dispatched with
  | zero => exact .ends _
  | succ room ih =>
    refine .quiet .looking _ trivial ?_
    intro idle
    cases idle with
    | false => exact .ends _
    | true =>
      refine (orderly_nextJob rules).bind ?_
      intro r
      match r with
      | .error e => exact .ends _
      | .ok none => exact .ends _
      | .ok (some job) =>
        refine .giving job _ ?_
        intro answer
        cases answer with
        | ok u => exact ih (dispatched + 1)
        | error e =>
          refine (orderly_report rules _ rfl).bind ?_
          intro r
          cases r <;> exact .ends _

theorem orderly_poll (rules : DeskRules) (size : Nat) :
    Orderly (fun _ => none) none (poll rules size) :=
  orderly_pollFrom rules size size 0

theorem orderly_handle (rules : DeskRules) (job : Job) :
    Orderly (fun _ => none) none (handle rules job) := by
  refine .processing job _ ?_
  intro how done
  cases how with
  | finished job => exact (orderly_report rules job (eq_of_beq done)).bind fun r => .ends _
  | failed text => exact (orderly_report rules _ rfl).bind fun r => .ends _
  | panicked => exact .ends _

end Program

end JobDispatch

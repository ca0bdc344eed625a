import JobDispatch.Agent.Dispatch
import JobDispatch.Proofs.Store.Repository

/-!
Rounds of polling: a poll that writes down whatever it asks and how it is answered, with answers
that may depend on all that came before. A round gives jobs to the pool until there is no room, no
idle worker or no job, or until the pool refuses one.
-/

namespace JobDispatch

/-- What a poll asks, with the answer. -/
inductive PollStep where
  | looked (idle : Bool)
  | fetched (r : Except RegistryError (Option Job))
  | gave (job : Job) (r : Except PoolError Unit)
  | reported (job : Job) (r : Except FatalError Job)

namespace PollStep

/-- The pool accepted a job. -/
def accepts : PollStep → Bool
  | gave _ (.ok ()) => true
  | _ => false

/-- The pool refused a job, or none could be had. -/
def closes : PollStep → Bool
  | fetched (.ok (some _)) => false
  | fetched _ => true
  | gave _ (.error _) => true
  | _ => false

end PollStep

/-- How the questions of a poll are answered after all that came before them. -/
structure Surroundings where
  idle : List PollStep → Bool
  next : List PollStep → Except RegistryError (Option Job)
  give : List PollStep → Job → Except PoolError Unit
  report : List PollStep → Job → Except FatalError Job

/-- What is reported of a job that the pool refused: it is done and failed, with the refusal as its
result. -/
def Entity.refusal (job : Job) (e : PoolError) : Job :=
  { job with value := { job.value with
    status := ⟨some .done, some .failure⟩, result := some ("refused by runner: " ++ e.message) } }

namespace Surroundings

variable (x : Surroundings)

/-- Answers a question and writes it down. -/
def ask {α : Type} (step : α → PollStep) (answer : List PollStep → α) :
    StateM (List PollStep) α :=
  fun log => (answer log, log ++ [step (answer log)])

def dispatch (size : Nat) : Dispatch (StateM (List PollStep)) where
  size := size
  hasIdleWorker := ask .looked x.idle
  next := ask .fetched x.next
  give job := ask (.gave job) (x.give · job)
  report job := ask (.reported job) (x.report · job)

end Surroundings

/-- What a round with room for so many jobs does and comes to. -/
inductive Round : Nat → List PollStep → Except FatalError Nat → Prop
  | full : Round 0 [] (.ok 0)
  | busy (room : Nat) : Round (room + 1) [.looked false] (.ok 0)
  | nothing (room : Nat) : Round (room + 1) [.looked true, .fetched (.ok none)] (.ok 0)
  | unfetched (room : Nat) (e : RegistryError) :
      Round (room + 1) [.looked true, .fetched (.error e)] (.ok 0)
  | refused (room : Nat) (job : Job) (e : PoolError) (r : Except FatalError Job) :
      Round (room + 1) [.looked true, .fetched (.ok (some job)), .gave job (.error e),
        .reported (job.refusal e) r] (r.map fun _ => 0)
  | accepted {room : Nat} (job : Job) {steps : List PollStep} {r : Except FatalError Nat}
      (rest : Round room steps r) :
      Round (room + 1)
        (.looked true :: .fetched (.ok (some job)) :: .gave job (.ok ()) :: steps)
        (r.map (1 + ·))

namespace Surroundings

theorem eq_of_ask {α : Type} {step : α → PollStep} {answer : List PollStep → α}
    {log later : List PollStep} {a : α} (h : (ask step answer).run log = (a, later)) :
    later = log ++ [step a] := by
  cases h
  rfl

/-- From each point on, a poll does what a round with the room that is left does. -/
theorem round_of_pollFrom {size room dispatched : Nat} {log later : List PollStep}
    {x : Surroundings} {r : Except FatalError Nat}
    (h : ((x.dispatch size).pollFrom room dispatched).run log = (r, later)) :
    ∃ steps n, later = log ++ steps ∧ r = n.map (dispatched + ·) ∧ Round room steps n := by
  induction room generalizing dispatched log with
  | zero =>
    cases h
    exact ⟨[], .ok 0, (List.append_nil _).symm, rfl, .full⟩
  | succ room ih =>
    rw [Dispatch.pollFrom] at h
    obtain ⟨idle, log₁, looked, h⟩ := exists_of_bind h
    obtain rfl := eq_of_ask looked
    cases idle with
    | false =>
      cases h
      exact ⟨_, _, rfl, rfl, .busy room⟩
    | true =>
      obtain ⟨next, log₂, fetched, h⟩ := exists_of_bind h
      obtain rfl := eq_of_ask fetched
      match next with
      | .error e =>
        cases h
        exact ⟨_, _, List.append_assoc .., rfl, .unfetched room e⟩
      | .ok none =>
        cases h
        exact ⟨_, _, List.append_assoc .., rfl, .nothing room⟩
      | .ok (some job) =>
        obtain ⟨answer, log₃, gave, h⟩ := exists_of_bind h
        obtain rfl := eq_of_ask gave
        cases answer with
        | ok =>
          obtain ⟨steps, n, rfl, rfl, rest⟩ := ih h
          refine ⟨_, _, ?_, ?_, .accepted job rest⟩
          · simp only [List.append_assoc, List.cons_append, List.nil_append]
          · cases n with
            | ok n => exact congrArg Except.ok (Nat.add_assoc dispatched 1 n)
            | error f => rfl
        | error e =>
          obtain ⟨stored, log₄, reported, h⟩ := exists_of_bind h
          obtain rfl := eq_of_ask reported
          have ended : r = (stored.map fun _ => dispatched) ∧
              later = log ++ [.looked true, .fetched (.ok (some job)), .gave job (.error e),
                .reported (job.refusal e) stored] := by
            cases stored <;> cases h <;> simp [Except.map, Entity.refusal, Entity.failed,
              Entity.withValue, JobValue.withStatus, JobValue.withResult]
          obtain ⟨rfl, rfl⟩ := ended
          exact ⟨_, _, rfl, by cases stored <;> rfl, .refused room job e stored⟩

end Surroundings

/-- What belongs to a step of a poll with room for so many jobs, before it and after it. -/
def PollStep.Belongs (size : Nat) (before : List PollStep) :
    PollStep → List PollStep → Prop
  | .looked _, _ => True
  | .fetched next, after =>
    before.getLast? = some (.looked true) ∧ before.countP accepts < size ∧
      (∀ s ∈ before, s.closes = false) ∧
      ∀ job, next = .ok (some job) →
        (∃ rest, after = .gave job (.ok ()) :: rest) ∨
          ∃ e r, after = [.gave job (.error e), .reported (job.refusal e) r]
  | .gave job _, _ => before.getLast? = some (.fetched (.ok (some job)))
  | .reported report _, _ =>
    ∃ job e, before.getLast? = some (.gave job (.error e)) ∧ report = job.refusal e

/-- Steps that come after others belong there. -/
def PollStep.AllBelong (size : Nat) : List PollStep → List PollStep → Prop
  | _, [] => True
  | before, s :: after => s.Belongs size before after ∧ AllBelong size (before ++ [s]) after

open PollStep

theorem PollStep.AllBelong.split {size : Nat} {earlier before after : List PollStep} {s : PollStep}
    (h : AllBelong size earlier (before ++ s :: after)) :
    s.Belongs size (earlier ++ before) after := by
  induction before generalizing earlier with
  | nil =>
    rw [List.append_nil]
    exact h.1
  | cons a before ih =>
    rw [List.append_cons]
    exact ih h.2

namespace Round

variable {room size : Nat} {steps earlier : List PollStep} {r : Except FatalError Nat}

/-- A job is asked for in its place when an idle worker was just seen, there is room left and
nothing ended the round. -/
theorem belongs_fetched {next : Except RegistryError (Option Job)} {after : List PollStep}
    (left : earlier.countP accepts < size) (going : ∀ s ∈ earlier, s.closes = false)
    (settled : ∀ job, next = .ok (some job) → (∃ rest, after = .gave job (.ok ()) :: rest) ∨
      ∃ e r, after = [.gave job (.error e), .reported (job.refusal e) r])
    (rest : AllBelong size (earlier ++ [.looked true, .fetched next]) after) :
    AllBelong size earlier (.looked true :: .fetched next :: after) := by
  refine ⟨trivial, ⟨List.getLast?_concat, ?_, ?_, settled⟩, ?_⟩
  · rw [List.countP_append]
    exact left
  · intro s hs
    obtain hs | hs := List.mem_append.mp hs
    · exact going s hs
    · rw [List.mem_singleton.mp hs]
      rfl
  · rw [List.append_assoc]
    exact rest

/-- In a round everything is in its place. -/
theorem belongs (h : Round room steps r) (left : earlier.countP accepts + room ≤ size)
    (going : ∀ s ∈ earlier, s.closes = false) : AllBelong size earlier steps := by
  induction h generalizing earlier with
  | full => trivial
  | busy room => exact ⟨trivial, trivial⟩
  | nothing room => exact belongs_fetched (by omega) going (by simp) True.intro
  | unfetched room e => exact belongs_fetched (by omega) going (by simp) True.intro
  | refused room job e r =>
    refine belongs_fetched (by omega) going ?_ ⟨?_, ⟨job, e, List.getLast?_concat, rfl⟩, trivial⟩
    · rintro _ ⟨⟩
      exact .inr ⟨e, r, rfl⟩
    · simp [Belongs]
  | @accepted room job steps r rest ih =>
    have accepted : earlier.countP accepts + 1 + room ≤ size := by omega
    refine belongs_fetched (by omega) going ?_ ⟨?_, ih ?_ ?_⟩
    · rintro _ ⟨⟩
      exact .inl ⟨steps, rfl⟩
    · simp [Belongs]
    · simpa [List.countP_append, List.countP_cons, PollStep.accepts] using accepted
    · simpa [or_imp, forall_and, PollStep.closes] using going

theorem countP_accepts (job : Job) (steps : List PollStep) :
    List.countP accepts (.looked true :: .fetched (.ok (some job)) :: .gave job (.ok ()) :: steps) =
      steps.countP accepts + 1 := by
  simp [List.countP_cons, PollStep.accepts]

/-- A round that comes to a number gave so many jobs to the pool. -/
theorem eq_accepts (h : Round room steps r) {n : Nat} (hn : r = .ok n) :
    n = steps.countP accepts := by
  induction h generalizing n with
  | full | busy | nothing | unfetched =>
    cases hn
    rfl
  | refused room job e stored =>
    cases stored <;> cases hn
    rfl
  | @accepted room job steps r rest ih =>
    cases r with
    | error f => cases hn
    | ok k =>
      cases hn
      rw [countP_accepts, ih rfl]
      exact Nat.add_comm 1 _

theorem accepts_le (h : Round room steps r) : steps.countP accepts ≤ room := by
  induction h with
  | full | busy | nothing | unfetched | refused => exact Nat.zero_le _
  | accepted job rest ih =>
    rw [countP_accepts]
    exact Nat.succ_le_succ ih

theorem length_le (h : Round room steps r) : steps.length ≤ 3 * room + 1 := by
  induction h <;> simp only [List.length_cons, List.length_nil] <;> omega

/-- A round ends with an error exactly if it is the one of its report. -/
theorem error_iff (h : Round room steps r) (f : FatalError) :
    r = .error f ↔ ∃ job, .reported job (.error f) ∈ steps := by
  induction h with
  | full | busy | nothing | unfetched => simp
  | refused room job e stored => cases stored <;> simp [Except.map, eq_comm]
  | @accepted room job steps r rest ih =>
    rw [← (show r.map (1 + ·) = .error f ↔ r = .error f by cases r <;> simp [Except.map])] at ih
    simpa using ih

end Round

/-- A poll asks for a job only where it belongs, gives every job that it gets to the pool and
reports exactly those that the pool refuses, as failed. It comes to the number of jobs that the pool
accepted, which are not more than its size, unless such a report turns fatal. -/
theorem Surroundings.poll_round (x : Surroundings) (size : Nat) :
    ∃ log r, (x.dispatch size).poll.run [] = (r, log) ∧
      (∀ before s after, log = before ++ s :: after → s.Belongs size before after) ∧
      (∀ n, r = .ok n → n = log.countP accepts) ∧
      log.countP accepts ≤ size ∧
      (∀ f, r = .error f ↔ ∃ job, .reported job (.error f) ∈ log) ∧
      log.length ≤ 3 * size + 1 := by
  let run := (x.dispatch size).poll.run []
  obtain ⟨steps, n, logged, counted, round⟩ :=
    round_of_pollFrom (show ((x.dispatch size).pollFrom size 0).run [] = (run.1, run.2) from rfl)
  have same : run.1 = n := by
    rw [counted]
    cases n with
    | ok n => exact congrArg Except.ok (Nat.zero_add n)
    | error f => rfl
  refine ⟨steps, n, Prod.ext same logged, ?_, fun _ => round.eq_accepts, round.accepts_le,
    round.error_iff, round.length_le⟩
  rintro before s after rfl
  have nothingYet : ([] : List PollStep).countP accepts + size ≤ size := by simp
  exact (round.belongs nothingYet fun _ h => absurd h List.not_mem_nil).split

end JobDispatch

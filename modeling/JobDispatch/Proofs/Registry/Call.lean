import JobDispatch.Proofs.Job.Change
import JobDispatch.Proofs.Store.Identity
import JobDispatch.Proofs.Store.Repository
import JobDispatch.Registry.Jobs

/-!
Calls of the registry that concern jobs, on a repository in memory. A call can be made as a whole,
or in the steps that others can come between: a patch retrieves the job first and updates it in a
second step, every other call is a single step.
-/

namespace JobDispatch

namespace Jobs

/-- A repository in memory: none of its calls fails of itself. -/
def inMemory (s : Store JobValue) : Repository JobValue := ⟨s, []⟩

@[simp]
theorem inMemory_store (s : Store JobValue) : (inMemory s).store = s := rfl

theorem launch_perform (now : Time.Instant) (req : CreateJob) (s : Store JobValue) :
    (launch now req).perform (inMemory s) =
      match (JobCreation.mk req.value).objection with
      | some o => (.error (.refused o), inMemory s)
      | none =>
        let created := s.create ((JobCreation.mk req.value).appliedAt now)
        (.ok created.1, inMemory created.2) := by
  cases h : (JobCreation.mk req.value).objection <;>
    simp [launch, h, inMemory, Repository.create, Except.mapError]

theorem get_perform (id : String) (s : Store JobValue) :
    (get id).perform (inMemory s) =
      match s.retrieve id with
      | some job => (.ok job, inMemory s)
      | none => (.error (.notFound id), inMemory s) := by
  cases h : s.retrieve id <;>
    simp [get, h, inMemory, Repository.retrieve, Except.mapError]

theorem update_perform (job : Job) (value : JobValue) (s : Store JobValue) :
    (Action.rephrase JobError.ofStore (Repository.update job value)).perform (inMemory s) =
      match s.update job value with
      | .ok (new, t) => (.ok new, inMemory t)
      | .error e => (.error (.ofStore e), inMemory s) := by
  cases h : s.update job value <;> simp [h, inMemory, Repository.update, Except.mapError]

theorem search_perform (q : JobQuery) (start stop : Nat) (s : Store JobValue) :
    (search q start stop).perform (inMemory s) =
      (.ok (s.search q.filter start stop), inMemory s) := by
  simp [search, inMemory, Repository.search, Except.mapError]

/-- With nothing in between a patch is computed from the stored job and replaces it. -/
theorem patch_perform (now : Time.Instant) (id : String) (p : JobPatch) (s : Store JobValue) :
    (patch now id p).perform (inMemory s) =
      match s.retrieve id with
      | none => (.error (.notFound id), inMemory s)
      | some job =>
        match checkPatch now job p with
        | .error e => (.error e, inMemory s)
        | .ok value =>
          (.ok ⟨id, job.version + 1, value⟩, inMemory (s.put ⟨id, job.version + 1, value⟩)) := by
  simp only [patch, Action.perform_bind, get_perform]
  cases h : s.retrieve id with
  | none => rfl
  | some job =>
    obtain ⟨-, rfl⟩ := Store.retrieve_mem h
    cases hc : checkPatch now job p with
    | error e => simp [hc]
    | ok value =>
      have hu := Store.update_eq s job job value h
      rw [if_pos rfl] at hu
      simp only [hc, update_perform, hu]

end Jobs

/-- A call that concerns jobs, with the instant that it captured. -/
inductive JobCall where
  | launch (now : Time.Instant) (req : CreateJob)
  | patch (now : Time.Instant) (id : String) (p : JobPatch)
  | search (q : JobQuery) (start stop : Nat)
  /-- the cleaner deletes what a filter accepts -/
  | purge (f : Filter)

inductive JobReply where
  | launched (r : Except JobError Job)
  | patched (r : Except JobError Job)
  | found (r : Except JobError (Page Job))
  | purged (r : Except StoreError Nat)

/-- The job as it is stored by a call that changed one. -/
def JobReply.job? : JobReply → Option Job
  | launched (.ok job) => some job
  | patched (.ok job) => some job
  | _ => none

/-- How far a call is; between its two steps a patch holds the job that it retrieved and the
value that is to be stored for it. -/
inductive CallAt where
  | entered
  | checked (job : Job) (value : JobValue)
  | returned (r : JobReply)

namespace JobCall

open Jobs

/-- What comes of an action on a repository in memory, as a reply. -/
def answer {ε β : Type} (s : Store JobValue) (reply : Except ε β → JobReply)
    (a : Action (Repository JobValue) ε β) : JobReply × Store JobValue :=
  let (r, repository) := a.perform (inMemory s)
  (reply r, repository.store)

/-- A call made as a whole, with nothing in between. -/
def whole (s : Store JobValue) : JobCall → JobReply × Store JobValue
  | launch now req => answer s .launched (Jobs.launch now req)
  | patch now id p => answer s .patched (Jobs.patch now id p)
  | search q start stop => answer s .found (Jobs.search q start stop)
  | purge f => answer s .purged (Repository.deleteFrom f)

/-- The first step of a patch. -/
def check (s : Store JobValue) (now : Time.Instant) (id : String) (p : JobPatch) :
    CallAt × Store JobValue :=
  match (Jobs.get id).perform (inMemory s) with
  | (.error e, repository) => (.returned (.patched (.error e)), repository.store)
  | (.ok job, repository) =>
    match checkPatch now job p with
    | .error e => (.returned (.patched (.error e)), repository.store)
    | .ok value => (.checked job value, repository.store)

/-- The next step of a call. -/
def step (s : Store JobValue) (c : JobCall) : CallAt → Option (CallAt × Store JobValue)
  | .entered =>
    match c with
    | patch now id p => some (check s now id p)
    | c => some (.returned (c.whole s).1, (c.whole s).2)
  | .checked job value =>
    let (r, t) := answer s .patched (Action.rephrase .ofStore (Repository.update job value))
    some (.returned r, t)
  | .returned _ => none

/-- What a call can do to the stored jobs, and the reply it then gives. -/
inductive Effect (s : Store JobValue) : JobCall → JobReply → Store JobValue → Prop
  | created (now : Time.Instant) (req : CreateJob)
      (valid : (JobCreation.mk req.value).objection = none) :
      Effect s (.launch now req)
        (.launched (.ok (s.create ((JobCreation.mk req.value).appliedAt now)).1))
        (s.create ((JobCreation.mk req.value).appliedAt now)).2
  | changed (now : Time.Instant) (id : String) (p : JobPatch) (job : Job) (value : JobValue)
      (stored : s.retrieve id = some job) (accepted : checkPatch now job p = .ok value) :
      Effect s (.patch now id p) (.patched (.ok ⟨id, job.version + 1, value⟩))
        (s.put ⟨id, job.version + 1, value⟩)
  | deleted (f : Filter) : Effect s (.purge f) (.purged (.ok (s.deleteFrom f).1)) (s.deleteFrom f).2
  | kept (c : JobCall) (r : JobReply) (none : r.job? = none) : Effect s c r s

theorem patch_whole (s : Store JobValue) (now : Time.Instant) (id : String) (p : JobPatch) :
    (patch now id p).whole s =
      match s.retrieve id with
      | none => (.patched (.error (.notFound id)), s)
      | some job =>
        match checkPatch now job p with
        | .error e => (.patched (.error e), s)
        | .ok value =>
          (.patched (.ok ⟨id, job.version + 1, value⟩), s.put ⟨id, job.version + 1, value⟩) := by
  simp only [whole, answer, patch_perform]
  cases s.retrieve id with
  | none => rfl
  | some job => cases hc : checkPatch now job p <;> simp [hc]

theorem whole_effect (s : Store JobValue) (c : JobCall) :
    Effect s c (c.whole s).1 (c.whole s).2 := by
  cases c with
  | launch now req =>
    simp only [whole, answer, launch_perform]
    cases h : (JobCreation.mk req.value).objection with
    | some o => exact .kept _ _ rfl
    | none => exact .created now req h
  | patch now id p =>
    rw [patch_whole]
    cases h : s.retrieve id with
    | none => exact .kept _ _ rfl
    | some job =>
      cases hc : checkPatch now job p with
      | error e => simpa only [hc] using .kept _ _ rfl
      | ok value => simpa only [hc] using .changed now id p job value h hc
  | search q start stop =>
    simp only [whole, answer, search_perform]
    exact .kept _ _ rfl
  | purge f => exact .deleted f

/-- A patch that is refused changes nothing. -/
theorem Effect.eq_of_refused {s t : Store JobValue} {c : JobCall} {e : JobError}
    (h : Effect s c (.patched (.error e)) t) : t = s := by
  cases h with
  | kept => rfl

/-- What an accepted patch was computed from, and what it stores. -/
theorem Effect.of_accepted {s t : Store JobValue} {now : Time.Instant} {id : String} {p : JobPatch}
    {new : Job} (h : Effect s (.patch now id p) (.patched (.ok new)) t) :
    ∃ job value, s.retrieve id = some job ∧ checkPatch now job p = .ok value ∧
      new = ⟨id, job.version + 1, value⟩ ∧ t = s.put new := by
  cases h with
  | changed _ _ _ job value stored accepted => exact ⟨job, value, stored, accepted, rfl, rfl⟩
  | kept _ _ none => simp [JobReply.job?] at none

theorem Effect.sound {s t : Store JobValue} {c : JobCall} {r : JobReply} (h : Effect s c r t)
    (hs : s.Sound) : t.Sound := by
  cases h with
  | created => exact hs.create _
  | changed => exact hs.put _
  | deleted f => exact hs.deleteFrom f
  | kept => exact hs

theorem Effect.grows {s t : Store JobValue} {c : JobCall} {r : JobReply} (h : Effect s c r t)
    (hs : s.Sound) : s.Grows t := by
  cases h with
  | created => exact Store.grows_create s _
  | changed now id p job value stored accepted =>
    exact Store.grows_put s job _ stored (Nat.lt_succ_self _)
  | deleted f => exact Store.grows_deleteFrom s hs f
  | kept => exact .refl s

/-- Only a call that deletes makes a job disappear. -/
theorem Effect.purge_of_absent {s t : Store JobValue} {c : JobCall} {r : JobReply} {id : String}
    (h : Effect s c r t) (before : s.retrieve id ≠ none) (after : t.retrieve id = none) :
    ∃ f, c = .purge f := by
  cases h with
  | created now req valid =>
    rw [Store.retrieve_create] at after
    exact absurd (Option.or_eq_none_iff.mp after).1 before
  | changed now id' p job value stored accepted =>
    rw [Store.retrieve_put] at after
    exact absurd (Option.map_eq_none_iff.mp after) before
  | deleted f => exact ⟨f, rfl⟩
  | kept => exact absurd after before

/-- What holds of all stored jobs still does after a call, if it holds of a new one and of what the
call's patch makes of a stored one. -/
theorem Effect.forall_jobs {s t : Store JobValue} {c : JobCall} {r : JobReply} {Q : Job → Prop}
    (h : Effect s c r t)
    (new : ∀ now req, c = .launch now req →
      Q (s.create ((JobCreation.mk req.value).appliedAt now)).1)
    (patched : ∀ now id p job value, c = .patch now id p → s.retrieve id = some job →
      checkPatch now job p = .ok value → Q ⟨id, job.version + 1, value⟩)
    (before : ∀ job ∈ s.entities, Q job) : ∀ job ∈ t.entities, Q job := by
  intro d hd
  cases h with
  | created now req valid =>
    rcases List.mem_append.mp hd with hd | hd
    · exact before d hd
    · rw [List.mem_singleton.mp hd]
      exact new now req rfl
  | changed now id p job value stored accepted =>
    rcases Store.mem_replace hd with rfl | hd
    · exact patched now id p job value rfl stored accepted
    · exact before d hd
  | deleted f => exact before d (List.mem_filter.mp hd).1
  | kept => exact before d hd

end JobCall

end JobDispatch

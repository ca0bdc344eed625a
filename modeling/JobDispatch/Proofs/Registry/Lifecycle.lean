import JobDispatch.Proofs.Registry.Progress
import JobDispatch.Registry.Cleaner
import Mathlib.Data.List.Induction

/-!
The lives of the jobs of a registry that was empty at first. A job is meant to be pending, running
and done in this order, with an exit status if and only if it is done. Which patches break this is
told exactly: the rules do not refuse all of them.
-/

namespace JobDispatch

/-- What happens to the jobs of a registry. -/
inductive RegistryEvent where
  | launch (now : Time.Instant) (req : CreateJob)
  | patch (now : Time.Instant) (id : String) (p : JobPatch)
  | clean (keep : Retention) (now : Time.Instant)

def RegistryEvent.call : RegistryEvent → JobCall
  | launch now req => .launch now req
  | patch now id p => .patch now id p
  | clean keep now => .purge (keep.expiredJobs now)

theorem RegistryEvent.eq_launch_of_call {e : RegistryEvent} {now : Time.Instant} {req : CreateJob}
    (h : e.call = .launch now req) : e = .launch now req := by
  cases e with
  | launch => cases h; rfl
  | _ => cases h

theorem RegistryEvent.eq_patch_of_call {e : RegistryEvent} {now : Time.Instant} {id : String}
    {p : JobPatch} (h : e.call = .patch now id p) : e = .patch now id p := by
  cases e with
  | patch => cases h; rfl
  | _ => cases h

/-- Whether the exit status is set if and only if the job is done. -/
def JobStatus.Settled (st : JobStatus) : Prop := st.exit ≠ none ↔ st.run = some .done

instance (st : JobStatus) : Decidable st.Settled := inferInstanceAs (Decidable (_ ↔ _))

/-- A patch that is not refused although its status is not settled: an exit status comes before the
job is done, or none comes for a job that is done without having run. -/
def JobPatch.Unsettles (p : JobPatch) (job : Job) : Prop :=
  job.version = p.version ∧ job.value.status.run ≠ some .done ∧
    ∃ st, p.status = some st ∧ ¬ st.Settled ∧
      (job.value.status.run = some .running → st.run ≠ some .running ∧ st.run ≠ some .done)

def JobCall.Unsettles (s : Store JobValue) : JobCall → Prop
  | patch _ id p => ∃ job, s.retrieve id = some job ∧ p.Unsettles job
  | _ => False

namespace Jobs

/-- An accepted patch of a settled job leaves it settled, or is one that unsettles it. -/
theorem checkPatch_settled {now : Time.Instant} {job : Job} {p : JobPatch} {value : JobValue}
    (accepted : checkPatch now job p = .ok value) (settled : job.value.status.Settled)
    (kept : ¬ p.Unsettles job) : value.status.Settled := by
  obtain ⟨version, -⟩ := (checkPatch_eq_ok_iff now job p value).mp accepted
  obtain ⟨status, open_, running⟩ := checkPatch_status accepted
  cases hp : p.status with
  | none =>
    rw [status, hp]
    exact settled
  | some st =>
    have hst : value.status = st := by rw [status, hp]; rfl
    rw [hst] at running ⊢
    by_contra unsettled
    refine kept ⟨version, open_, st, hp, unsettled, ?_⟩
    intro hr
    refine ⟨(running hr).1, ?_⟩
    intro hd
    exact unsettled ⟨fun _ => hd, fun _ => (running hr).2 hd⟩

theorem checkPatch_of_unsettles (now : Time.Instant) {job : Job} {p : JobPatch}
    (h : p.Unsettles job) :
    ∃ value, checkPatch now job p = .ok value ∧ ¬ value.status.Settled := by
  obtain ⟨version, open_, st, hp, unsettled, running⟩ := h
  have status : (p.applyTo job.value).status = st := by
    rw [JobPatch.applyTo_status, hp]
    rfl
  have unopposed : (JobChange.mk job.value (p.applyTo job.value)).objection = none := by
    rw [JobChange.objection_eq_none_iff]
    refine ⟨open_, ?_⟩
    intro hr
    rw [status]
    exact ⟨(running hr).1, fun hd => absurd hd (running hr).2⟩
  refine ⟨_, (checkPatch_eq_ok_iff now job p _).mpr ⟨version, unopposed, rfl⟩, ?_⟩
  rwa [JobChange.appliedAt_status, status]

end Jobs

namespace Registry

def react (r : Registry) : RegistryEvent → Registry
  | .launch now req => ((onJobs (Jobs.launch now req)).perform r).2
  | .patch now id p => ((onJobs (Jobs.patch now id p)).perform r).2
  | .clean keep now => ((clean keep now).run r).2

/-- What becomes of an empty registry. -/
def run (es : List RegistryEvent) : Registry := es.foldl react empty

theorem run_snoc (es : List RegistryEvent) (e : RegistryEvent) :
    run (es ++ [e]) = (run es).react e := by
  rw [run, List.foldl_append]
  rfl

/-- An event does to the jobs what its call does, and no call fails of itself. -/
theorem react_jobs {r : Registry} {s : Store JobValue} (h : r.jobs = Jobs.inMemory s)
    (e : RegistryEvent) : (r.react e).jobs = Jobs.inMemory (e.call.whole s).2 := by
  cases e with
  | launch now req =>
    change ((Jobs.launch now req).perform r.jobs).2 = _
    simp only [RegistryEvent.call, JobCall.whole, JobCall.answer, h, Jobs.launch_perform]
    cases (JobCreation.mk req.value).objection <;> rfl
  | patch now id p =>
    change ((Jobs.patch now id p).perform r.jobs).2 = _
    simp only [RegistryEvent.call, JobCall.whole, JobCall.answer, h, Jobs.patch_perform]
    cases s.retrieve id with
    | none => rfl
    | some job => cases hc : Jobs.checkPatch now job p <;> simp [hc]
  | clean keep now =>
    change ((Repository.deleteFrom (keep.expiredJobs now)).perform r.jobs).2 = _
    rw [h]
    rfl

/-- The jobs that are stored after a run. -/
def stored (es : List RegistryEvent) : Store JobValue := (run es).jobs.store

theorem run_jobs (es : List RegistryEvent) : (run es).jobs = Jobs.inMemory (stored es) := by
  induction es using List.reverseRecOn with
  | nil => rfl
  | append_singleton es e ih =>
    have after := react_jobs ih e
    rw [stored, run_snoc, after]
    rfl

theorem stored_snoc (es : List RegistryEvent) (e : RegistryEvent) :
    stored (es ++ [e]) = (e.call.whole (stored es)).2 := by
  rw [stored, run_snoc, react_jobs (run_jobs es) e]
  rfl

theorem stored_effect (es : List RegistryEvent) (e : RegistryEvent) :
    e.call.Effect (stored es) (e.call.whole (stored es)).1 (stored (es ++ [e])) := by
  rw [stored_snoc]
  exact JobCall.whole_effect (stored es) e.call

theorem stored_sound (es : List RegistryEvent) : (stored es).Sound := by
  induction es using List.reverseRecOn with
  | nil => exact Store.sound_empty "J"
  | append_singleton es e ih => exact (stored_effect es e).sound ih

/-- A patch that is accepted replaces the stored job. -/
theorem stored_patch {es : List RegistryEvent} {now : Time.Instant} {id : String} {p : JobPatch}
    {job : Job} {value : JobValue} (found : (stored es).retrieve id = some job)
    (accepted : Jobs.checkPatch now job p = .ok value) :
    (stored (es ++ [.patch now id p])).retrieve id = some ⟨id, job.version + 1, value⟩ := by
  rw [stored_snoc, RegistryEvent.call, JobCall.patch_whole]
  simp [found, accepted, Store.retrieve_put]

/-- Jobs that move forward throughout a run: what is stored has a run status at every moment, and
at a later moment the same run status or a later one. -/
structure Forward (es : List RegistryEvent) : Prop where
  present : ∀ ds, ds <+: es → ∀ job ∈ (stored ds).entities, job.value.status.run ≠ none
  ahead : ∀ ds fs, ds <+: fs → fs <+: es → ∀ id old new,
    (stored ds).retrieve id = some old → (stored fs).retrieve id = some new →
    ∀ a b, old.value.status.run = some a → new.value.status.run = some b → a.rank ≤ b.rank

/-- What holds of all stored jobs, if it holds of new ones and every patch keeps it. -/
theorem forall_jobs {Q : Job → Prop} {es : List RegistryEvent}
    (new : ∀ id now (req : CreateJob), Q ⟨id, 1, (JobCreation.mk req.value).appliedAt now⟩)
    (patched : ∀ ds now id p job value, ds ++ [.patch now id p] <+: es →
      (stored ds).retrieve id = some job → Q job →
      Jobs.checkPatch now job p = .ok value → Q ⟨id, job.version + 1, value⟩) :
    ∀ job ∈ (stored es).entities, Q job := by
  induction es using List.reverseRecOn with
  | nil => exact fun job hjob => absurd hjob List.not_mem_nil
  | append_singleton es e ih =>
    have before := ih fun ds now id p job value h =>
      patched ds now id p job value (h.trans (List.prefix_append es [e]))
    refine (stored_effect es e).forall_jobs (fun now req _ => new _ now req) ?_ before
    intro now id p job value hc found
    obtain rfl := RegistryEvent.eq_patch_of_call hc
    exact patched es now id p job value List.prefix_rfl found
      (before job (Store.retrieve_mem found).1)

/-- What holds of all stored statuses, if it holds of a new one and every patch keeps it. -/
theorem forall_stored {Q : JobStatus → Prop} {es : List RegistryEvent} (new : Q .pending)
    (patched : ∀ ds now id p job value, ds ++ [.patch now id p] <+: es →
      (stored ds).retrieve id = some job → Q job.value.status →
      Jobs.checkPatch now job p = .ok value → Q value.status) :
    ∀ job ∈ (stored es).entities, Q job.value.status :=
  forall_jobs (Q := fun job => Q job.value.status) (fun _ _ _ => new) patched

/-- What lasts under an identity, if no patch of the job ends it. -/
theorem lasting_append {ds gs : List RegistryEvent} {id : String} {Q : Job → Prop}
    (h : Lasting (stored ds) id Q)
    (patched : ∀ fs now p job value, fs ++ [.patch now id p] <+: ds ++ gs →
      (stored fs).retrieve id = some job → Jobs.checkPatch now job p = .ok value → Q job →
      Q ⟨id, job.version + 1, value⟩) :
    Lasting (stored (ds ++ gs)) id Q := by
  induction gs using List.reverseRecOn with
  | nil => simpa using h
  | append_singleton gs e ih =>
    rw [← List.append_assoc] at patched ⊢
    have before := ih fun fs now p job value hf =>
      patched fs now p job value (hf.trans (List.prefix_append _ [e]))
    refine before.effect (stored_sound _) (stored_effect (ds ++ gs) e) ?_
    intro now p job value hc
    obtain rfl := RegistryEvent.eq_patch_of_call hc
    exact patched (ds ++ gs) now p job value List.prefix_rfl

/-- As long as no call takes a job back, every job is at least as far as it was before. -/
theorem reached_append {ds gs : List RegistryEvent} {id : String} {a : RunStatus}
    (h : Reached (stored ds) id a)
    (forth : ∀ fs e, fs ++ [e] <+: ds ++ gs → ¬ e.call.TakesBack (stored fs)) :
    Reached (stored (ds ++ gs)) id a := by
  refine reached_iff.mpr (lasting_append (reached_iff.mp h) ?_)
  intro fs now p job value hf found accepted reached
  exact checkPatch_reached accepted (fun back => forth fs _ hf ⟨job, found, back⟩) reached

/-- The jobs of a registry move forward if and only if no patch comes that takes one back. -/
theorem forward_iff (es : List RegistryEvent) :
    Forward es ↔ ∀ ds e, ds ++ [e] <+: es → ¬ e.call.TakesBack (stored ds) := by
  constructor
  · intro h ds e hds back
    cases e with
    | patch now id p =>
      obtain ⟨job, found, back⟩ := back
      obtain ⟨value, accepted, none | ⟨running, pending⟩⟩ :=
        Jobs.checkPatch_of_takesBack now back
      · have new := stored_patch found accepted
        exact h.present _ hds _ (Store.retrieve_mem new).1 none
      · have new := stored_patch found accepted
        have ahead := h.ahead ds _ (List.prefix_append ds _) hds id job _ found new _ _ running
          pending
        cases ahead
    | _ => exact back
  · intro forth
    refine ⟨?_, ?_⟩
    · intro ds hds
      refine forall_stored (Q := fun st => st.run ≠ none) (by decide) ?_
      intro gs now id p job value hgs found present accepted
      obtain ⟨a, ha⟩ := Option.ne_none_iff_exists'.mp present
      have kept : ¬ p.TakesBack job := fun back =>
        forth gs _ (hgs.trans hds) ⟨job, found, back⟩
      obtain ⟨b, hb, -⟩ := Jobs.checkPatch_rank accepted kept ha
      simp [hb]
    · intro ds fs hdf hfs id old new hold hnew a b ha hb
      obtain ⟨gs, rfl⟩ := hdf
      have reached := reached_append (reached_of_retrieve (stored_sound ds) hold ha)
        fun fs e he => forth fs e (he.trans hfs)
      obtain ⟨c, hc, hac⟩ := reached.beyond new hnew
      obtain rfl : c = b := Option.some.inj (hc.symm.trans hb)
      exact hac

/-- A reserved job runs, and a patch makes it pending again. -/
theorem not_forward_rewound :
    ¬ Forward ([.launch .epoch ⟨some "n", some "c", some "a", []⟩,
      .patch .epoch "J1" (.reserve 1)] ++ [.patch .epoch "J1" ⟨2, some .pending, none⟩]) := by
  intro h
  have running : ((stored [.launch .epoch ⟨some "n", some "c", some "a", []⟩,
      .patch .epoch "J1" (.reserve 1)]).retrieve "J1").map (fun job => job.value.status.run) =
      some (some .running) := by decide +kernel
  have pending : ((stored ([.launch .epoch ⟨some "n", some "c", some "a", []⟩,
      .patch .epoch "J1" (.reserve 1)] ++
      [.patch .epoch "J1" ⟨2, some .pending, none⟩])).retrieve "J1").map
      (fun job => job.value.status.run) = some (some .pending) := by decide +kernel
  obtain ⟨old, hold, ho⟩ := Option.map_eq_some_iff.mp running
  obtain ⟨new, hnew, hn⟩ := Option.map_eq_some_iff.mp pending
  cases h.ahead _ _ (List.prefix_append _ _) List.prefix_rfl "J1" old new hold hnew _ _ ho hn

/-- The jobs of a registry have an exit status if and only if they are done, unless a patch comes
that unsettles one. -/
theorem settled_iff (es : List RegistryEvent) :
    (∀ ds, ds <+: es → ∀ job ∈ (stored ds).entities, job.value.status.Settled) ↔
      ∀ ds e, ds ++ [e] <+: es → ¬ e.call.Unsettles (stored ds) := by
  constructor
  · intro h ds e hds back
    cases e with
    | patch now id p =>
      obtain ⟨job, found, back⟩ := back
      obtain ⟨value, accepted, unsettled⟩ := Jobs.checkPatch_of_unsettles now back
      have new := stored_patch found accepted
      exact unsettled (h _ hds _ (Store.retrieve_mem new).1)
    | _ => exact back
  · intro kept ds hds
    refine forall_stored (Q := JobStatus.Settled) (by decide) ?_
    intro gs now id p job value hgs found settled accepted
    exact Jobs.checkPatch_settled accepted settled fun h =>
      kept gs _ (hgs.trans hds) ⟨job, found, h⟩

/-- A job is done without having run, and has no exit status. -/
theorem not_settled_skipped :
    ¬ ∀ job ∈ (stored [.launch .epoch ⟨some "n", some "c", some "a", []⟩,
      .patch .epoch "J1" ⟨1, some ⟨some .done, none⟩, none⟩]).entities,
      job.value.status.Settled := by
  decide +kernel

end Registry

end JobDispatch

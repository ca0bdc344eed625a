import JobDispatch.Proofs.Registry.Lifecycle

/-!
The starts of the jobs of a registry. A job that runs is meant to be stamped with the instant at
which it was started, and to keep that stamp. Which patches break this is told exactly: they reach
the running state from where no stamp is made, or come to it a second time.
-/

namespace JobDispatch

/-- A patch that is not refused although it starts a job badly: without a stamp, because the job had
no run status before, or with another stamp than the job has already. -/
def JobPatch.Misstarts (p : JobPatch) (now : Time.Instant) (job : Job) : Prop :=
  job.version = p.version ∧ p.status.bind JobStatus.run = some .running ∧
    ((job.value.status.run = none ∧ job.value.processing.started = none) ∨
      (job.value.status.run = some .pending ∧
        ∃ t, job.value.processing.started = some t ∧ t ≠ now))

def JobCall.Misstarts (s : Store JobValue) : JobCall → Prop
  | patch now id p => ∃ job, s.retrieve id = some job ∧ p.Misstarts now job
  | _ => False

namespace Jobs

/-- A patch that makes a job run says so itself: a running job is not patched to run. -/
theorem run_of_checkPatch {now : Time.Instant} {job : Job} {p : JobPatch} {value : JobValue}
    (accepted : checkPatch now job p = .ok value) (runs : value.status.run = some .running) :
    p.status.bind JobStatus.run = some .running ∧
      (job.value.status.run = none ∨ job.value.status.run = some .pending) := by
  obtain ⟨status, open_, running⟩ := checkPatch_status accepted
  have idle : job.value.status.run ≠ some .running := fun h => (running h).1 runs
  refine ⟨?_, ?_⟩
  · cases hp : p.status with
    | none =>
      rw [status, hp] at runs
      exact absurd runs idle
    | some st =>
      rw [status, hp] at runs
      exact runs
  · cases h : job.value.status.run with
    | none => exact .inl rfl
    | some a =>
      cases a with
      | pending => exact .inr rfl
      | running => exact absurd h idle
      | done => exact absurd h open_

/-- An accepted patch that does not start its job badly leaves the stamp that the job has, and a job
that runs has one. -/
theorem checkPatch_started {now : Time.Instant} {job : Job} {p : JobPatch} {value : JobValue}
    (accepted : checkPatch now job p = .ok value) (well : ¬ p.Misstarts now job) :
    (∀ t, job.value.processing.started = some t → value.processing.started = some t) ∧
      (value.status.run = some .running → value.processing.started ≠ none) := by
  obtain ⟨version, -⟩ := (checkPatch_eq_ok_iff now job p value).mp accepted
  have started := congrArg Processing.started (checkPatch_processing accepted)
  simp only at started
  by_cases runs : value.status.run = some .running
  · obtain ⟨wanted, none | pending⟩ := run_of_checkPatch accepted runs
    · have stays : value.processing.started = job.value.processing.started := by
        simpa [none] using started
      have stamped : job.value.processing.started ≠ .none := fun h =>
        well ⟨version, wanted, .inl ⟨none, h⟩⟩
      rw [stays]
      exact ⟨fun t ht => ht, fun _ => stamped⟩
    · rw [if_pos ⟨pending, runs⟩] at started
      refine ⟨?_, fun _ => by simp [started]⟩
      intro t ht
      have same : t = now := by
        by_contra other
        exact well ⟨version, wanted, .inr ⟨pending, t, ht, other⟩⟩
      rw [started, same]
  · rw [if_neg fun h => runs h.2] at started
    exact ⟨fun t ht => started.trans ht, fun h => absurd h runs⟩

/-- A patch that starts a job badly is accepted. -/
theorem checkPatch_of_misstarts {now : Time.Instant} {job : Job} {p : JobPatch}
    (h : p.Misstarts now job) : ∃ value, checkPatch now job p = .ok value ∧
      ((value.status.run = some .running ∧ value.processing.started = none) ∨
        ∃ t, job.value.processing.started = some t ∧ value.processing.started ≠ some t) := by
  obtain ⟨version, wanted, badly⟩ := h
  obtain ⟨st, hp, runs⟩ := Option.bind_eq_some_iff.mp wanted
  have status : (p.applyTo job.value).status = st := by
    rw [JobPatch.applyTo_status, hp]
    rfl
  have unopposed : (JobChange.mk job.value (p.applyTo job.value)).objection = none := by
    rw [JobChange.objection_eq_none_iff]
    rcases badly with ⟨none, -⟩ | ⟨pending, -⟩
    · simp [none]
    · simp [pending]
  have accepted := (checkPatch_eq_ok_iff now job p _).mpr ⟨version, unopposed, rfl⟩
  refine ⟨_, accepted, ?_⟩
  have now_runs : (JobChange.appliedAt ⟨job.value, p.applyTo job.value⟩ now).status.run =
      some .running := by
    rw [JobChange.appliedAt_status, status]
    exact runs
  have started := congrArg Processing.started (checkPatch_processing accepted)
  simp only at started
  rcases badly with ⟨none, unstamped⟩ | ⟨pending, t, ht, other⟩
  · refine .inl ⟨now_runs, ?_⟩
    rw [started, if_neg (by simp [none])]
    exact unstamped
  · refine .inr ⟨t, ht, ?_⟩
    rw [started, if_pos ⟨pending, now_runs⟩]
    exact fun h => other (Option.some.inj h).symm

end Jobs

namespace Registry

/-- Jobs that are started properly throughout a run: whatever runs has been stamped, and a stamp
stays as it is. -/
structure Stamped (es : List RegistryEvent) : Prop where
  present : ∀ ds, ds <+: es → ∀ job ∈ (stored ds).entities,
    job.value.status.run = some .running → job.value.processing.started ≠ none
  once : ∀ ds fs, ds <+: fs → fs <+: es → ∀ id old new,
    (stored ds).retrieve id = some old → (stored fs).retrieve id = some new →
    ∀ t, old.value.processing.started = some t → new.value.processing.started = some t

/-- The jobs of a registry are started properly if and only if no patch comes that starts one
badly. -/
theorem stamped_iff (es : List RegistryEvent) :
    Stamped es ↔ ∀ ds e, ds ++ [e] <+: es → ¬ e.call.Misstarts (stored ds) := by
  constructor
  · intro h ds e hds badly
    cases e with
    | patch now id p =>
      obtain ⟨job, found, badly⟩ := badly
      obtain ⟨value, accepted, ⟨runs, unstamped⟩ | ⟨t, ht, moved⟩⟩ :=
        Jobs.checkPatch_of_misstarts badly
      · have new := stored_patch found accepted
        exact h.present _ hds _ (Store.retrieve_mem new).1 runs unstamped
      · have new := stored_patch found accepted
        exact moved (h.once ds _ (List.prefix_append ds _) hds id job _ found new t ht)
    | _ => exact badly
  · intro well
    have patched (ds : List RegistryEvent) (now : Time.Instant) (id : String) (p : JobPatch)
        (job : Job) (value : JobValue) (hds : ds ++ [.patch now id p] <+: es)
        (found : (stored ds).retrieve id = some job)
        (accepted : Jobs.checkPatch now job p = .ok value) :=
      Jobs.checkPatch_started accepted fun badly =>
        well ds (.patch now id p) hds ⟨job, found, badly⟩
    refine ⟨?_, ?_⟩
    · intro ds hds
      refine forall_jobs (Q := fun job =>
        job.value.status.run = some .running → job.value.processing.started ≠ none) ?_ ?_
      · intro id now req runs
        cases runs
      · intro gs now id p job value hgs found _ accepted
        exact (patched gs now id p job value (hgs.trans hds) found accepted).2
    · intro ds fs hdf hfs id old new hold hnew t ht
      obtain ⟨gs, rfl⟩ := hdf
      refine (lasting_append (Q := fun job => job.value.processing.started = some t)
        (lasting_of_retrieve (stored_sound ds) hold ht) ?_).stored new hnew
      intro fs now p job value hf found accepted stamped
      exact (patched fs now id p job value (hf.trans hfs) found accepted).1 t stamped

/-- A job loses its run status and runs then, and has not been stamped. -/
theorem not_stamped_revived :
    ¬ Stamped [.launch .epoch ⟨some "n", some "c", some "a", []⟩,
      .patch .epoch "J1" ⟨1, some ⟨none, none⟩, none⟩, .patch .epoch "J1" (.reserve 2)] := by
  intro h
  have unstamped : ∃ job ∈ (stored [.launch .epoch ⟨some "n", some "c", some "a", []⟩,
      .patch .epoch "J1" ⟨1, some ⟨none, none⟩, none⟩, .patch .epoch "J1" (.reserve 2)]).entities,
      job.value.status.run = some .running ∧ job.value.processing.started = none := by
    decide +kernel
  obtain ⟨job, hjob, runs, none⟩ := unstamped
  exact h.present _ List.prefix_rfl job hjob runs none

end Registry

end JobDispatch

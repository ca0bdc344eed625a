import JobDispatch.Proofs.Registry.Lifecycle

/-!
Jobs that run stay as they are until somebody patches them: nobody else changes them, and the
cleaner deletes only what is done.
-/

namespace JobDispatch

/-- The cleaner accepts no job for deletion that is not done. -/
theorem Retention.not_accepts_expiredJobs (keep : Retention) (now : Time.Instant) {v : JobValue}
    (h : v.status.run ≠ some .done) :
    (keep.expiredJobs now).accepts (Documented.document v) = false := by
  have run : v.document "status.run" = v.status.run.map fun s => .text s.name := rfl
  have other : (Filter.eq "status.run" RunStatus.done.name).accepts v.document = false := by
    rw [Filter.accepts, run]
    match hr : v.status.run with
    | none => rfl
    | some .pending => rfl
    | some .running => rfl
    | some .done => exact absurd hr h
  have both : keep.expiredJobs now = .conj [.eq "status.run" RunStatus.done.name,
      .before "processing.finished" (cutoff now keep.jobs)] := rfl
  rw [both, Filter.accepts, Filter.allAccept]
  change ((Filter.eq "status.run" RunStatus.done.name).accepts v.document && _) = false
  rw [other, Bool.false_and]

namespace Registry

theorem stored_label (es : List RegistryEvent) : (stored es).label = "J" := by
  induction es using List.reverseRecOn with
  | nil => rfl
  | append_singleton es e ih => exact ((stored_effect es e).grows (stored_sound es)).label.trans ih

/-- Every stored job has an identity that the registry gave out. -/
theorem stored_named (es : List RegistryEvent) :
    ∀ job ∈ (stored es).entities, ∃ n, job.id = Store.idOf "J" n := by
  induction es using List.reverseRecOn with
  | nil => exact fun job h => absurd h List.not_mem_nil
  | append_singleton es e ih =>
    refine (stored_effect es e).forall_jobs ?_ ?_ ih
    · intro now req called
      exact ⟨(stored es).issued + 1, by rw [← stored_label es]; rfl⟩
    · intro now id p job value called found accepted
      obtain ⟨hm, rfl⟩ := Store.retrieve_mem found
      exact ih job hm

/-- A job that runs is stored as it is, whatever happens but a patch of the job. -/
theorem stored_running {es ds : List RegistryEvent} {job : Job}
    (found : (stored es).retrieve job.id = some job) (runs : job.value.status.run = some .running)
    (alone : ∀ e ∈ ds, ∀ now p, e ≠ .patch now job.id p) :
    (stored (es ++ ds)).retrieve job.id = some job := by
  induction ds using List.reverseRecOn with
  | nil => rwa [List.append_nil]
  | append_singleton ds e ih =>
    have before := ih fun d hd => alone d (List.mem_append_left _ hd)
    have sound := stored_sound (es ++ ds)
    have other := alone e List.mem_concat_self
    have effect := stored_effect (es ++ ds) e
    rw [← List.append_assoc]
    generalize stored ((es ++ ds) ++ [e]) = t at effect ⊢
    generalize (e.call.whole (stored (es ++ ds))).1 = r at effect
    generalize hc : e.call = c at effect
    cases effect with
    | created now req valid => rw [Store.retrieve_create, before, Option.some_or]
    | changed now id p d value stored accepted =>
      obtain rfl := RegistryEvent.eq_patch_of_call hc
      have apart : job.id ≠ id := by
        rintro rfl
        exact other now p rfl
      rw [Store.retrieve_put, before, Option.map_some, if_neg apart]
    | deleted f =>
      cases e with
      | clean keep now =>
        cases hc
        have spared := keep.not_accepts_expiredJobs now (v := job.value) (by simp [runs])
        rw [Store.retrieve_deleteFrom _ sound, before]
        simp [Option.filter, spared]
      | launch => cases hc
      | patch => cases hc
    | kept => exact before

/-- What happens to a registry adds to what happened before. -/
theorem foldl_react_jobs {reg : Registry} {es : List RegistryEvent}
    (h : reg.jobs = Jobs.inMemory (stored es)) (ds : List RegistryEvent) :
    (ds.foldl react reg).jobs = Jobs.inMemory (stored (es ++ ds)) := by
  induction ds using List.reverseRecOn with
  | nil => rwa [List.append_nil]
  | append_singleton ds e ih =>
    rw [List.foldl_append, ← List.append_assoc, stored_snoc]
    exact react_jobs ih e

end Registry

end JobDispatch

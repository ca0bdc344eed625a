import JobDispatch.Proofs.Page
import JobDispatch.Proofs.Store.Identity
import JobDispatch.Proofs.Store.Repository
import JobDispatch.Registry.Basic

/-!
What the services of the registry give where they succeed, whatever is planned to go wrong: things
that are stored, or that were just stored under their first or their next version.
-/

namespace JobDispatch

namespace Action

variable {σ ε ε' β γ : Type} {s t u : σ}

theorem exists_of_perform_bind {a : Action σ ε β} {k : β → Action σ ε γ} {c : γ}
    (h : (a >>= k).perform s = (.ok c, u)) :
    ∃ b t, a.perform s = (.ok b, t) ∧ (k b).perform t = (.ok c, u) := by
  rw [perform_bind] at h
  cases ha : a.perform s with
  | mk x t =>
    rw [ha] at h
    cases x with
    | error e => cases h
    | ok b => exact ⟨b, t, rfl, h⟩

theorem ok_of_rephrase {f : ε → ε'} {a : Action σ ε β} {b : β}
    (h : (a.rephrase f).perform s = (.ok b, t)) : a.perform s = (.ok b, t) := by
  rw [perform_rephrase] at h
  cases ha : a.perform s with
  | mk x t' =>
    rw [ha] at h
    cases x with
    | error e => cases h
    | ok d =>
      cases h
      rfl

end Action

namespace Repository

variable {α β : Type} {r r' : Repository α}

/-- A call that succeeds gives what its operation gives. -/
theorem ok_of_call {op : Operation} {about : String}
    {act : Store α → Except StoreError (β × Store α)} {b : β}
    (h : (call op about act).perform r = (.ok b, r')) : act r.store = .ok (b, r'.store) := by
  obtain ⟨s, plan⟩ := r
  simp only [Action.perform, call, ExceptT.run, ExceptT.mk, StateT.run] at h
  cases failure : (foresee op plan).1 with
  | some f => simp [failure] at h
  | none =>
    cases acted : act s with
    | error e => simp [failure, acted] at h
    | ok x =>
      simp only [failure, acted, Prod.mk.injEq, Except.ok.injEq] at h
      obtain ⟨rfl, rfl⟩ := h
      rfl

/-- An update that succeeds gives the stored thing at its next version. -/
theorem exists_of_update {e new : Entity α} {value : α}
    (h : (update e value).perform r = (.ok new, r')) :
    ∃ d ∈ r.store.entities, new.version = d.version + 1 := by
  have updated := ok_of_call h
  cases found : r.store.retrieve e.id with
  | none => simp [Store.update, found] at updated
  | some d =>
    rw [Store.update_eq r.store e d value found] at updated
    split_ifs at updated
    obtain ⟨rfl, -⟩ := Prod.mk.inj (Except.ok.inj updated)
    exact ⟨d, (Store.retrieve_mem found).1, rfl⟩

end Repository

namespace Jobs

variable {r r' : Repository JobValue} {job : Job}

theorem version_of_launch {now : Time.Instant} {req : CreateJob}
    (h : (launch now req).perform r = (.ok job, r')) : job.version = 1 := by
  simp only [launch] at h
  split at h
  · cases h
  · have created := Repository.ok_of_call (Action.ok_of_rephrase h)
    obtain ⟨rfl, -⟩ := Prod.mk.inj (Except.ok.inj created)
    rfl

theorem mem_of_get {id : String} (h : (get id).perform r = (.ok job, r')) :
    job ∈ r.store.entities ∧ r'.store = r.store := by
  obtain ⟨found, t, first, rest⟩ := Action.exists_of_perform_bind h
  have looked := Repository.ok_of_call (Action.ok_of_rephrase first)
  obtain ⟨same, kept⟩ := Prod.mk.inj (Except.ok.inj looked)
  cases found with
  | none => cases rest
  | some d =>
    obtain ⟨rfl, rfl⟩ : d = job ∧ t = r' := by simpa using rest
    exact ⟨(Store.retrieve_mem same).1, kept.symm⟩

theorem version_of_patch {now : Time.Instant} {id : String} {p : JobPatch}
    (h : (patch now id p).perform r = (.ok job, r')) :
    ∃ d ∈ r.store.entities, job.version = d.version + 1 := by
  obtain ⟨old, t, got, rest⟩ := Action.exists_of_perform_bind h
  obtain ⟨-, kept⟩ := mem_of_get got
  cases accepted : checkPatch now old p with
  | error e => simp [accepted] at rest
  | ok value =>
    rw [accepted] at rest
    have updated := Repository.exists_of_update (Action.ok_of_rephrase rest)
    rwa [kept] at updated

theorem eq_of_search {q : JobQuery} {start stop : Nat} {page : Page Job}
    (h : (search q start stop).perform r = (.ok page, r')) :
    page = r.store.search q.filter start stop := by
  have found := Repository.ok_of_call (Action.ok_of_rephrase h)
  exact (Prod.mk.inj (Except.ok.inj found)).1.symm

end Jobs

namespace Runners

variable {r r' : Repository RunnerValue} {runner : Runner}

theorem eq_of_register {now : Time.Instant} {req : RegisterRunner}
    (h : (register now req).perform r = (.ok runner, r')) :
    runner.version = 1 ∧ runner.value.timeToLive = req.timeToLive := by
  simp only [register] at h
  split at h
  · cases h
  · have created := Repository.ok_of_call (Action.ok_of_rephrase h)
    obtain ⟨rfl, -⟩ := Prod.mk.inj (Except.ok.inj created)
    exact ⟨rfl, rfl⟩

theorem mem_of_get {id : String} (h : (get id).perform r = (.ok runner, r')) :
    runner ∈ r.store.entities := by
  obtain ⟨found, t, first, rest⟩ := Action.exists_of_perform_bind h
  have looked := Repository.ok_of_call (Action.ok_of_rephrase first)
  obtain ⟨same, -⟩ := Prod.mk.inj (Except.ok.inj looked)
  cases found with
  | none => cases rest
  | some d =>
    obtain ⟨rfl, -⟩ : d = runner ∧ t = r' := by simpa using rest
    exact (Store.retrieve_mem same).1

theorem eq_of_search {q : RunnerQuery} {start stop : Nat} {page : Page Runner}
    (h : (search q start stop).perform r = (.ok page, r')) :
    page = r.store.search q.filter start stop := by
  have found := Repository.ok_of_call (Action.ok_of_rephrase h)
  exact (Prod.mk.inj (Except.ok.inj found)).1.symm

end Runners

end JobDispatch

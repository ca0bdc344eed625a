import JobDispatch.Registry.Jobs
import Mathlib.Tactic.SplitIfs

/-!
What a change of a job comes to: which proposals are refused, and what a patch that is not refused
makes of the job's status.
-/

namespace JobDispatch

theorem JobChange.objection_eq_none_iff (c : JobChange) :
    c.objection = none ↔
      c.current.status.run ≠ some .done ∧
      (c.current.status.run = some .running →
        c.proposed.status.run ≠ some .running ∧
        (c.proposed.status.run = some .done → c.proposed.status.exit ≠ none)) := by
  unfold objection
  split_ifs with hdone hrun hexit hagain
  · simp [hdone]
  · simp [hrun, hexit]
  · simp [hrun, hagain]
  · simp only [true_iff]
    exact ⟨hdone, fun _ => ⟨hagain, fun hd he => hexit ⟨hd, he⟩⟩⟩
  · simp [hdone, hrun]

/-- The instants apart, a change leads to what is proposed. -/
theorem JobChange.appliedAt_eq (c : JobChange) (now : Time.Instant) :
    { c.appliedAt now with processing := c.proposed.processing } = c.proposed := by
  simp only [appliedAt]
  split_ifs <;> rfl

@[simp]
theorem JobChange.appliedAt_status (c : JobChange) (now : Time.Instant) :
    (c.appliedAt now).status = c.proposed.status := by
  have h := congrArg JobValue.status (c.appliedAt_eq now)
  exact h

@[simp]
theorem JobChange.appliedAt_result (c : JobChange) (now : Time.Instant) :
    (c.appliedAt now).result = c.proposed.result := by
  have h := congrArg JobValue.result (c.appliedAt_eq now)
  exact h

@[simp]
theorem JobCreation.appliedAt_status (req : CreateJob) (now : Time.Instant) :
    ((JobCreation.mk req.value).appliedAt now).status = .pending := rfl

@[simp]
theorem JobPatch.applyTo_status (p : JobPatch) (v : JobValue) :
    (p.applyTo v).status = p.status.getD v.status := rfl

namespace Jobs

/-- A patch is accepted if it names the version and the change that it proposes breaks no rule. -/
theorem checkPatch_eq_ok_iff (now : Time.Instant) (job : Job) (p : JobPatch) (value : JobValue) :
    checkPatch now job p = .ok value ↔
      job.version = p.version ∧
      (JobChange.mk job.value (p.applyTo job.value)).objection = none ∧
      (JobChange.mk job.value (p.applyTo job.value)).appliedAt now = value := by
  unfold checkPatch
  by_cases hv : job.version = p.version
  · cases ho : (JobChange.mk job.value (p.applyTo job.value)).objection <;> simp [hv, ho]
  · simp [hv]

/-- What an accepted patch makes of a status: a done job is not patched, and a running one only
to leave it, to be done with an exit status. -/
theorem checkPatch_status {now : Time.Instant} {job : Job} {p : JobPatch} {value : JobValue}
    (h : checkPatch now job p = .ok value) :
    value.status = p.status.getD job.value.status ∧
    job.value.status.run ≠ some .done ∧
    (job.value.status.run = some .running →
      value.status.run ≠ some .running ∧
      (value.status.run = some .done → value.status.exit ≠ none)) := by
  obtain ⟨-, ho, rfl⟩ := (checkPatch_eq_ok_iff now job p value).mp h
  obtain ⟨hdone, hrun⟩ := (JobChange.objection_eq_none_iff _).mp ho
  simp only [JobPatch.applyTo_status, JobChange.appliedAt_status] at hrun ⊢
  exact ⟨trivial, hdone, hrun⟩

/-- What an accepted patch makes of the instants: a pending job that runs is started now, and a job
that is done now is finished now. -/
theorem checkPatch_processing {now : Time.Instant} {job : Job} {p : JobPatch} {value : JobValue}
    (h : checkPatch now job p = .ok value) :
    value.processing =
      { submitted := job.value.processing.submitted
        started :=
          if job.value.status.run = some .pending ∧ value.status.run = some .running then some now
          else job.value.processing.started
        finished :=
          if value.status.run = some .done then some now else job.value.processing.finished } := by
  obtain ⟨-, open_, -⟩ := checkPatch_status h
  obtain ⟨-, -, rfl⟩ := (checkPatch_eq_ok_iff now job p value).mp h
  simp only [JobChange.appliedAt_status]
  simp only [JobChange.appliedAt]
  by_cases starts : job.value.status.run = some .pending ∧
      (p.applyTo job.value).status.run = some .running
  · rw [if_pos starts, if_pos starts, if_neg (by rw [starts.2]; decide)]
    rfl
  · rw [if_neg starts, if_neg starts]
    by_cases ends : (p.applyTo job.value).status.run = some .done
    · rw [if_pos ⟨open_, ends⟩, if_pos ends]
      rfl
    · rw [if_neg fun h => ends h.2, if_neg ends]
      rfl

end Jobs

end JobDispatch

import JobDispatch.Proofs.Registry.Log

/-!
Progress of jobs: a patch leaves the run status of a job or moves it on, unless it is one of those
that take the job back. The rules that refuse patches do not know these.
-/

namespace JobDispatch

/-- A patch that takes a job back: it leaves the job without a run status, or makes a running job
pending again. -/
def JobPatch.TakesBack (p : JobPatch) (job : Job) : Prop :=
  job.version = p.version ∧ job.value.status.run ≠ some .done ∧
    ∃ st, p.status = some st ∧
      (st.run = none ∨ (job.value.status.run = some .running ∧ st.run = some .pending))

/-- A call whose patch takes the stored job back. -/
def JobCall.TakesBack (s : Store JobValue) : JobCall → Prop
  | patch _ id p => ∃ job, s.retrieve id = some job ∧ p.TakesBack job
  | _ => False

namespace Jobs

/-- An accepted patch that does not take its job back leaves the run status or moves it on. -/
theorem checkPatch_rank {now : Time.Instant} {job : Job} {p : JobPatch} {value : JobValue}
    (accepted : checkPatch now job p = .ok value) (forth : ¬ p.TakesBack job) {a : RunStatus}
    (ha : job.value.status.run = some a) :
    ∃ b, value.status.run = some b ∧ a.rank ≤ b.rank := by
  obtain ⟨version, -⟩ := (checkPatch_eq_ok_iff now job p value).mp accepted
  obtain ⟨status, open_, running⟩ := checkPatch_status accepted
  cases hp : p.status with
  | none => exact ⟨a, by rw [status, hp]; exact ha, le_refl _⟩
  | some st =>
    have hst : value.status = st := by rw [status, hp]; rfl
    rw [hst] at running ⊢
    have kept : ¬ (st.run = none ∨ (job.value.status.run = some .running ∧
        st.run = some .pending)) := fun back => forth ⟨version, open_, st, hp, back⟩
    obtain ⟨present, ahead⟩ := not_or.mp kept
    obtain ⟨b, hb⟩ := Option.ne_none_iff_exists'.mp present
    refine ⟨b, hb, ?_⟩
    rw [ha] at open_ running ahead
    rw [hb] at running ahead
    cases a with
    | pending => exact Nat.zero_le _
    | running =>
      cases b with
      | pending => exact absurd ⟨rfl, rfl⟩ ahead
      | running => exact absurd rfl (running rfl).1
      | done => decide
    | done => exact absurd rfl open_

/-- A patch that takes a job back is accepted. -/
theorem checkPatch_of_takesBack (now : Time.Instant) {job : Job} {p : JobPatch}
    (back : p.TakesBack job) : ∃ value, checkPatch now job p = .ok value ∧
      (value.status.run = none ∨
        (job.value.status.run = some .running ∧ value.status.run = some .pending)) := by
  obtain ⟨version, open_, st, hp, hst⟩ := back
  have status : (p.applyTo job.value).status = st := by
    rw [JobPatch.applyTo_status, hp]
    rfl
  have unopposed : (JobChange.mk job.value (p.applyTo job.value)).objection = none := by
    rw [JobChange.objection_eq_none_iff]
    refine ⟨open_, ?_⟩
    intro _
    rw [status]
    rcases hst with none | ⟨-, pending⟩
    · simp [none]
    · simp [pending]
  refine ⟨_, (checkPatch_eq_ok_iff now job p _).mpr ⟨version, unopposed, rfl⟩, ?_⟩
  rw [JobChange.appliedAt_status, status]
  exact hst

end Jobs

/-- A job that got as far as a run status: no other will have its identity, and it is stored, if at
all, with that run status or a later one. -/
structure Reached (s : Store JobValue) (id : String) (a : RunStatus) : Prop where
  issued : ∀ n, s.issued < n → id ≠ Store.idOf s.label n
  beyond : ∀ job, s.retrieve id = some job →
    ∃ b, job.value.status.run = some b ∧ a.rank ≤ b.rank

theorem reached_iff {s : Store JobValue} {id : String} {a : RunStatus} :
    Reached s id a ↔
      Lasting s id fun job => ∃ b, job.value.status.run = some b ∧ a.rank ≤ b.rank :=
  ⟨fun h => ⟨h.issued, h.beyond⟩, fun h => ⟨h.issued, h.stored⟩⟩

theorem reached_of_retrieve {s : Store JobValue} (hs : s.Sound) {id : String} {job : Job}
    (stored : s.retrieve id = some job) {a : RunStatus} (ha : job.value.status.run = some a) :
    Reached s id a :=
  reached_iff.mpr (lasting_of_retrieve hs stored ⟨a, ha, le_refl _⟩)

/-- A patch that does not take a job back leaves it as far as it got. -/
theorem checkPatch_reached {now : Time.Instant} {job : Job} {p : JobPatch} {value : JobValue}
    (accepted : Jobs.checkPatch now job p = .ok value) (forth : ¬ p.TakesBack job) {a : RunStatus}
    (h : ∃ b, job.value.status.run = some b ∧ a.rank ≤ b.rank) :
    ∃ b, value.status.run = some b ∧ a.rank ≤ b.rank := by
  obtain ⟨b, hb, hab⟩ := h
  obtain ⟨c, hc, hbc⟩ := Jobs.checkPatch_rank accepted forth hb
  exact ⟨c, hc, hab.trans hbc⟩

/-- A call that does not take a job back leaves every job as far as it got. -/
theorem Reached.effect {s t : Store JobValue} {c : JobCall} {r : JobReply} {id : String}
    {a : RunStatus} (h : Reached s id a) (hs : s.Sound) (he : c.Effect s r t)
    (forth : ¬ c.TakesBack s) : Reached t id a := by
  refine reached_iff.mpr ((reached_iff.mp h).effect hs he ?_)
  rintro now p job value rfl stored accepted reached
  exact checkPatch_reached accepted (fun back => forth ⟨job, stored, back⟩) reached

end JobDispatch

import JobDispatch.Proofs.Registry.Serving

/-!
What becomes of a patch of a job on a repository in memory. The first obstacle that it meets refuses
it and leaves everything as it was; without an obstacle the job changes where it stands.
-/

namespace JobDispatch

/-- The changes of a status that are refused, each with what is said of it. -/
inductive JobStatus.Barred (old new : JobStatus) : String → Prop
  | done (ended : old.run = some .done) :
      Barred old new "cannot change a job when run status is DONE"
  | exitMissing (running : old.run = some .running) (ends : new.run = some .done)
      (exit : new.exit = none) : Barred old new "exit status must be set"
  | again (running : old.run = some .running) (runs : new.run = some .running) :
      Barred old new "job is already RUNNING"

/-- A value with what a patch carries in place of what was there, stamped with an instant. -/
def JobPatch.amend (p : JobPatch) (now : Time.Instant) (old : JobValue) : JobValue :=
  let status := p.status.getD old.status
  { old with
    status
    result := p.result.or old.result
    processing := { old.processing with
      started :=
        if old.status.run = some .pending ∧ status.run = some .running then some now
        else old.processing.started
      finished :=
        if old.status.run ≠ some .done ∧ status.run = some .done then some now
        else old.processing.finished } }

/-- An entity stands between others, and none before it has its identity. -/
structure Store.Stands {α : Type} (s : Store α) (front : List (Entity α)) (e : Entity α)
    (back : List (Entity α)) : Prop where
  whole : s.entities = front ++ e :: back
  first : ∀ d ∈ front, d.id ≠ e.id

theorem Store.retrieve_eq_some_iff {α : Type} {s : Store α} {id : String} {e : Entity α} :
    s.retrieve id = some e ↔ e.id = id ∧ ∃ front back, s.Stands front e back := by
  rw [retrieve, List.find?_eq_some_iff_append]
  simp only [beq_iff_eq, Bool.not_eq_true', beq_eq_false_iff_ne]
  constructor
  · rintro ⟨rfl, front, back, whole, first⟩
    exact ⟨rfl, front, back, whole, first⟩
  · rintro ⟨rfl, front, back, stands⟩
    exact ⟨rfl, front, back, stands.whole, stands.first⟩

theorem Store.retrieve_eq_none_iff {α : Type} {s : Store α} {id : String} :
    s.retrieve id = none ↔ ∀ e ∈ s.entities, e.id ≠ id := by
  simp [retrieve, List.find?_eq_none]

theorem Store.Stands.eq_of_id {α : Type} {s : Store α} {front front' back back' : List (Entity α)}
    {d e : Entity α} (hd : s.Stands front d back) (he : s.Stands front' e back')
    (same : d.id = e.id) : d = e := by
  have found := retrieve_eq_some_iff.mpr ⟨same, front, back, hd⟩
  have found' := retrieve_eq_some_iff.mpr ⟨rfl, front', back', he⟩
  exact Option.some.inj (found.symm.trans found')

theorem Store.Stands.put {α : Type} {s : Store α} {front back : List (Entity α)} {e new : Entity α}
    (h : s.Stands front e back) (same : e.id = new.id) :
    s.put new = { s with entities := front ++ new :: back } := by
  have others : ∀ d ∈ front, d.id ≠ new.id := fun d hd => same ▸ h.first d hd
  rw [Store.put, h.whole, replace_append others same]

namespace JobChange

variable {c : JobChange} {o : JobObjection}

theorem barred_of_objection (h : c.objection = some o) :
    c.current.status.Barred c.proposed.status o.message := by
  unfold objection at h
  split_ifs at h with done running exit again
  · cases h
    exact .done done
  · cases h
    exact .exitMissing running exit.1 exit.2
  · cases h
    exact .again running again

theorem not_barred_of_unopposed (h : c.objection = none) (text : String) :
    ¬ c.current.status.Barred c.proposed.status text := by
  obtain ⟨open_, free⟩ := (objection_eq_none_iff c).mp h
  intro barred
  cases barred with
  | done ended => exact open_ ended
  | exitMissing running ends exit => exact (free running).2 ends exit
  | again running runs => exact (free running).1 runs

/-- The instants of starting and finishing exclude each other. -/
theorem appliedAt_patch (p : JobPatch) (now : Time.Instant) (old : JobValue) :
    (JobChange.mk old (p.applyTo old)).appliedAt now = p.amend now old := by
  have result : (p.result <|> old.result) = p.result.or old.result := by
    cases p.result <;> rfl
  simp only [appliedAt, JobPatch.applyTo, result, JobPatch.amend]
  by_cases starts : old.status.run = some .pending ∧
      (p.status.getD old.status).run = some .running
  · have ends : ¬ (old.status.run ≠ some .done ∧ (p.status.getD old.status).run = some .done) := by
      simp [starts.2]
    simp only [if_pos starts, if_neg ends]
  · by_cases ends : old.status.run ≠ some .done ∧ (p.status.getD old.status).run = some .done
    · simp only [if_neg starts, if_pos ends]
    · simp only [if_neg starts, if_neg ends]

end JobChange

namespace Jobs

/-- What becomes of a patch: the answer to it, and the store that it leaves. -/
inductive Patched (now : Time.Instant) (id : String) (p : JobPatch) (s : Store JobValue) :
    Except JobError Job → Store JobValue → Prop
  | unknown (absent : ∀ d ∈ s.entities, d.id ≠ id) : Patched now id p s (.error (.notFound id)) s
  | outdated {front back : List Job} {job : Job} (stands : s.Stands front job back)
      (same : job.id = id) (other : job.version ≠ p.version) :
      Patched now id p s (.error (.versionConflict id p.version job.version)) s
  | refused {front back : List Job} {job : Job} {o : JobObjection}
      (stands : s.Stands front job back) (same : job.id = id) (version : job.version = p.version)
      (barred : job.value.status.Barred (p.status.getD job.value.status) o.message) :
      Patched now id p s (.error (.refused o)) s
  | changed {front back : List Job} {job new : Job} (stands : s.Stands front job back)
      (same : job.id = id) (version : job.version = p.version)
      (free : ∀ text, ¬ job.value.status.Barred (p.status.getD job.value.status) text)
      (amended : new = ⟨id, job.version + 1, p.amend now job.value⟩) :
      Patched now id p s (.ok new) { s with entities := front ++ new :: back }

/-- A job is stored that a patch names with its version and may change. -/
def Admits (s : Store JobValue) (id : String) (p : JobPatch) : Prop :=
  ∃ front job back, s.Stands front job back ∧ job.id = id ∧ job.version = p.version ∧
    ∀ text, ¬ job.value.status.Barred (p.status.getD job.value.status) text

variable {now : Time.Instant} {id : String} {p : JobPatch} {s t : Store JobValue}
  {r : Except JobError Job}

/-- There is no second obstacle that would let a patch pass the first. -/
theorem Patched.ok_iff (h : Patched now id p s r t) : (∃ new, r = .ok new) ↔ Admits s id p := by
  constructor
  · rintro ⟨new, rfl⟩
    cases h with
    | changed stands same version free => exact ⟨_, _, _, stands, same, version, free⟩
  · rintro ⟨front, job, back, stands, same, version, free⟩
    cases h with
    | unknown absent =>
      refine absurd same (absent job ?_)
      simp [stands.whole]
    | outdated stands' same' other =>
      obtain rfl := stands.eq_of_id stands' (same.trans same'.symm)
      exact absurd version other
    | refused stands' same' _ barred =>
      obtain rfl := stands.eq_of_id stands' (same.trans same'.symm)
      exact absurd barred (free _)
    | changed => exact ⟨_, rfl⟩

theorem patch_patched (now : Time.Instant) (id : String) (p : JobPatch) (s : Store JobValue) :
    ∃ r t, (patch now id p).perform (inMemory s) = (r, inMemory t) ∧ Patched now id p s r t := by
  rw [patch_perform]
  cases found : s.retrieve id with
  | none => exact ⟨_, s, rfl, .unknown (Store.retrieve_eq_none_iff.mp found)⟩
  | some job =>
    obtain ⟨rfl, front, back, stands⟩ := Store.retrieve_eq_some_iff.mp found
    by_cases version : job.version = p.version
    · cases objection : (JobChange.mk job.value (p.applyTo job.value)).objection with
      | some o =>
        have checked : checkPatch now job p = .error (.refused o) := by
          simp [checkPatch, version, objection]
        simp only [checked]
        exact ⟨_, s, rfl, .refused stands rfl version (JobChange.barred_of_objection objection)⟩
      | none =>
        have checked := (checkPatch_eq_ok_iff now job p _).mpr ⟨version, objection, rfl⟩
        have free := JobChange.not_barred_of_unopposed objection
        let new : Job := ⟨job.id, job.version + 1, p.amend now job.value⟩
        have placed : s.put new = _ := stands.put rfl
        rw [JobChange.appliedAt_patch] at checked
        simp only [checked]
        exact ⟨_, _, rfl, placed ▸ .changed stands rfl version free rfl⟩
    · have checked : checkPatch now job p =
          .error (.versionConflict job.id p.version job.version) := by
        simp [checkPatch, version]
      simp only [checked]
      exact ⟨_, s, rfl, .outdated stands rfl version⟩

/-- A patch is accepted if and only if the job is stored, at the version that the patch names, and
the change of its status is not barred; otherwise the first of these that fails is told and nothing
changes. An accepted patch changes that job alone. -/
theorem patch_admitted (now : Time.Instant) (id : String) (p : JobPatch) (s : Store JobValue) :
    ∃ r t, (patch now id p).perform (inMemory s) = (r, inMemory t) ∧ Patched now id p s r t ∧
      ((∃ new, r = .ok new) ↔ Admits s id p) := by
  obtain ⟨r, t, ran, patched⟩ := patch_patched now id p s
  exact ⟨r, t, ran, patched, patched.ok_iff⟩

end Jobs

end JobDispatch

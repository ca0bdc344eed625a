import JobDispatch.Agent.Desk
import JobDispatch.Proofs.Store.Repository
import Mathlib.Data.ENat.Lattice
import Mathlib.Data.Set.Card
import Mathlib.Order.Interval.Finset.Nat

/-!
Rehearsals: a desk that writes down whatever it does, and whose patches come to what is laid down
for them, one after the other without end. A report of a job is the same patch again and again,
until one is answered or the attempts are used up.
-/

namespace JobDispatch

/-- What a desk does. -/
inductive DeskStep where
  | listed (params : JobParams) (window : Nat)
  | patched (id : String) (p : JobPatch) (outcome : Except RegistryError Job)
  | slept (t : Time.Span)
  | raised (e : FatalError)

def DeskStep.isPatch : DeskStep → Bool
  | patched .. => true
  | _ => false

/-- What a desk is going to meet. -/
structure Rehearsal where
  candidates : Except RegistryError (List Job)
  /-- what the patches come to -/
  outcomes : Nat → Except RegistryError Job
  /-- the texts by which what belongs together can be found again -/
  correlations : Nat → String

/-- Whether a patch came to an error after which another attempt may succeed. -/
def isSilence : Except RegistryError Job → Bool
  | .ok _ => false
  | .error e => e.isTransient

namespace Rehearsal

variable (x : Rehearsal)

def note (step : DeskStep) : StateM (List DeskStep) Unit := modify (· ++ [step])

def desk : Desk (StateM (List DeskStep)) where
  candidates params window := do
    note (.listed params window)
    return x.candidates
  patch id p := do
    let outcome := x.outcomes ((← get).countP DeskStep.isPatch)
    note (.patched id p outcome)
    return outcome
  sleep t := note (.slept t)
  correlation := return x.correlations (← get).length
  raise e := note (.raised e)

/-- How many outcomes there are before the first one that is no silence. -/
noncomputable def silences : ℕ∞ := {n | ∀ i ≤ n, isSilence (x.outcomes i)}.encard

/-- So many patches with a status and a result of a job, with a pause between two of them. -/
def attempts (job : Job) (pause : Time.Span) (first n : Nat) : List DeskStep :=
  let p : JobPatch := ⟨job.version, some job.value.status, job.value.result⟩
  ((List.range' first n).map fun i => .patched job.id p (x.outcomes i)).intersperse (.slept pause)

/-- What is told to others when a report ends. -/
def raisings : Except FatalError Job → List DeskStep
  | .ok _ => []
  | .error f => [.raised f]

/-- How a report ends whose last attempt has a number. -/
inductive Ending (job : Job) (attempt : Nat) :
    Except RegistryError Job → Except FatalError Job → Prop
  | stored (new : Job) : Ending job attempt (.ok new) (.ok new)
  | refused (e : RegistryError) (final : e.isTransient = false) (correlation : String) :
      Ending job attempt (.error e) (.error ⟨correlation, job.id, e.message⟩)
  | gaveUp (e : RegistryError) (silent : e.isTransient = true) (correlation : String) :
      Ending job attempt (.error e) (.error ⟨correlation, job.id,
        "gave up after " ++ Text.decimal attempt ++ " attempt(s): " ++ e.message⟩)

variable {x} {job : Job} {m first left attempt : Nat} {r : Except FatalError Job}

theorem Ending.ok_iff {outcome : Except RegistryError Job} (h : Ending job attempt outcome r)
    (stored : Job) : r = .ok stored ↔ outcome = .ok stored := by
  cases h <;> simp

theorem encard_below (m : Nat) : (Set.Iio m).encard = m := by
  rw [← Finset.coe_Iio, Set.encard_coe_eq_coe_finsetCard, Nat.card_Iio]

theorem le_silences (h : ∀ i < m, isSilence (x.outcomes i)) : (m : ℕ∞) ≤ x.silences := by
  rw [← encard_below]
  refine Set.encard_le_encard ?_
  intro n hn i hi
  exact h i (lt_of_le_of_lt hi hn)

theorem silences_le (h : isSilence (x.outcomes m) = false) : x.silences ≤ m := by
  rw [← encard_below]
  refine Set.encard_le_encard ?_
  intro n hn
  by_contra late
  have silent := hn m (not_lt.mp late)
  rw [h] at silent
  cases silent

/-- How far a report goes with up to `left` more attempts after one that meets the first of some
outcomes. -/
structure Course (x : Rehearsal) (job : Job) (left attempt first pauses : Nat)
    (r : Except FatalError Job) : Prop where
  within : pauses ≤ left
  silent : ∀ i < pauses, isSilence (x.outcomes (first + i))
  last : pauses = left ∨ isSilence (x.outcomes (first + pauses)) = false
  ending : Ending job (attempt + pauses) (x.outcomes (first + pauses)) r

/-- An attempt that nobody answered comes before a report of one attempt less. -/
theorem Course.succ {pauses : Nat} (h : x.Course job left (attempt + 1) (first + 1) pauses r)
    (silent : isSilence (x.outcomes first)) :
    x.Course job (left + 1) attempt first (pauses + 1) r := by
  have next (i : Nat) : first + (i + 1) = first + 1 + i := by omega
  refine ⟨Nat.succ_le_succ h.within, ?_, ?_, ?_⟩
  · intro i hi
    cases i with
    | zero => exact silent
    | succ i =>
      rw [next]
      exact h.silent i (Nat.lt_of_succ_lt_succ hi)
  · rw [next]
    exact h.last.imp_left (congrArg Nat.succ)
  · rw [next, show attempt + (pauses + 1) = attempt + 1 + pauses by omega]
    exact h.ending

variable (x job left attempt) (rules : DeskRules) (diary : List DeskStep)

theorem attempts_succ (pause : Time.Span) (first n : Nat) :
    x.attempts job pause first (n + 2) =
      x.attempts job pause first 1 ++ .slept pause :: x.attempts job pause (first + 1) (n + 1) :=
  rfl

/-- The first attempt of a report. -/
theorem attempt_run : (x.desk.patch job.id (.report job.version job.value)).run diary =
    (x.outcomes (diary.countP DeskStep.isPatch),
      diary ++ x.attempts job rules.retryDelay (diary.countP DeskStep.isPatch) 1) := rfl

theorem giveUp_run (reason : String) : ∃ correlation,
    (x.desk.giveUp job reason).run diary = (.error ⟨correlation, job.id, reason⟩,
      diary ++ raisings (.error ⟨correlation, job.id, reason⟩)) :=
  ⟨_, rfl⟩

/-- An answer to the first attempt ends a report. -/
theorem reportFrom_heard
    (heard : isSilence (x.outcomes (diary.countP DeskStep.isPatch)) = false) :
    let first := diary.countP DeskStep.isPatch
    ∃ r, (x.desk.reportFrom rules job left attempt).run diary =
        (r, diary ++ x.attempts job rules.retryDelay first 1 ++ raisings r) ∧
      x.Course job left attempt first 0 r := by
  intro first
  change isSilence (x.outcomes first) = false at heard
  have course {r : Except FatalError Job} (ending : Ending job attempt (x.outcomes first) r) :
      x.Course job left attempt first 0 r :=
    ⟨Nat.zero_le left, nofun, .inr heard, ending⟩
  rw [Desk.reportFrom.eq_def]
  cases outcome : x.outcomes first with
  | ok new =>
    rw [outcome] at course
    refine ⟨.ok new, (run_bind_of_run (x.attempt_run job rules diary)).trans ?_,
      course (.stored new)⟩
    rw [outcome]
    exact congrArg _ (List.append_nil _).symm
  | error e =>
    rw [outcome] at course heard
    have final : e.isTransient = false := heard
    obtain ⟨correlation, gave⟩ := x.giveUp_run job
      (diary ++ x.attempts job rules.retryDelay first 1) e.message
    refine ⟨_, (run_bind_of_run (x.attempt_run job rules diary)).trans ?_,
      course (.refused e final correlation)⟩
    rw [← gave, outcome]
    exact congrArg (StateT.run · _) (if_pos (by simp [final]))

/-- A first attempt that nobody answered ends a report with no more attempts. -/
theorem reportFrom_gaveUp
    (silent : isSilence (x.outcomes (diary.countP DeskStep.isPatch))) :
    let first := diary.countP DeskStep.isPatch
    ∃ r, (x.desk.reportFrom rules job 0 attempt).run diary =
        (r, diary ++ x.attempts job rules.retryDelay first 1 ++ raisings r) ∧
      x.Course job 0 attempt first 0 r := by
  intro first
  change isSilence (x.outcomes first) at silent
  rw [Desk.reportFrom.eq_def]
  cases outcome : x.outcomes first with
  | ok new =>
    rw [outcome] at silent
    cases silent
  | error e =>
    rw [outcome] at silent
    have transient : e.isTransient := silent
    obtain ⟨correlation, gave⟩ := x.giveUp_run job
      (diary ++ x.attempts job rules.retryDelay first 1)
      ("gave up after " ++ Text.decimal attempt ++ " attempt(s): " ++ e.message)
    have ending : Ending job attempt (x.outcomes first) (.error ⟨correlation, job.id,
        "gave up after " ++ Text.decimal attempt ++ " attempt(s): " ++ e.message⟩) := by
      rw [outcome]
      exact .gaveUp e transient correlation
    refine ⟨_, (run_bind_of_run (x.attempt_run job rules diary)).trans ?_,
      (⟨Nat.le_refl 0, nofun, .inl rfl, ending⟩ : x.Course job 0 attempt first 0 _)⟩
    rw [← gave, outcome]
    exact congrArg (StateT.run · _) (if_neg (by simp [transient]))

/-- A first attempt that nobody answered is followed by a pause while attempts are left. -/
theorem reportFrom_again
    (silent : isSilence (x.outcomes (diary.countP DeskStep.isPatch))) :
    let first := diary.countP DeskStep.isPatch
    (x.desk.reportFrom rules job (left + 1) attempt).run diary =
      (x.desk.reportFrom rules job left (attempt + 1)).run
        (diary ++ x.attempts job rules.retryDelay first 1 ++ [.slept rules.retryDelay]) := by
  intro first
  change isSilence (x.outcomes first) at silent
  rw [Desk.reportFrom.eq_def, run_bind_of_run (x.attempt_run job rules diary)]
  cases outcome : x.outcomes first with
  | ok new =>
    rw [outcome] at silent
    cases silent
  | error e =>
    rw [outcome] at silent
    have transient : e.isTransient := silent
    exact congrArg (StateT.run · _) (if_neg (by simp [transient]))

/-- How a report goes from any of its attempts. -/
theorem reportFrom_run :
    let first := diary.countP DeskStep.isPatch
    ∃ pauses r, (x.desk.reportFrom rules job left attempt).run diary =
        (r, diary ++ x.attempts job rules.retryDelay first (pauses + 1) ++ raisings r) ∧
      x.Course job left attempt first pauses r := by
  induction left generalizing attempt diary with
  | zero =>
    intro first
    cases silent : isSilence (x.outcomes first) with
    | false => exact ⟨0, x.reportFrom_heard job 0 attempt rules diary silent⟩
    | true => exact ⟨0, x.reportFrom_gaveUp job attempt rules diary silent⟩
  | succ left ih =>
    intro first
    cases silent : isSilence (x.outcomes first) with
    | false => exact ⟨0, x.reportFrom_heard job (left + 1) attempt rules diary silent⟩
    | true =>
      obtain ⟨pauses, r, run, course⟩ := ih (attempt + 1)
        (diary ++ x.attempts job rules.retryDelay first 1 ++ [.slept rules.retryDelay])
      have counted : (diary ++ x.attempts job rules.retryDelay first 1 ++
          [DeskStep.slept rules.retryDelay]).countP DeskStep.isPatch = first + 1 := by
        rw [List.append_assoc, List.countP_append]
        rfl
      rw [counted] at run course
      refine ⟨pauses + 1, r, ?_, course.succ silent⟩
      rw [x.reportFrom_again job left attempt rules diary silent, run, attempts_succ]
      simp only [List.append_assoc, List.cons_append, List.nil_append]

/-- A report makes as many attempts as it is allowed to, or one more than nobody answered before
anybody did, whichever is less. -/
theorem Course.count {pauses : Nat} (h : x.Course job left attempt 0 pauses r) :
    ((pauses + 1 : ℕ) : ℕ∞) = min ((left + 1 : ℕ) : ℕ∞) (1 + x.silences) := by
  have unanswered : (pauses : ℕ∞) ≤ x.silences :=
    le_silences fun i hi => Nat.zero_add i ▸ h.silent i hi
  have within : ((pauses + 1 : ℕ) : ℕ∞) ≤ (left + 1 : ℕ) :=
    Nat.cast_le.mpr (Nat.succ_le_succ h.within)
  rw [add_comm 1 x.silences]
  refine le_antisymm (le_min within ?_) ?_
  · rw [Nat.cast_succ]
    exact add_le_add_left unanswered 1
  · obtain rfl | heard := h.last
    · exact min_le_left _ _
    · rw [Nat.zero_add] at heard
      refine (min_le_right _ _).trans ?_
      rw [Nat.cast_succ]
      exact add_le_add_left (silences_le heard) 1

/-- A report patches the job with its version, status and result, as often as the configuration
allows or until a patch is answered, and pauses between two patches. It comes to what its last
patch stored; where that patch failed, it comes to one error of the job, which is also what is told
to others, and otherwise nobody is told anything. -/
theorem report_attempts (c : RunnerConfig) (x : Rehearsal) (job : Job) :
    ∃ last r,
      (x.desk.report c.deskRules job).run [] =
        (r, x.attempts job c.updateRetryDelay 0 (last + 1) ++ raisings r) ∧
      ((last + 1 : ℕ) : ℕ∞) = min ((max c.updateMaxAttempts 1 : ℕ) : ℕ∞) (1 + x.silences) ∧
      (∀ stored, r = .ok stored ↔ x.outcomes last = .ok stored) ∧
      Ending job (last + 1) (x.outcomes last) r := by
  obtain ⟨last, r, run, course⟩ :=
    x.reportFrom_run job (max c.updateMaxAttempts 1 - 1) 1 c.deskRules []
  have ending := course.ending
  have count := course.count
  rw [Nat.sub_add_cancel (Nat.le_max_right _ _)] at count
  rw [show [].countP DeskStep.isPatch + last = last from Nat.zero_add last, Nat.add_comm 1 last]
    at ending
  exact ⟨last, r, run, count, ending.ok_iff, ending⟩

end Rehearsal

end JobDispatch

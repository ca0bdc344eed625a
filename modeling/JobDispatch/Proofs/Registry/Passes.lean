import JobDispatch.Proofs.Counting
import JobDispatch.Proofs.Registry.Cleaning
import JobDispatch.Proofs.Time.Elapsed

/-!
Passes of the cleaner one after the other. A pass makes something of each runner and of each job by
itself, and what has expired at an instant has expired at every later one. So a pass that comes
first changes nothing about what a later one leaves, and behind a pass another one as of an earlier
instant finds nothing to do.
-/

namespace JobDispatch

instance : Add CleanupReport where
  add a b := ⟨a.disconnected + b.disconnected, a.purgedJobs + b.purgedJobs,
    a.purgedRunners + b.purgedRunners⟩

theorem RunnerValue.isStale_of_le {v : RunnerValue} {early late : Time.Instant}
    (h : v.isStale early = true) (order : early ≤ late) : v.isStale late = true := by
  unfold isStale at h ⊢
  cases hp : v.lastPing with
  | none => simp [hp] at h
  | some ping =>
    cases ht : v.timeToLive with
    | none => simp [hp, ht] at h
    | some ttl =>
      simp only [hp, ht, Bool.and_eq_true, Option.any_eq_true] at h ⊢
      obtain ⟨marked, limit, ends, passed⟩ := h
      exact ⟨marked, limit, ends, Time.Instant.before_of_before_of_le passed order⟩

theorem RunnerValue.status_withStatus (v : RunnerValue) (status : RunnerStatus) :
    (v.withStatus status).status = some status := rfl

theorem RunnerValue.not_isStale_of_disconnected {v : RunnerValue}
    (h : v.status = some .disconnected) (now : Time.Instant) : v.isStale now = false := by
  unfold isStale
  cases v.lastPing <;> cases v.timeToLive <;> simp [h]

theorem Filter.accepts_before_of_le {doc : Document} {field : String} {a b : Time.Instant}
    (h : (Filter.before field a).accepts doc = true) (order : a ≤ b) :
    (Filter.before field b).accepts doc = true := by
  rw [accepts] at h ⊢
  cases hd : doc field with
  | none => simp [hd] at h
  | some value =>
    cases value with
    | time t =>
      rw [hd] at h
      exact Time.Instant.before_of_before_of_le h order
    | text _ => simp [hd] at h
    | texts _ => simp [hd] at h

namespace Retention

variable {keep : Retention} {early late : Time.Instant}

/-- Leap seconds apart, a cutoff moves on with the clock, even where it is the first instant. -/
theorem cutoff_le (hearly : early.IsPlain) (hlate : late.IsPlain) (order : early ≤ late)
    (s : Time.Span) : cutoff early s ≤ cutoff late s := by
  obtain ⟨plain, elapsed⟩ := Time.Instant.elapsed_sub hearly s
  obtain ⟨plain', elapsed'⟩ := Time.Instant.elapsed_sub hlate s
  have numbers := (Time.Instant.le_iff_elapsed hearly hlate).mp order
  rw [cutoff, cutoff, Time.Instant.le_iff_elapsed plain plain', elapsed, elapsed']
  omega

theorem expiredRunners_of_le {v : RunnerValue} (hearly : early.IsPlain) (hlate : late.IsPlain)
    (order : early ≤ late) (h : (keep.expiredRunners early).accepts v.document = true) :
    (keep.expiredRunners late).accepts v.document = true := by
  change (Filter.conj [_, _]).accepts v.document = true at h ⊢
  rw [Filter.accepts_pair, Bool.and_eq_true] at h ⊢
  exact ⟨h.1, Filter.accepts_before_of_le h.2 (cutoff_le hearly hlate order keep.runners)⟩

theorem expiredJobs_of_le {v : JobValue} (hearly : early.IsPlain) (hlate : late.IsPlain)
    (order : early ≤ late) (h : (keep.expiredJobs early).accepts v.document = true) :
    (keep.expiredJobs late).accepts v.document = true := by
  change (Filter.conj [_, _]).accepts v.document = true at h ⊢
  rw [Filter.accepts_pair, Bool.and_eq_true] at h ⊢
  exact ⟨h.1, Filter.accepts_before_of_le h.2 (cutoff_le hearly hlate order keep.jobs)⟩

/-- Only runners that are marked as disconnected expire. -/
theorem status_of_expired {now : Time.Instant} {v : RunnerValue}
    (h : (keep.expiredRunners now).accepts v.document = true) : v.status = some .disconnected := by
  change (Filter.conj [_, _]).accepts v.document = true at h
  rw [Filter.accepts_pair, Bool.and_eq_true, v.accepts_disconnected, decide_eq_true_iff] at h
  exact h.1

end Retention

namespace Registry

/-- A runner as a sweep leaves it. -/
def sweptRunner (now : Time.Instant) (e : Runner) : Runner :=
  if e.value.isStale now then ⟨e.id, e.version + 1, e.value.withStatus .disconnected⟩ else e

/-- What a pass leaves of a runner. -/
def passedRunner (keep : Retention) (now : Time.Instant) (e : Runner) : Option Runner :=
  Option.guard (fun d => !(keep.expiredRunners now).accepts d.value.document) (sweptRunner now e)

/-- What a pass leaves of a job. -/
def passedJob (keep : Retention) (now : Time.Instant) (e : Job) : Option Job :=
  Option.guard (fun d => !(keep.expiredJobs now).accepts d.value.document) e

/-- What a pass leaves of a registry. -/
def passed (r : Registry) (keep : Retention) (now : Time.Instant) : Registry where
  jobs := { r.jobs with store := { r.jobs.store with
    entities := r.jobs.store.entities.filterMap (passedJob keep now) } }
  runners := { r.runners with store := { r.runners.store with
    entities := r.runners.store.entities.filterMap (passedRunner keep now) } }

/-- What a pass reports. -/
def tally (r : Registry) (keep : Retention) (now : Time.Instant) : CleanupReport where
  disconnected := r.runners.store.entities.countP fun e => e.value.isStale now
  purgedJobs := r.jobs.store.entities.countP fun e => (passedJob keep now e).isNone
  purgedRunners := r.runners.store.entities.countP fun e => (passedRunner keep now e).isNone

/-- Nothing is planned to go wrong, no runner is stored twice, and the runners can be numbered by
words. -/
structure Undisturbed (r : Registry) : Prop where
  jobsPlan : r.jobs.plan = []
  runnersPlan : r.runners.plan = []
  nodup : (r.runners.store.entities.map Entity.id).Nodup
  numbered : r.runners.store.entities.length ≤ Text.maxWord

variable {r : Registry} {keep : Retention} {now early late : Time.Instant}

/-- A pass over a registry in which nothing goes wrong, told runner by runner and job by job. -/
theorem clean_eq_passed (h : r.Undisturbed) (keep : Retention) (now : Time.Instant) :
    (clean keep now).run r = (r.tally keep now, r.passed keep now) := by
  obtain ⟨⟨jobs, jobsPlan⟩, ⟨runners, runnersPlan⟩⟩ := r
  obtain rfl : jobsPlan = [] := h.jobsPlan
  obtain rfl : runnersPlan = [] := h.runnersPlan
  let r : Registry := ⟨⟨jobs, []⟩, ⟨runners, []⟩⟩
  let swept : Repository RunnerValue :=
    ⟨{ runners with entities := runners.entities.map (sweptRunner now) }, []⟩
  have marks : (onRunners (Runners.disconnectStale now)).perform r =
      (.ok (r.tally keep now).disconnected, ⟨⟨jobs, []⟩, swept⟩) :=
    Action.perform_onPart (Runners.disconnectStale_stale now h.nodup h.numbered)
  have drops : (onJobs (Repository.deleteFrom (keep.expiredJobs now))).perform ⟨⟨jobs, []⟩, swept⟩ =
      (.ok (r.tally keep now).purgedJobs, ⟨(r.passed keep now).jobs, swept⟩) := by
    refine Action.perform_onPart (Eq.trans (Repository.deleteFrom_accepted jobs _) ?_)
    simp only [r, tally, passedJob, Option.isNone_guard, Bool.not_not, ← List.filterMap_eq_filter]
    rfl
  have drops' : (onRunners (Repository.deleteFrom (keep.expiredRunners now))).perform
      ⟨(r.passed keep now).jobs, swept⟩ =
      (.ok (r.tally keep now).purgedRunners, r.passed keep now) := by
    refine Action.perform_onPart (Eq.trans (Repository.deleteFrom_accepted swept.store _) ?_)
    simp only [r, swept, tally, passedRunner, Option.isNone_guard, Bool.not_not, List.countP_map,
      ← List.filterMap_eq_filter, List.filterMap_map]
    rfl
  rw [clean, run_bind_of_run (counted_run_of_ok marks), run_bind_of_run (counted_run_of_ok drops),
    run_bind_of_run (counted_run_of_ok drops')]
  rfl

theorem sweptRunner_of_stale {e : Runner} (h : e.value.isStale now = true) :
    sweptRunner now e = ⟨e.id, e.version + 1, e.value.withStatus .disconnected⟩ := if_pos h

theorem sweptRunner_of_fresh {e : Runner} (h : e.value.isStale now = false) :
    sweptRunner now e = e := if_neg (by simp [h])

/-- Behind a sweep no runner is stale. -/
theorem not_isStale_swept (now : Time.Instant) (e : Runner) :
    (sweptRunner now e).value.isStale now = false := by
  cases stale : e.value.isStale now with
  | true =>
    rw [sweptRunner_of_stale stale]
    exact RunnerValue.not_isStale_of_disconnected (e.value.status_withStatus _) now
  | false => rwa [sweptRunner_of_fresh stale]

theorem swept_swept (order : early ≤ late) (e : Runner) :
    sweptRunner late (sweptRunner early e) = sweptRunner late e := by
  cases stale : e.value.isStale early with
  | true =>
    have marked : (sweptRunner early e).value.isStale late = false := by
      rw [sweptRunner_of_stale stale]
      exact RunnerValue.not_isStale_of_disconnected (e.value.status_withStatus _) late
    rw [sweptRunner_of_fresh marked, sweptRunner_of_stale stale,
      sweptRunner_of_stale (RunnerValue.isStale_of_le stale order)]
  | false => rw [sweptRunner_of_fresh stale]

theorem Undisturbed.passed (h : r.Undisturbed) (keep : Retention) (now : Time.Instant) :
    (r.passed keep now).Undisturbed := by
  have ids : (r.runners.store.entities.map (sweptRunner now)).map Entity.id =
      r.runners.store.entities.map Entity.id := by
    rw [List.map_map]
    apply List.map_congr_left
    intro e _
    rw [Function.comp_apply, sweptRunner]
    split_ifs <;> rfl
  refine ⟨h.jobsPlan, h.runnersPlan, ?_, ?_⟩
  · have whole : (r.passed keep now).runners.store.entities =
        (r.runners.store.entities.map (sweptRunner now)).filter fun d =>
          !(keep.expiredRunners now).accepts d.value.document := by
      rw [← List.filterMap_eq_filter, List.filterMap_map]
      rfl
    rw [whole]
    exact (ids ▸ h.nodup).sublist (List.filter_sublist.map _)
  · exact (List.length_filterMap_le _ _).trans h.numbered

section

variable (hearly : early.IsPlain) (hlate : late.IsPlain) (order : early ≤ late)

include hearly hlate order

/-- What two passes leave of a runner is what the later one leaves of it alone. -/
theorem passedRunner_bind (keep : Retention) (e : Runner) :
    (passedRunner keep early e).bind (passedRunner keep late) = passedRunner keep late e := by
  cases gone : (keep.expiredRunners early).accepts (sweptRunner early e).value.document with
  | true =>
    -- what has expired is marked already, so the later sweep leaves it as it is
    have stays : sweptRunner late e = sweptRunner early e := by
      rw [← swept_swept order, sweptRunner_of_fresh]
      exact RunnerValue.not_isStale_of_disconnected (Retention.status_of_expired gone) late
    have later := Retention.expiredRunners_of_le hearly hlate order gone
    simp [passedRunner, Option.guard, gone, stays, later]
  | false => simp [passedRunner, Option.guard, gone, swept_swept order]

theorem passedJob_bind (keep : Retention) (e : Job) :
    (passedJob keep early e).bind (passedJob keep late) = passedJob keep late e := by
  cases gone : (keep.expiredJobs early).accepts e.value.document with
  | true =>
    have later := Retention.expiredJobs_of_le hearly hlate order gone
    simp [passedJob, Option.guard, gone, later]
  | false => simp [passedJob, Option.guard, gone]

/-- On what a pass left of a runner, an earlier one finds nothing to do. -/
theorem passedRunner_settled {e d : Runner} (h : passedRunner keep late e = some d) :
    passedRunner keep early d = some d ∧ d.value.isStale early = false := by
  obtain ⟨rfl, kept⟩ := Option.guard_eq_some_iff.mp h
  have fresh : (sweptRunner late e).value.isStale early = false := by
    rw [Bool.eq_false_iff]
    intro stale
    have later := RunnerValue.isStale_of_le stale order
    rw [not_isStale_swept] at later
    cases later
  refine ⟨?_, fresh⟩
  rw [passedRunner, sweptRunner_of_fresh fresh]
  apply Option.guard_pos
  rw [Bool.not_eq_true', Bool.eq_false_iff]
  intro gone
  rw [Retention.expiredRunners_of_le hearly hlate order gone] at kept
  cases kept

theorem passedJob_settled {e d : Job} (h : passedJob keep late e = some d) :
    passedJob keep early d = some d := by
  obtain ⟨rfl, kept⟩ := Option.guard_eq_some_iff.mp h
  apply Option.guard_pos
  rw [Bool.not_eq_true', Bool.eq_false_iff]
  intro gone
  rw [Retention.expiredJobs_of_le hearly hlate order gone] at kept
  cases kept

end

/-- A runner that is stale at an instant is so at an earlier one already, or a pass as of the
earlier one leaves it as it is. -/
theorem stale_add (keep : Retention) (order : early ≤ late) (e : Runner) :
    (e.value.isStale late).toNat = (e.value.isStale early).toNat +
      ((passedRunner keep early e).any fun d => d.value.isStale late).toNat := by
  rw [passedRunner, Option.any_guard]
  cases stale : e.value.isStale early with
  | true =>
    have marked : (sweptRunner early e).value.isStale late = false := by
      rw [sweptRunner_of_stale stale]
      exact RunnerValue.not_isStale_of_disconnected (e.value.status_withStatus _) late
    rw [RunnerValue.isStale_of_le stale order, marked, Bool.and_false]
    rfl
  | false =>
    rw [sweptRunner_of_fresh stale, Bool.toNat_false, Nat.zero_add]
    cases gone : (keep.expiredRunners early).accepts e.value.document with
    | true =>
      rw [RunnerValue.not_isStale_of_disconnected (Retention.status_of_expired gone) late]
      rfl
    | false => rfl

/-- What a later pass drops of a list was dropped by the earlier one, or is dropped of what that
left. -/
theorem dropped_add {α : Type} {f g : α → Option α} (bind : ∀ a, (f a).bind g = g a) (l : List α) :
    l.countP (fun a => (g a).isNone) =
      l.countP (fun a => (f a).isNone) + (l.filterMap f).countP fun a => (g a).isNone := by
  apply countP_eq_add_filterMap
  intro a
  rw [← bind a]
  cases f a <;> simp

section

variable (hearly : early.IsPlain) (hlate : late.IsPlain) (order : early ≤ late)

include hearly hlate order

theorem passed_passed (r : Registry) (keep : Retention) :
    (r.passed keep early).passed keep late = r.passed keep late := by
  simp only [passed, List.filterMap_filterMap, passedRunner_bind hearly hlate order,
    passedJob_bind hearly hlate order]

theorem tally_add (r : Registry) (keep : Retention) :
    r.tally keep late = r.tally keep early + (r.passed keep early).tally keep late := by
  have disconnected := countP_eq_add_filterMap (stale_add keep order) r.runners.store.entities
  have jobs := dropped_add (passedJob_bind hearly hlate order keep) r.jobs.store.entities
  have runners := dropped_add (passedRunner_bind hearly hlate order keep) r.runners.store.entities
  rw [tally, disconnected, jobs, runners]
  rfl

theorem settled_runner {d : Runner} (h : d ∈ (r.passed keep late).runners.store.entities) :
    passedRunner keep early d = some d ∧ d.value.isStale early = false := by
  obtain ⟨e, -, left⟩ := List.mem_filterMap.mp h
  exact passedRunner_settled hearly hlate order left

theorem settled_job {d : Job} (h : d ∈ (r.passed keep late).jobs.store.entities) :
    passedJob keep early d = some d := by
  obtain ⟨e, -, left⟩ := List.mem_filterMap.mp h
  exact passedJob_settled hearly hlate order left

theorem passed_settled (r : Registry) (keep : Retention) :
    (r.passed keep late).passed keep early = r.passed keep late := by
  have runners : (r.passed keep late).runners.store.entities.filterMap (passedRunner keep early) =
      (r.passed keep late).runners.store.entities := by
    rw [List.filterMap_congr fun d hd => (settled_runner hearly hlate order hd).1,
      List.filterMap_some]
  have jobs : (r.passed keep late).jobs.store.entities.filterMap (passedJob keep early) =
      (r.passed keep late).jobs.store.entities := by
    rw [List.filterMap_congr fun d hd => settled_job hearly hlate order hd, List.filterMap_some]
  rw [passed, runners, jobs]

theorem tally_settled (r : Registry) (keep : Retention) :
    (r.passed keep late).tally keep early = ⟨0, 0, 0⟩ := by
  rw [tally, CleanupReport.mk.injEq]
  refine ⟨?_, ?_, ?_⟩
  · apply List.countP_eq_zero.mpr
    intro d hd
    simp [(settled_runner hearly hlate order hd).2]
  · apply List.countP_eq_zero.mpr
    intro d hd
    simp [settled_job hearly hlate order hd]
  · apply List.countP_eq_zero.mpr
    intro d hd
    simp [(settled_runner hearly hlate order hd).1]

end

/-- A pass that comes first changes nothing about what a later one leaves, and what they report adds
up; behind the later one a pass as of the earlier instant does nothing. -/
theorem clean_clean (h : r.Undisturbed) (hearly : early.IsPlain) (hlate : late.IsPlain)
    (order : early ≤ late) :
    let first := (clean keep early).run r
    let second := (clean keep late).run first.2
    let single := (clean keep late).run r
    second.2 = single.2 ∧ single.1 = first.1 + second.1 ∧
      (clean keep early).run single.2 = (⟨0, 0, 0⟩, single.2) := by
  simp only [clean_eq_passed h, clean_eq_passed (h.passed keep early),
    clean_eq_passed (h.passed keep late)]
  refine ⟨passed_passed hearly hlate order r keep, tally_add hearly hlate order r keep, ?_⟩
  rw [tally_settled hearly hlate order, passed_settled hearly hlate order]

/-- The earlier pass marks one runner, which it drops, and leaves another one to be marked by the
later pass. -/
theorem clean_clean_assorted :
    let early : Time.Instant := ⟨100, 0, by decide⟩
    let late : Time.Instant := ⟨120, 0, by decide⟩
    let keep : Retention := ⟨⟨50, 0⟩, ⟨60, 0⟩⟩
    let first := (clean keep early).run assorted
    let second := (clean keep late).run first.2
    let single := (clean keep late).run assorted
    assorted.Undisturbed ∧ early.IsPlain ∧ late.IsPlain ∧ early ≤ late ∧
      (second.2 = single.2 ∧ single.1 = first.1 + second.1 ∧
        (clean keep early).run single.2 = (⟨0, 0, 0⟩, single.2)) ∧
      first.1 = ⟨1, 1, 2⟩ ∧ second.1 = ⟨1, 0, 0⟩ ∧ single.1 = ⟨2, 1, 2⟩ := by
  have calm : assorted.Undisturbed := ⟨rfl, rfl, by decide, by decide⟩
  refine ⟨calm, by decide, by decide, by decide, clean_clean calm ?_ ?_ ?_, ?_, ?_, ?_⟩
  all_goals decide +kernel

end Registry

end JobDispatch

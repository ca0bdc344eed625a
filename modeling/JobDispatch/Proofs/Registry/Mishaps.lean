import JobDispatch.Proofs.Registry.Cleaning
import JobDispatch.Proofs.Registry.Serving

/-!
Passes of the cleaner in which calls of the repositories fail. Whichever of them do, in whatever
combination, the pass does all its other actions, each on what the actions before it left, and
reports those alone.
-/

namespace JobDispatch

open Registry (Stores)

/-- What a pass does to what is stored. -/
inductive CleanerAction where
  /-- marks a runner, as it was listed, as disconnected -/
  | mark (runner : Runner)
  | purgeJobs
  | purgeRunners

/-- What an action in which nothing goes wrong does to the report so far and to the stores. -/
def CleanerAction.perform (keep : Retention) (now : Time.Instant) :
    CleanupReport × Stores → CleanerAction → CleanupReport × Stores
  | (report, jobs, runners), mark r =>
    match runners.update r (r.value.withStatus .disconnected) with
    | .ok (_, runners) =>
      ({ report with disconnected := report.disconnected + 1 }, jobs, runners)
    | .error _ => (report, jobs, runners)
  | (report, jobs, runners), purgeJobs =>
    let (n, jobs) := jobs.deleteFrom (keep.expiredJobs now)
    ({ report with purgedJobs := report.purgedJobs + n }, jobs, runners)
  | (report, jobs, runners), purgeRunners =>
    let (n, runners) := runners.deleteFrom (keep.expiredRunners now)
    ({ report with purgedRunners := report.purgedRunners + n }, jobs, runners)

/-- Which calls of a pass fail, and how: the listing of the runners, the marks by their numbers,
and the deletions. -/
structure Mishaps where
  listing : Option Failure
  mark : Nat → Option Failure
  purgeJobs : Option Failure
  purgeRunners : Option Failure

namespace Mishaps

/-- The runners that a pass finds stale, where its listing of them does not fail. -/
def listed (m : Mishaps) (now : Time.Instant) (s : Stores) : List Runner :=
  match m.listing with
  | none => (s.2.all 0 Text.maxWord).items.filter fun r => r.value.isStale now
  | some _ => []

/-- The marks of listed runners, numbered from a first number on, and how each one fails. -/
def marks (m : Mishaps) (rs : List Runner) (first : Nat) : List (CleanerAction × Option Failure) :=
  (rs.zipIdx first).map fun (r, i) => (.mark r, m.mark i)

/-- The actions of a pass in their order, and how each one fails. -/
def attempts (m : Mishaps) (now : Time.Instant) (s : Stores) :
    List (CleanerAction × Option Failure) :=
  m.marks (m.listed now s) 0 ++ [(.purgeJobs, m.purgeJobs), (.purgeRunners, m.purgeRunners)]

/-- The actions that do not fail. -/
def performed (attempts : List (CleanerAction × Option Failure)) : List CleanerAction :=
  (attempts.filter fun a => a.2.isNone).map Prod.fst

/-- What comes of a pass: what comes of those of its actions that do not fail. -/
def outcome (m : Mishaps) (keep : Retention) (now : Time.Instant) (s : Stores) :
    CleanupReport × Stores :=
  (performed (m.attempts now s)).foldl (CleanerAction.perform keep now) (⟨0, 0, 0⟩, s)

/-- Stores with plans by which just these mishaps come about in a pass, and others after it. -/
def planned (m : Mishaps) (now : Time.Instant) (s : Stores) (jobs runners : List Planned) :
    Registry where
  jobs := ⟨s.1, ⟨.deleteFrom, m.purgeJobs⟩ :: jobs⟩
  runners := ⟨s.2, ⟨.all, m.listing⟩ ::
    ((m.marks (m.listed now s) 0).map fun a => ⟨.update, a.2⟩) ++
      ⟨.deleteFrom, m.purgeRunners⟩ :: runners⟩

open CleanerAction (perform)

theorem marks_cons (m : Mishaps) (r : Runner) (rs : List Runner) (first : Nat) :
    m.marks (r :: rs) first =
      (CleanerAction.mark r, m.mark first) :: m.marks rs (first + 1) := by
  rw [marks, List.zipIdx_cons]
  rfl

/-- Marking runners one by one does what the marks that do not fail do, and counts them. -/
theorem disconnectEach_planned (m : Mishaps) (keep : Retention) (now : Time.Instant)
    (rs : List Runner) (first : Nat) (jobs : Store JobValue) (s : Store RunnerValue)
    (plan : List Planned) :
    ∃ n t, (Runners.disconnectEach rs).run
        ⟨s, ((m.marks rs first).map fun a => ⟨.update, a.2⟩) ++ plan⟩ = (n, ⟨t, plan⟩) ∧
      ∀ report : CleanupReport, (performed (m.marks rs first)).foldl (perform keep now)
        (report, jobs, s) =
          ({ report with disconnected := report.disconnected + n }, jobs, t) := by
  induction rs generalizing first s with
  | nil => exact ⟨0, s, rfl, fun report => rfl⟩
  | cons r rs ih =>
    have called := Repository.perform_planned .update r.id
      (fun s => s.update r (r.value.withStatus .disconnected)) s (m.mark first)
      (((m.marks rs (first + 1)).map fun a => ⟨.update, a.2⟩) ++ plan)
    rw [marks_cons, Runners.disconnectEach]
    cases failure : m.mark first with
    | some f =>
      obtain ⟨n, t, run, fold⟩ := ih (first + 1) s
      rw [failure] at called
      refine ⟨0 + n, t, (run_bind_of_run called).trans (run_bind_of_run run), fun report => ?_⟩
      rw [Nat.zero_add]
      exact fold report
    | none =>
      rw [failure] at called
      cases updated : s.update r (r.value.withStatus .disconnected) with
      | error e =>
        -- a mark of a runner that is not as it was listed is refused, which nothing planned
        obtain ⟨n, t, run, fold⟩ := ih (first + 1) s
        simp only [updated] at called
        refine ⟨0 + n, t, (run_bind_of_run called).trans (run_bind_of_run run), fun report => ?_⟩
        rw [Nat.zero_add, ← fold report]
        simp only [performed, List.filter_cons, Option.isNone_none, if_true, List.map_cons,
          List.foldl_cons, perform, updated]
      | ok new =>
        obtain ⟨n, t, run, fold⟩ := ih (first + 1) new.2
        simp only [updated] at called
        refine ⟨1 + n, t, (run_bind_of_run called).trans (run_bind_of_run run), fun report => ?_⟩
        rw [← Nat.add_assoc, ← fold { report with disconnected := report.disconnected + 1 }]
        simp only [performed, List.filter_cons, Option.isNone_none, if_true, List.map_cons,
          List.foldl_cons, perform, updated]

theorem performed_append (as bs : List (CleanerAction × Option Failure)) :
    performed (as ++ bs) = performed as ++ performed bs := by
  rw [performed, List.filter_append, List.map_append]
  rfl

/-- A sweep marks what it lists, where nothing goes wrong, and counts it. -/
theorem counted_sweep (m : Mishaps) (keep : Retention) (now : Time.Instant) (s : Stores)
    (jobs : Repository JobValue) (plan : List Planned) :
    ∃ n t, (Registry.counted (Registry.onRunners (Runners.disconnectStale now))).run
        ⟨jobs, ⟨s.2, ⟨.all, m.listing⟩ ::
          ((m.marks (m.listed now s) 0).map fun a => ⟨.update, a.2⟩) ++ plan⟩⟩ =
        (n, ⟨jobs, ⟨t, plan⟩⟩) ∧
      (performed (m.marks (m.listed now s) 0)).foldl (perform keep now) (⟨0, 0, 0⟩, s) =
        (⟨n, 0, 0⟩, s.1, t) := by
  cases failure : m.listing with
  | some f =>
    have nobody : m.listed now s = [] := by rw [listed, failure]
    have swept : (Runners.disconnectStale now).perform ⟨s.2, ⟨.all, some f⟩ :: plan⟩ =
        (.error (.ofStore (f.error "all")), ⟨s.2, plan⟩) := by
      rw [Runners.disconnectStale, Action.perform_bind, Action.perform_rephrase, Repository.all,
        Repository.perform_planned]
      rfl
    have failed : (Registry.onRunners (Runners.disconnectStale now)).perform
        ⟨jobs, ⟨s.2, ⟨.all, some f⟩ :: plan⟩⟩ =
        (.error (.ofStore (f.error "all")), ⟨jobs, ⟨s.2, plan⟩⟩) :=
      Action.perform_onPart swept
    rw [nobody]
    exact ⟨0, s.2, Registry.counted_run_of_error failed, rfl⟩
  | none =>
    have stale : m.listed now s =
        (s.2.all 0 Text.maxWord).items.filter fun r => r.value.isStale now := by
      rw [listed, failure]
    obtain ⟨n, t, run, fold⟩ := m.disconnectEach_planned keep now (m.listed now s) 0 s.1 s.2 plan
    let marking : List Planned := (m.marks (m.listed now s) 0).map fun a => ⟨.update, a.2⟩
    have swept : (Runners.disconnectStale now).perform
        ⟨s.2, ⟨.all, none⟩ :: (marking ++ plan)⟩ = (.ok n, ⟨t, plan⟩) := by
      rw [Runners.disconnectStale, Action.perform_bind, Action.perform_rephrase, Repository.all,
        Repository.perform_planned]
      change (Except.ok ((Runners.disconnectEach _).run _).1,
        ((Runners.disconnectEach _).run _).2) = _
      rw [← stale, run]
    have marked : (Registry.onRunners (Runners.disconnectStale now)).perform
        ⟨jobs, ⟨s.2, ⟨.all, none⟩ :: (marking ++ plan)⟩⟩ = (.ok n, ⟨jobs, ⟨t, plan⟩⟩) :=
      Action.perform_onPart swept
    refine ⟨n, t, Registry.counted_run_of_ok marked, (fold ⟨0, 0, 0⟩).trans ?_⟩
    rw [Nat.zero_add]

/-- What a deletion deletes, if it does not fail, and what it leaves. -/
def deleted {α : Type} [Documented α] (failure : Option Failure) (f : Filter) (s : Store α) :
    Nat × Store α :=
  match failure with
  | none => s.deleteFrom f
  | some _ => (0, s)

theorem counted_deleteFrom {α : Type} [Documented α] {get : Registry → Repository α}
    {set : Repository α → Registry → Registry} {r : Registry} {s : Store α}
    {failure : Option Failure} {plan : List Planned} (f : Filter)
    (part : get r = ⟨s, ⟨.deleteFrom, failure⟩ :: plan⟩) :
    (Registry.counted ((Repository.deleteFrom f).onPart get set)).run r =
      ((deleted failure f s).1, set ⟨(deleted failure f s).2, plan⟩ r) := by
  have called := Repository.deleteFrom_planned f s failure plan
  rw [← part] at called
  cases failure with
  | some e => exact Registry.counted_run_of_error (Action.perform_onPart called)
  | none => exact Registry.counted_run_of_ok (Action.perform_onPart called)

/-- What becomes of a report and of the stores over the deletions that do not fail. -/
theorem foldl_deletions (m : Mishaps) (keep : Retention) (now : Time.Instant) (n : Nat)
    (jobs : Store JobValue) (runners : Store RunnerValue) :
    (performed [(.purgeJobs, m.purgeJobs), (.purgeRunners, m.purgeRunners)]).foldl
        (perform keep now) (⟨n, 0, 0⟩, jobs, runners) =
      (⟨n, (deleted m.purgeJobs (keep.expiredJobs now) jobs).1,
          (deleted m.purgeRunners (keep.expiredRunners now) runners).1⟩,
        (deleted m.purgeJobs (keep.expiredJobs now) jobs).2,
        (deleted m.purgeRunners (keep.expiredRunners now) runners).2) := by
  cases m.purgeJobs <;> cases m.purgeRunners <;> simp [performed, deleted, perform]

/-- A pass of the cleaner comes to what its actions that do not fail come to, one after the other,
and reports what they did. -/
theorem clean_outcome (m : Mishaps) (keep : Retention) (now : Time.Instant) (s : Stores)
    (jobs runners : List Planned) :
    (Registry.clean keep now).run (m.planned now s jobs runners) =
      ((m.outcome keep now s).1,
        ⟨⟨(m.outcome keep now s).2.1, jobs⟩, ⟨(m.outcome keep now s).2.2, runners⟩⟩) := by
  obtain ⟨n, t, swept, marked⟩ := m.counted_sweep keep now s
    ⟨s.1, ⟨.deleteFrom, m.purgeJobs⟩ :: jobs⟩ (⟨.deleteFrom, m.purgeRunners⟩ :: runners)
  let dropped := deleted m.purgeRunners (keep.expiredRunners now) t
  let purged := deleted m.purgeJobs (keep.expiredJobs now) s.1
  have jobsGone : (Registry.counted
      (Registry.onJobs (Repository.deleteFrom (keep.expiredJobs now)))).run
      ⟨⟨s.1, ⟨.deleteFrom, m.purgeJobs⟩ :: jobs⟩, ⟨t, ⟨.deleteFrom, m.purgeRunners⟩ :: runners⟩⟩ =
      (purged.1, ⟨⟨purged.2, jobs⟩, ⟨t, ⟨.deleteFrom, m.purgeRunners⟩ :: runners⟩⟩) :=
    counted_deleteFrom (keep.expiredJobs now) rfl
  have runnersGone : (Registry.counted
      (Registry.onRunners (Repository.deleteFrom (keep.expiredRunners now)))).run
      ⟨⟨purged.2, jobs⟩, ⟨t, ⟨.deleteFrom, m.purgeRunners⟩ :: runners⟩⟩ =
      (dropped.1, ⟨⟨purged.2, jobs⟩, ⟨dropped.2, runners⟩⟩) :=
    counted_deleteFrom (keep.expiredRunners now) rfl
  have outcome : m.outcome keep now s = (⟨n, purged.1, dropped.1⟩, purged.2, dropped.2) := by
    rw [Mishaps.outcome, attempts, performed_append, List.foldl_append, marked, foldl_deletions]
  rw [Registry.clean, planned, run_bind_of_run swept, run_bind_of_run jobsGone,
    run_bind_of_run runnersGone, outcome]
  rfl

/-- The first mark goes wrong, so its runner is neither marked nor deleted in this pass. -/
example : (outcome ⟨none, fun i => if i = 0 then some .versionConflict else none, none, none⟩
    ⟨⟨50, 0⟩, ⟨60, 0⟩⟩ ⟨120, 0, by decide⟩ Registry.assorted.stores).1 = ⟨1, 1, 1⟩ := by
  decide +kernel

end Mishaps

end JobDispatch

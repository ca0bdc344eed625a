import JobDispatch.Proofs.Registry.Lifecycle
import JobDispatch.Proofs.Registry.Version
import JobDispatch.Proofs.Time.Elapsed
import Mathlib.Data.List.ReduceOption

/-!
What a registry has on record about its jobs after a run, whatever was patched: where they come
from, how often they were patched, and the instants at which they were submitted, started and
finished. A job that is done stays as it is until the cleaner deletes it.
-/

namespace JobDispatch

/-- What a job has from its launch. -/
structure JobOrigin where
  name : Option String
  category : Option String
  arguments : List String
  accountId : Option String
  submitted : Option Time.Instant
  deriving DecidableEq

def JobValue.origin (v : JobValue) : JobOrigin :=
  ⟨v.name, v.category, v.arguments, v.accountId, v.processing.submitted⟩

/-- The instants that are set, in the order of a job's life. -/
def Processing.stamps (p : Processing) : List Time.Instant :=
  [p.submitted, p.started, p.finished].reduceOption

/-- The instants are in order, and none of them is still to come. -/
def Processing.Past (p : Processing) (now : Time.Instant) : Prop :=
  (p.stamps ++ [now]).Pairwise (· ≤ ·)

theorem Processing.Past.mono {p : Processing} {now later : Time.Instant} (h : p.Past now)
    (hl : now ≤ later) : p.Past later := by
  obtain ⟨ordered, -, past⟩ := List.pairwise_append.mp h
  refine List.pairwise_append.mpr ⟨ordered, List.pairwise_singleton _ _, ?_⟩
  intro t ht u hu
  rw [List.mem_singleton.mp hu]
  exact Time.Instant.le_trans (past t ht now (List.mem_singleton_self now)) hl

/-- What is stamped now, after all that was stamped before, is in order. -/
theorem Processing.Past.stamp {p : Processing} {now : Time.Instant} (h : p.Past now) :
    (p.stamps ++ [now, now]).Pairwise (· ≤ ·) := by
  rw [← List.singleton_append, ← List.append_assoc]
  refine List.pairwise_append.mpr ⟨h, List.pairwise_singleton _ _, ?_⟩
  intro t ht u hu
  rw [List.mem_singleton.mp hu]
  rcases List.mem_append.mp ht with ht | ht
  · exact (List.pairwise_append.mp h).2.2 t ht now (List.mem_singleton_self now)
  · rw [List.mem_singleton.mp ht]
    exact now.le_refl

namespace Jobs

variable {now : Time.Instant} {job : Job} {p : JobPatch} {value : JobValue}

theorem checkPatch_origin (accepted : checkPatch now job p = .ok value) :
    value.origin = job.value.origin := by
  obtain ⟨-, -, rfl⟩ := (checkPatch_eq_ok_iff now job p value).mp accepted
  simp only [JobChange.appliedAt]
  split_ifs <;> rfl

/-- A patch finishes a job if and only if it makes it done. -/
theorem checkPatch_finished (accepted : checkPatch now job p = .ok value)
    (before : job.value.processing.finished ≠ none ↔ job.value.status.run = some .done) :
    value.processing.finished ≠ none ↔ value.status.run = some .done := by
  obtain ⟨-, open_, -⟩ := checkPatch_status accepted
  have unfinished : job.value.processing.finished = none := by
    by_contra h
    exact open_ (before.mp h)
  rw [checkPatch_processing accepted]
  by_cases ends : value.status.run = some .done <;> simp [ends, unfinished]

/-- What a patch stamps comes after what was stamped before. -/
theorem checkPatch_past (accepted : checkPatch now job p = .ok value)
    (unfinished : job.value.processing.finished = none) (before : job.value.processing.Past now) :
    value.processing.Past now := by
  have processing := checkPatch_processing accepted
  generalize job.value.processing = q at processing unfinished before
  obtain ⟨submitted, started, finished⟩ := q
  simp only at processing unfinished
  subst unfinished
  by_cases ends : value.status.run = some .done
  · have idle : ¬ (job.value.status.run = some .pending ∧ value.status.run = some .running) := by
      rw [ends]
      simp
    rw [if_neg idle, if_pos ends] at processing
    have stamps : value.processing.stamps =
        Processing.stamps ⟨submitted, started, none⟩ ++ [now] := by
      rw [processing]
      cases submitted <;> cases started <;> rfl
    rw [Processing.Past, stamps, List.append_assoc]
    exact before.stamp
  · rw [if_neg ends] at processing
    by_cases starts : job.value.status.run = some .pending ∧ value.status.run = some .running
    · rw [if_pos starts] at processing
      -- an earlier start is forgotten
      have first : Processing.Past ⟨submitted, none, none⟩ now := by
        refine before.sublist (List.Sublist.append_right ?_ [now])
        cases submitted <;> cases started <;> simp [Processing.stamps, List.reduceOption]
      have stamps : value.processing.stamps =
          Processing.stamps ⟨submitted, none, none⟩ ++ [now] := by
        rw [processing]
        cases submitted <;> rfl
      rw [Processing.Past, stamps, List.append_assoc]
      exact first.stamp
    · rw [if_neg starts] at processing
      rw [processing]
      exact before

end Jobs

def RegistryEvent.now : RegistryEvent → Time.Instant
  | launch now _ => now
  | patch now _ _ => now
  | clean _ now => now

namespace Registry

/-- What the registry answers to an event. -/
def replyTo (r : Registry) : RegistryEvent → JobReply
  | .launch now req => .launched ((onJobs (Jobs.launch now req)).perform r).1
  | .patch now id p => .patched ((onJobs (Jobs.patch now id p)).perform r).1
  | .clean keep now => .purged (.ok ((clean keep now).run r).1.purgedJobs)

/-- The calls that a registry gets, with its replies. -/
def logFrom (r : Registry) : List RegistryEvent → JobLog
  | [] => []
  | e :: es => (e.call, r.replyTo e) :: logFrom (r.react e) es

/-- The log of a run. -/
def log (es : List RegistryEvent) : JobLog := logFrom empty es

theorem log_snoc (es : List RegistryEvent) (e : RegistryEvent) :
    log (es ++ [e]) = log es ++ [(e.call, (run es).replyTo e)] := by
  have go (r : Registry) :
      logFrom r (es ++ [e]) = logFrom r es ++ [(e.call, (es.foldl react r).replyTo e)] := by
    induction es generalizing r with
    | nil => rfl
    | cons d es ih => simp [logFrom, ih]
  exact go empty

theorem counted_run {ε : Type} (a : Action Registry ε Nat) (r : Registry) :
    (counted a).run r =
      (match (a.perform r).1 with
        | .ok n => n
        | .error _ => 0, (a.perform r).2) := rfl

/-- The registry answers an event as its call is answered on the stored jobs. -/
theorem replyTo_eq {r : Registry} {s : Store JobValue} (h : r.jobs = Jobs.inMemory s)
    (e : RegistryEvent) : r.replyTo e = (e.call.whole s).1 := by
  cases e with
  | launch now req =>
    change JobReply.launched ((Jobs.launch now req).perform r.jobs).1 = _
    rw [h]
    rfl
  | patch now id p =>
    change JobReply.patched ((Jobs.patch now id p).perform r.jobs).1 = _
    rw [h]
    rfl
  | clean keep now =>
    generalize hq : ((onRunners (Runners.disconnectStale now)).perform r).2 = q
    have jobs : q.jobs = Jobs.inMemory s := by
      rw [← hq, ← h]
      rfl
    have purged : ((clean keep now).run r).1.purgedJobs =
        ((counted (onJobs (Repository.deleteFrom (keep.expiredJobs now)))).run q).1 := by
      rw [← hq]
      rfl
    have deleted : ((onJobs (Repository.deleteFrom (keep.expiredJobs now))).perform q).1 =
        .ok (s.deleteFrom (keep.expiredJobs now)).1 := by
      change ((Repository.deleteFrom (keep.expiredJobs now)).perform q.jobs).1 = _
      rw [jobs]
      rfl
    rw [replyTo, purged, counted_run, deleted]
    rfl

theorem log_leads (es : List RegistryEvent) :
    JobLog.Leads empty.jobs.store (log es) (stored es) := by
  induction es using List.reverseRecOn with
  | nil => exact .nil
  | append_singleton es e ih =>
    rw [log_snoc]
    refine ih.snoc ?_
    rw [stored_snoc, replyTo_eq (run_jobs es) e]

/-- A stored job has version 1 plus the number of its successful patches. -/
theorem version_of_stored {es : List RegistryEvent} {job : Job}
    (hjob : job ∈ (stored es).entities) : job.version = 1 + (log es).patches job.id :=
  ((log_leads es).counted (Store.sound_empty "J")).version job.id job
    ((stored_sound es).retrieve_of_mem hjob)

theorem finished_of_stored (es : List RegistryEvent) :
    ∀ job ∈ (stored es).entities,
      job.value.processing.finished ≠ none ↔ job.value.status.run = some .done := by
  refine forall_jobs (Q := fun job =>
    job.value.processing.finished ≠ none ↔ job.value.status.run = some .done) ?_ ?_
  · intro id now req
    simp [JobCreation.appliedAt, CreateJob.value, JobValue.blank]
  · intro ds now id p job value _ _ before accepted
    exact Jobs.checkPatch_finished accepted before

/-- Under a clock that never goes back, what is stamped on a job is in order, and past. -/
theorem past_of_stored (es : List RegistryEvent) (clock : es.Pairwise fun d e => d.now ≤ e.now)
    (now : Time.Instant) (later : ∀ e ∈ es, e.now ≤ now) :
    ∀ job ∈ (stored es).entities, job.value.processing.Past now := by
  induction es using List.reverseRecOn generalizing now with
  | nil => exact fun job hjob => absurd hjob List.not_mem_nil
  | append_singleton es e ih =>
    obtain ⟨clock, -, last⟩ := List.pairwise_append.mp clock
    have before := ih clock e.now fun d hd => last d hd e (List.mem_singleton_self e)
    have after : ∀ job ∈ (stored (es ++ [e])).entities, job.value.processing.Past e.now := by
      refine (stored_effect es e).forall_jobs
        (Q := fun job => job.value.processing.Past e.now) ?_ ?_ before
      · intro launched req hc
        obtain rfl := RegistryEvent.eq_launch_of_call hc
        simp [Processing.Past, Processing.stamps, List.reduceOption, Store.create,
          JobCreation.appliedAt, CreateJob.value, JobValue.blank, RegistryEvent.now,
          Time.Instant.le_refl]
      · intro patched id p job value hc found accepted
        obtain rfl := RegistryEvent.eq_patch_of_call hc
        obtain ⟨hm, -⟩ := Store.retrieve_mem found
        have unfinished : job.value.processing.finished = none := by
          by_contra h
          exact (Jobs.checkPatch_status accepted).2.1 ((finished_of_stored es job hm).mp h)
        exact Jobs.checkPatch_past accepted unfinished (before job hm)
    intro job hjob
    exact (after job hjob).mono (later e (by simp))

/-- A pass of the cleaner between two moments of a run, by which a job disappears. -/
def Purged (id : String) (ds es : List RegistryEvent) : Prop :=
  ∃ fs keep now, ds <+: fs ∧ fs ++ [.clean keep now] <+: es ∧
    (stored fs).retrieve id ≠ none ∧ (stored (fs ++ [.clean keep now])).retrieve id = none

/-- Nothing but the cleaner makes a job disappear. -/
theorem purged_of_absent {ds gs : List RegistryEvent} {id : String}
    (before : (stored ds).retrieve id ≠ none) (after : (stored (ds ++ gs)).retrieve id = none) :
    Purged id ds (ds ++ gs) := by
  induction gs using List.reverseRecOn with
  | nil => exact absurd (by simpa using after) before
  | append_singleton gs e ih =>
    rw [← List.append_assoc] at after ⊢
    by_cases absent : (stored (ds ++ gs)).retrieve id = none
    · obtain ⟨fs, keep, now, hdf, hfs, purged⟩ := ih absent
      exact ⟨fs, keep, now, hdf, hfs.trans (List.prefix_append _ [e]), purged⟩
    · obtain ⟨f, hf⟩ := (stored_effect (ds ++ gs) e).purge_of_absent absent after
      cases e with
      | clean keep now =>
        exact ⟨ds ++ gs, keep, now, List.prefix_append ds gs, List.prefix_rfl, absent, after⟩
      | _ => cases hf

/-- What holds of the jobs that are stored after a run: where they come from, how often they were
patched and when they passed the steps of their lives. -/
structure WellKept (es : List RegistryEvent) : Prop where
  finished : ∀ job ∈ (stored es).entities,
    job.value.processing.finished ≠ none ↔ job.value.status.run = some .done
  /-- a job that is done stays as it is, or is deleted by the cleaner and does not come back -/
  final : ∀ ds, ds <+: es → ∀ id old, (stored ds).retrieve id = some old →
    old.value.status.run = some .done → (stored es).retrieve id = some old ∨
      ((stored es).retrieve id = none ∧ Purged id ds es)
  origin : ∀ ds, ds <+: es → ∀ id old new, (stored ds).retrieve id = some old →
    (stored es).retrieve id = some new → new.value.origin = old.value.origin
  version : ∀ job ∈ (stored es).entities, job.version = 1 + (log es).patches job.id
  ordered : ∀ job ∈ (stored es).entities, job.value.processing.stamps.Pairwise (· ≤ ·)

theorem wellKept_run (es : List RegistryEvent)
    (clock : es.Pairwise fun d e => d.now ≤ e.now) : WellKept es where
  finished := finished_of_stored es
  final := by
    rintro ds ⟨gs, rfl⟩ id old found done
    have lasting : Lasting (stored (ds ++ gs)) id fun job => job = old := by
      refine lasting_append (lasting_of_retrieve (stored_sound ds) found rfl) ?_
      rintro fs now p job value - - accepted rfl
      exact absurd done (Jobs.checkPatch_status accepted).2.1
    cases after : (stored (ds ++ gs)).retrieve id with
    | some new => exact .inl (congrArg some (lasting.stored new after))
    | none => exact .inr ⟨rfl, purged_of_absent (by simp [found]) after⟩
  origin := by
    rintro ds ⟨gs, rfl⟩ id old new found after
    refine (lasting_append (Q := fun job => job.value.origin = old.value.origin)
      (lasting_of_retrieve (stored_sound ds) found rfl) ?_).stored new after
    intro fs now p job value _ _ accepted same
    exact (Jobs.checkPatch_origin accepted).trans same
  version _ := version_of_stored
  ordered job hjob := by
    rcases List.eq_nil_or_concat es with rfl | ⟨ds, e, rfl⟩
    · exact absurd hjob List.not_mem_nil
    · have later : ∀ d ∈ ds.concat e, d.now ≤ e.now := by
        rw [List.concat_eq_append] at clock ⊢
        intro d hd
        rcases List.mem_append.mp hd with hd | hd
        · exact (List.pairwise_append.mp clock).2.2 d hd e (List.mem_singleton_self e)
        · rw [List.mem_singleton.mp hd]
          exact e.now.le_refl
      exact (List.pairwise_append.mp (past_of_stored _ clock e.now later job hjob)).1

/-- Two jobs: one is pending again after its start and is done without a new one, the other one is
done, reported again to no effect, and deleted. -/
theorem wellKept_busy :
    let at_ (n : Nat) : Time.Instant := (Time.Instant.of? n 0).getD .epoch
    let es : List RegistryEvent :=
      [.launch (at_ 1) ⟨some "n", some "c", some "a", []⟩,
        .launch (at_ 1) ⟨some "m", some "c", some "a", ["x"]⟩,
        .patch (at_ 2) "J1" (.reserve 1), .patch (at_ 3) "J2" (.reserve 1),
        .patch (at_ 4) "J1" ⟨2, some .pending, none⟩,
        .patch (at_ 5) "J2" ⟨2, some (.done .success), some "r"⟩,
        .patch (at_ 6) "J2" ⟨3, some (.done .failure), none⟩,
        .patch (at_ 7) "J1" ⟨3, some (.done .failure), none⟩,
        .clean ⟨⟨1, 0⟩, ⟨1, 0⟩⟩ (at_ 7)]
    (es.Pairwise fun d e => d.now ≤ e.now) ∧ WellKept es ∧
      (stored es).entities.map (fun job => (job.id, job.version)) = [("J1", 4)] :=
  ⟨by decide, wellKept_run _ (by decide), by decide +kernel⟩

end Registry

end JobDispatch

import JobDispatch.Proofs.Page
import JobDispatch.Proofs.Store.Identity
import JobDispatch.Proofs.Store.Repository
import JobDispatch.Proofs.Time.Elapsed
import JobDispatch.Registry.Cleaner

/-!
What one pass of the cleaner does, told with whole numbers of nanoseconds: which runners it marks
as disconnected, and which runners and jobs it deletes then.
-/

namespace JobDispatch

/-- A runner is silent when its time to live has passed since it was last heard of. -/
def RunnerValue.Silent (now : Time.Instant) (v : RunnerValue) : Prop :=
  v.status ≠ some .disconnected ∧ ∃ ping ∈ v.lastPing, ∃ ttl ∈ v.timeToLive,
    ping.elapsed + ttl * Time.milliard < now.elapsed

instance (now : Time.Instant) (v : RunnerValue) : Decidable (v.Silent now) :=
  inferInstanceAs (Decidable (_ ∧ _))

/-- The value of a runner that is marked; all else about it stays. -/
def RunnerValue.disconnected (v : RunnerValue) : RunnerValue :=
  { v with runtime := v.runtime.map fun r => { r with status := some .disconnected } }

namespace Retention

/-- A disconnected runner is not kept when it was last heard of too long ago. -/
def DropsRunner (keep : Retention) (now : Time.Instant) (v : RunnerValue) : Prop :=
  v.status = some .disconnected ∧ ∃ ping ∈ v.lastPing,
    ping.elapsed + keep.runners.length < now.elapsed

/-- A job that is done is not kept when it finished too long ago. -/
def DropsJob (keep : Retention) (now : Time.Instant) (v : JobValue) : Prop :=
  v.status.run = some .done ∧ ∃ finished ∈ v.processing.finished,
    finished.elapsed + keep.jobs.length < now.elapsed

instance (keep : Retention) (now : Time.Instant) (v : RunnerValue) :
    Decidable (keep.DropsRunner now v) :=
  inferInstanceAs (Decidable (_ ∧ _))

instance (keep : Retention) (now : Time.Instant) (v : JobValue) :
    Decidable (keep.DropsJob now v) :=
  inferInstanceAs (Decidable (_ ∧ _))

end Retention

namespace Registry

/-- The runners of a registry after the silent ones were marked, in their order. -/
def marked (r : Registry) (now : Time.Instant) : List Runner :=
  r.runners.store.entities.map fun e =>
    if e.value.Silent now then ⟨e.id, e.version + 1, e.value.disconnected⟩ else e

/-- What a pass of the cleaner has to leave of a registry. -/
def cleaned (r : Registry) (keep : Retention) (now : Time.Instant) : Registry where
  jobs := { r.jobs with store := { r.jobs.store with
    entities := r.jobs.store.entities.filter fun e => ¬ keep.DropsJob now e.value } }
  runners := { r.runners with store := { r.runners.store with
    entities := (r.marked now).filter fun e => ¬ keep.DropsRunner now e.value } }

/-- What a pass of the cleaner has to report. -/
def cleanup (r : Registry) (keep : Retention) (now : Time.Instant) : CleanupReport where
  disconnected := r.runners.store.entities.countP fun e => e.value.Silent now
  purgedJobs := r.jobs.store.entities.countP fun e => keep.DropsJob now e.value
  purgedRunners := (r.marked now).countP fun e => keep.DropsRunner now e.value

/-- Nothing is planned to go wrong, no runner is stored twice, the runners can be numbered by
words, their times to live are positive, and no instant lies in a leap second. -/
structure InOrder (r : Registry) : Prop where
  jobsPlan : r.jobs.plan = []
  runnersPlan : r.runners.plan = []
  nodup : (r.runners.store.entities.map Entity.id).Nodup
  numbered : r.runners.store.entities.length ≤ Text.maxWord
  lives : ∀ e ∈ r.runners.store.entities, ∀ ttl ∈ e.value.timeToLive, 0 < ttl
  pings : ∀ e ∈ r.runners.store.entities, ∀ t ∈ e.value.lastPing, t.IsPlain
  finishes : ∀ e ∈ r.jobs.store.entities, ∀ t ∈ e.value.processing.finished, t.IsPlain

end Registry

theorem RunnerValue.isStale_iff {v : RunnerValue} {now : Time.Instant}
    (lives : ∀ ttl ∈ v.timeToLive, 0 < ttl) (pings : ∀ t ∈ v.lastPing, t.IsPlain)
    (hnow : now.IsPlain) : v.isStale now = true ↔ v.Silent now := by
  unfold isStale Silent
  cases hp : v.lastPing with
  | none => simp
  | some ping =>
    cases ht : v.timeToLive with
    | none => simp
    | some ttl =>
      have passed := Time.Instant.addSeconds_passed_iff (pings ping hp) hnow (lives ttl ht)
      simp [passed]

/-- Marking a runner that was ever heard of changes its status only. -/
theorem RunnerValue.withStatus_of_heard {v : RunnerValue} {ping : Time.Instant}
    (h : ping ∈ v.lastPing) : v.withStatus .disconnected = v.disconnected := by
  unfold withStatus disconnected
  cases hr : v.runtime with
  | none => simp [lastPing, hr] at h
  | some runtime => rfl

theorem RunnerValue.Silent.withStatus {v : RunnerValue} {now : Time.Instant} (h : v.Silent now) :
    v.withStatus .disconnected = v.disconnected := by
  obtain ⟨-, ping, hp, -⟩ := h
  exact withStatus_of_heard hp

theorem RunnerValue.lastPing_disconnected (v : RunnerValue) :
    v.disconnected.lastPing = v.lastPing := by
  unfold lastPing disconnected
  cases v.runtime <;> rfl

theorem Filter.accepts_pair (f g : Filter) (doc : Document) :
    (Filter.conj [f, g]).accepts doc = (f.accepts doc && g.accepts doc) := by
  rw [accepts, allAccept, allAccept, allAccept, Bool.and_true]

/-- A time field lies before a cutoff if and only if the numbers say so. -/
theorem Filter.accepts_before_cutoff (doc : Document) (field : String)
    {time : Option Time.Instant} (value : doc field = time.map .time)
    (plain : ∀ t ∈ time, t.IsPlain) {now : Time.Instant} (hnow : now.IsPlain) (s : Time.Span) :
    (Filter.before field (Retention.cutoff now s)).accepts doc =
      decide (∃ t ∈ time, t.elapsed + s.length < now.elapsed) := by
  rw [accepts, value]
  cases time with
  | none => simp
  | some t =>
    have before := Time.Instant.before_sub_iff (plain t rfl) hnow s
    rw [Bool.eq_iff_iff, decide_eq_true_iff]
    simpa [Retention.cutoff] using before

theorem RunnerValue.accepts_disconnected (v : RunnerValue) :
    (Filter.eq "runtime.status" RunnerStatus.disconnected.name).accepts v.document =
      decide (v.status = some .disconnected) := by
  have field : v.document "runtime.status" = v.status.map fun s => .text s.name := rfl
  rw [Filter.accepts, field]
  rcases v.status with _ | _ | _ | _ <;> rfl

namespace Retention

variable {keep : Retention} {now : Time.Instant}

theorem accepts_expiredRunners {v : RunnerValue} (pings : ∀ t ∈ v.lastPing, t.IsPlain)
    (hnow : now.IsPlain) :
    (keep.expiredRunners now).accepts (Documented.document v) =
      decide (keep.DropsRunner now v) := by
  have ping := Filter.accepts_before_cutoff v.document "runtime.last_ping" rfl pings hnow
    keep.runners
  change (Filter.conj [_, _]).accepts v.document = _
  rw [Filter.accepts_pair, v.accepts_disconnected, ping, ← Bool.decide_and]
  rfl

theorem accepts_expiredJobs {v : JobValue} (finishes : ∀ t ∈ v.processing.finished, t.IsPlain)
    (hnow : now.IsPlain) :
    (keep.expiredJobs now).accepts (Documented.document v) = decide (keep.DropsJob now v) := by
  have status : (Filter.eq "status.run" RunStatus.done.name).accepts v.document =
      decide (v.status.run = some .done) := by
    have field : v.document "status.run" = v.status.run.map fun s => .text s.name := rfl
    rw [Filter.accepts, field]
    rcases v.status.run with _ | _ | _ | _ <;> rfl
  have finished := Filter.accepts_before_cutoff v.document "processing.finished" rfl finishes hnow
    keep.jobs
  change (Filter.conj [_, _]).accepts v.document = _
  rw [Filter.accepts_pair, status, finished, ← Bool.decide_and]
  rfl

end Retention

/-- Marking some runners, as they are stored, marks them where they are. -/
theorem Runners.disconnectEach_run {s : Store RunnerValue}
    (nodup : (s.entities.map Entity.id).Nodup) {rs : List Runner}
    (stored : ∀ r ∈ rs, r ∈ s.entities) (once : (rs.map Entity.id).Nodup) :
    (disconnectEach rs).run ⟨s, []⟩ = (rs.length, ⟨{ s with
      entities := s.entities.map fun e =>
        if e ∈ rs then ⟨e.id, e.version + 1, e.value.withStatus .disconnected⟩ else e }, []⟩) := by
  induction rs generalizing s with
  | nil =>
    change (0, (⟨s, []⟩ : Repository RunnerValue)) = _
    simp
  | cons r rs ih =>
    obtain ⟨fresh, once⟩ := List.nodup_cons.mp once
    have hr := stored r List.mem_cons_self
    let new : Runner := ⟨r.id, r.version + 1, r.value.withStatus .disconnected⟩
    have put : (s.put new).entities =
        s.entities.map fun e => if e.id = new.id then new else e :=
      Store.replace_eq_map nodup new
    have updated : (Repository.update r (r.value.withStatus .disconnected)).perform ⟨s, []⟩ =
        (.ok new, ⟨s.put new, []⟩) := by
      have found := Store.update_eq s r r (r.value.withStatus .disconnected)
        (Store.retrieve_of_nodup nodup hr)
      rw [if_pos rfl] at found
      simp only [Repository.update, Repository.perform_call, found, new]
    -- so the rest of the list is still as it is stored when its turn comes
    have others (e : Runner) (he : e ∈ rs) : e.id ≠ r.id := fun same =>
      fresh (same ▸ List.mem_map_of_mem he)
    have rest := @ih (s.put new) (by rw [Store.put, Store.replace_ids]; exact nodup) ?_ once
    · have marks : ((s.put new).entities.map fun e =>
          if e ∈ rs then ⟨e.id, e.version + 1, e.value.withStatus .disconnected⟩ else e) =
          s.entities.map fun e => if e ∈ r :: rs then
            ⟨e.id, e.version + 1, e.value.withStatus .disconnected⟩ else e := by
        rw [put, List.map_map]
        apply List.map_congr_left
        intro e he
        by_cases same : e.id = r.id
        · obtain rfl := List.inj_on_of_nodup_map nodup he hr same
          have done : new ∉ rs := fun h => others new h rfl
          simp [new, done]
        · have other : e ≠ r := fun h => same (congrArg Entity.id h)
          simp [new, same, other]
      rw [disconnectEach, run_bind_of_run updated, run_bind_of_run rest, marks]
      exact Prod.ext (Nat.add_comm 1 rs.length) rfl
    · intro e he
      rw [put]
      refine List.mem_map.mpr ⟨e, stored e (List.mem_cons_of_mem r he), ?_⟩
      rw [if_neg (others e he)]

/-- A sweep marks each runner that is stale, where it stands, and no other. -/
theorem Runners.disconnectStale_stale {s : Store RunnerValue} (now : Time.Instant)
    (nodup : (s.entities.map Entity.id).Nodup) (numbered : s.entities.length ≤ Text.maxWord) :
    (disconnectStale now).perform ⟨s, []⟩ =
      (.ok (s.entities.countP fun e => e.value.isStale now), ⟨{ s with
        entities := s.entities.map fun e => if e.value.isStale now then
          ⟨e.id, e.version + 1, e.value.withStatus .disconnected⟩ else e }, []⟩) := by
  have items : (s.all 0 Text.maxWord).items = s.entities := Page.items_window numbered
  have swept := Runners.disconnectEach_run nodup
    (fun e (he : e ∈ s.entities.filter fun e => e.value.isStale now) => (List.mem_filter.mp he).1)
    (nodup.sublist (List.filter_sublist.map _))
  have marks : (s.entities.map fun e => if e ∈ s.entities.filter (fun e => e.value.isStale now) then
      ⟨e.id, e.version + 1, e.value.withStatus .disconnected⟩ else e) =
      s.entities.map fun e => if e.value.isStale now then
        ⟨e.id, e.version + 1, e.value.withStatus .disconnected⟩ else e := by
    apply List.map_congr_left
    intro e he
    simp [he]
  rw [marks, ← List.countP_eq_length_filter] at swept
  simp only [disconnectStale, Action.perform_bind, Action.perform_rephrase, Repository.all,
    Repository.perform_call, Except.mapError, items]
  change (Except.ok ((disconnectEach _).run _).1, ((disconnectEach _).run _).2) = _
  rw [swept]

/-- Marking the stale runners of a repository marks those that are silent. -/
theorem Runners.disconnectStale_perform {s : Store RunnerValue} {now : Time.Instant}
    (nodup : (s.entities.map Entity.id).Nodup) (numbered : s.entities.length ≤ Text.maxWord)
    (lives : ∀ e ∈ s.entities, ∀ ttl ∈ e.value.timeToLive, 0 < ttl)
    (pings : ∀ e ∈ s.entities, ∀ t ∈ e.value.lastPing, t.IsPlain) (hnow : now.IsPlain) :
    (disconnectStale now).perform ⟨s, []⟩ =
      (.ok (s.entities.countP fun e => e.value.Silent now), ⟨{ s with
        entities := s.entities.map fun e => if e.value.Silent now then
          ⟨e.id, e.version + 1, e.value.disconnected⟩ else e }, []⟩) := by
  have stale (e : Runner) (he : e ∈ s.entities) : e.value.isStale now = true ↔ e.value.Silent now :=
    RunnerValue.isStale_iff (lives e he) (pings e he) hnow
  have count : s.entities.countP (fun e => e.value.isStale now) =
      s.entities.countP fun e => e.value.Silent now := by
    apply List.countP_congr
    intro e he
    rw [stale e he, decide_eq_true_iff]
  have marks : (s.entities.map fun e => if e.value.isStale now then
      ⟨e.id, e.version + 1, e.value.withStatus .disconnected⟩ else e) =
      s.entities.map fun e =>
        if e.value.Silent now then ⟨e.id, e.version + 1, e.value.disconnected⟩ else e := by
    apply List.map_congr_left
    intro e he
    by_cases silent : e.value.Silent now
    · rw [if_pos ((stale e he).mpr silent), if_pos silent, silent.withStatus]
    · rw [if_neg fun h => silent ((stale e he).mp h), if_neg silent]
  rw [disconnectStale_stale now nodup numbered, count, marks]

/-- Deleting what a filter accepts leaves what a condition that it decides does not hold of. -/
theorem Repository.deleteFrom_perform {α : Type} [Documented α] {s : Store α} {f : Filter}
    {P : α → Prop} [DecidablePred P]
    (accepts : ∀ e ∈ s.entities, f.accepts (Documented.document e.value) = decide (P e.value)) :
    (deleteFrom f).perform ⟨s, []⟩ = (.ok (s.entities.countP fun e => P e.value),
      ⟨{ s with entities := s.entities.filter fun e => ¬ P e.value }, []⟩) := by
  have count : s.entities.countP (fun e => f.accepts (Documented.document e.value)) =
      s.entities.countP fun e => P e.value := by
    apply List.countP_congr
    intro e he
    rw [accepts e he]
  have kept : s.entities.filter (fun e => !f.accepts (Documented.document e.value)) =
      s.entities.filter fun e => ¬ P e.value := by
    apply List.filter_congr
    intro e he
    rw [accepts e he, decide_not]
  rw [deleteFrom_accepted, count, kept]

namespace Registry

variable {r : Registry} {keep : Retention} {now : Time.Instant}

theorem counted_run_of_ok {ε : Type} {a : Action Registry ε Nat} {s : Registry} {n : Nat}
    (h : a.perform r = (.ok n, s)) : (counted a).run r = (n, s) :=
  run_bind_of_run h

theorem counted_run_of_error {ε : Type} {a : Action Registry ε Nat} {s : Registry} {e : ε}
    (h : a.perform r = (.error e, s)) : (counted a).run r = (0, s) :=
  run_bind_of_run h

theorem InOrder.pings_marked (h : r.InOrder) (now : Time.Instant) :
    ∀ e ∈ r.marked now, ∀ t ∈ e.value.lastPing, t.IsPlain := by
  intro e he
  obtain ⟨d, hd, rfl⟩ := List.mem_map.mp he
  have pings := h.pings d hd
  split_ifs
  · rwa [RunnerValue.lastPing_disconnected]
  · exact pings

/-- A pass of the cleaner over a registry that is in order leaves and reports just what the
numbers say. -/
theorem clean_eq_cleaned (h : r.InOrder) (hnow : now.IsPlain) :
    (clean keep now).run r = (r.cleanup keep now, r.cleaned keep now) := by
  -- what is dropped is told of the runners as they are after the silent ones were marked
  have pings := h.pings_marked now
  obtain ⟨⟨jobs, jobsPlan⟩, ⟨runners, runnersPlan⟩⟩ := r
  obtain rfl : jobsPlan = [] := h.jobsPlan
  obtain rfl : runnersPlan = [] := h.runnersPlan
  let r : Registry := ⟨⟨jobs, []⟩, ⟨runners, []⟩⟩
  let marked : Repository RunnerValue := ⟨{ runners with entities := r.marked now }, []⟩
  have swept : (onRunners (Runners.disconnectStale now)).perform r =
      (.ok (r.cleanup keep now).disconnected, ⟨⟨jobs, []⟩, marked⟩) :=
    Action.perform_onPart (Runners.disconnectStale_perform h.nodup h.numbered h.lives h.pings hnow)
  have purged : (onJobs (Repository.deleteFrom (keep.expiredJobs now))).perform
      ⟨⟨jobs, []⟩, marked⟩ =
      (.ok (r.cleanup keep now).purgedJobs, ⟨(r.cleaned keep now).jobs, marked⟩) :=
    Action.perform_onPart (Repository.deleteFrom_perform fun e he =>
      Retention.accepts_expiredJobs (h.finishes e he) hnow)
  have dropped : (onRunners (Repository.deleteFrom (keep.expiredRunners now))).perform
      ⟨(r.cleaned keep now).jobs, marked⟩ =
      (.ok (r.cleanup keep now).purgedRunners, r.cleaned keep now) :=
    Action.perform_onPart (Repository.deleteFrom_perform fun e he =>
      Retention.accepts_expiredRunners (pings e he) hnow)
  rw [clean, run_bind_of_run (counted_run_of_ok swept), run_bind_of_run (counted_run_of_ok purged),
    run_bind_of_run (counted_run_of_ok dropped)]
  rfl

/-- A runner that is given half a minute to live each time that it is heard of. -/
def heardAt (id : String) (status : RunnerStatus) (ping : Time.Instant) : Runner :=
  ⟨id, 1, ⟨none, some 30, none, some ⟨some status, none, some ping⟩⟩⟩

/-- A job that finished at an instant. -/
def doneAt (id : String) (finished : Time.Instant) : Job :=
  ⟨id, 3, { JobValue.blank with
    status := .done .success, processing := ⟨none, none, some finished⟩ }⟩

/-- Runners and jobs of every kind that the cleaner tells apart, two minutes after they began. -/
def assorted : Registry where
  jobs := ⟨⟨"J", 2, [doneAt "J1" .epoch, doneAt "J2" ⟨70, 5, by decide⟩]⟩, []⟩
  runners := ⟨⟨"R", 4, [heardAt "R1" .idle .epoch, heardAt "R2" .running ⟨89, 999999999, by decide⟩,
    heardAt "R3" .idle ⟨90, 0, by decide⟩, heardAt "R4" .disconnected .epoch]⟩, []⟩

theorem clean_assorted : assorted.InOrder ∧ Time.Instant.IsPlain ⟨120, 0, by decide⟩ ∧
    ((clean ⟨⟨50, 0⟩, ⟨60, 0⟩⟩ ⟨120, 0, by decide⟩).run assorted).1 = ⟨2, 1, 2⟩ ∧
    ((clean ⟨⟨50, 0⟩, ⟨60, 0⟩⟩ ⟨120, 0, by decide⟩).run assorted).2.runners.store.entities.map
      (fun e => (e.id, e.version, e.value.status)) =
        [("R2", 2, some .disconnected), ("R3", 1, some .idle)] ∧
    ((clean ⟨⟨50, 0⟩, ⟨60, 0⟩⟩ ⟨120, 0, by decide⟩).run assorted).2.jobs.store.entities.map
      Entity.id = ["J2"] := by
  have order : assorted.InOrder :=
    ⟨rfl, rfl, by decide, by decide, by decide, by decide, by decide⟩
  have plain : Time.Instant.IsPlain ⟨120, 0, by decide⟩ := by decide
  rw [clean_eq_cleaned order plain]
  exact ⟨order, plain, by decide, by decide, by decide⟩

end Registry

end JobDispatch

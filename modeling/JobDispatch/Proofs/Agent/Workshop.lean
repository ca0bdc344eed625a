import JobDispatch.Proofs.Agent.Handling

/-!
Reports of a workshop. A worker gives its slot back when it has carried out its program for a job,
and by then it reported the job once, unless the processor panicked.
-/

namespace JobDispatch

/-- Whether a thread is still at the job that it handles, or carried out its program and is about
to give the slot back. -/
def Handling.BusyAs (h : Handling) (t : Thread) : Prop :=
  (∃ s last, t.role = .work h.worker (.holding s last)) ∨
    (∃ last, t.role = .work h.worker (.freeing last)) ∧ ∃ o, h.program = .ends o

theorem Handling.BusyAs.worksAt {h : Handling} {t : Thread} (busy : h.BusyAs t) :
    t.role.worksAt h.worker = true := by
  rcases busy with ⟨s, last, role⟩ | ⟨⟨last, role⟩, -⟩ <;> simp [role, Role.worksAt]

theorem Scene.Kept.running_of_worksAt {s : Scene} (h : s.Kept) {i k : Nat} {t : Thread}
    (hk : s.threads[k]? = some t) (works : t.role.worksAt i = true) :
    (s.pool.slotAt i).status = .running := by
  have taken := h.taken i
  have one : 0 < s.threads.countP fun t => t.role.worksAt i :=
    List.countP_pos_iff.mpr ⟨t, List.mem_of_getElem? hk, works⟩
  by_contra other
  rw [if_neg other] at taken
  omega

/-- Two threads do not work for the same slot at once. -/
theorem Scene.Kept.alone {s : Scene} (h : s.Kept) {i j k : Nat} {t u : Thread}
    (hj : s.threads[j]? = some t) (hk : s.threads[k]? = some u) (ht : t.role.worksAt i = true)
    (hu : u.role.worksAt i = true) : j = k := by
  by_contra other
  have taken := h.taken i
  have without := countP_set_getElem? (fun t : Thread => t.role.worksAt i) hj ⟨[], .stop .claiming⟩
  have still : (s.threads.set j ⟨[], .stop .claiming⟩)[k]? = some u := by
    rw [List.getElem?_set_ne other]
    exact hk
  have another : 0 < (s.threads.set j ⟨[], .stop .claiming⟩).countP fun t => t.role.worksAt i :=
    List.countP_pos_iff.mpr ⟨u, List.mem_of_getElem? still, hu⟩
  have neutral : (Role.stop .claiming).worksAt i = false := rfl
  simp only [ht, neutral, Bool.toNat_true, Bool.toNat_false] at without
  split_ifs at taken <;> omega

namespace Workshop

/-- What is known of a workshop: the jobs that a worker accepted were handled, or are being handled,
or lie in its slot; a slot runs while its job is handled; and a handling is closed when its program
is carried out. -/
structure Kept (w : Workshop) : Prop where
  scene : w.scene.Kept
  queued : ∀ i, jobsAt i w.accepted = jobsAt i (w.closed.map fun h => (h.worker, h.job)) ++
    jobsAt i (w.atWork.map fun h => (h.worker, h.job)) ++
      (w.scene.pool.slotAt i).value.toList.map Submission.item
  runs : ∀ h ∈ w.atWork, (w.scene.pool.slotAt h.worker).status = .running
  busy : ∀ h ∈ w.atWork, ∃ t, w.scene.threads[h.thread]? = some t ∧ h.BusyAs t
  told : ∀ h ∈ w.atWork ++ w.closed,
    Program.Leads (Program.handle w.rules h.job) h.heard h.program
  ended : ∀ h ∈ w.closed, ∃ o, h.program = .ends o

variable {w : Workshop}

theorem kept_start (rules : DeskRules) (workers : Nat) (listeners : List String) :
    (start rules workers listeners).Kept where
  scene := Scene.kept_start workers listeners
  queued i := by
    simp only [start, Course.slotAt_start]
    rfl
  runs := by simp [start]
  busy := by simp [start]
  told := by simp [start]
  ended := by simp [start]

theorem Kept.enter (h : w.Kept) (e : Entrance) : (w.react (.enters e)).Kept where
  scene := h.scene.enter e
  queued := h.queued
  runs := h.runs
  busy x hx := by
    obtain ⟨t, ht, busy⟩ := h.busy x hx
    refine ⟨t, ?_, busy⟩
    rw [react, List.getElem?_append_left (List.getElem?_eq_some_iff.mp ht).1]
    exact ht
  told := h.told
  ended := h.ended

theorem Kept.hear (h : w.Kept) (n : Nat) (reply : (q : Ask) → q.Answer) :
    (w.react (.hears n reply)).Kept := by
  simp only [react]
  split
  · exact h
  · next x hx =>
    split
    · exact h
    · next q next program =>
      have hmem := List.mem_of_getElem? hx
      refine ⟨h.scene, ?_, ?_, ?_, ?_, h.ended⟩
      · intro i
        have same := map_set_getElem? (fun h : Handling => (h.worker, h.job)) hx
          (b := ⟨x.thread, x.worker, x.job, x.heard ++ [⟨q, reply q⟩], next (reply q)⟩) rfl
        simp only [same]
        exact h.queued i
      · intro y hy
        rcases List.mem_or_eq_of_mem_set hy with hy | rfl
        · exact h.runs y hy
        · exact h.runs x hmem
      · intro y hy
        rcases List.mem_or_eq_of_mem_set hy with hy | rfl
        · exact h.busy y hy
        · obtain ⟨t, ht, holding | ⟨-, o, ended⟩⟩ := h.busy x hmem
          · exact ⟨t, ht, .inl holding⟩
          · rw [ended] at program
            cases program
      · intro y hy
        rcases List.mem_append.mp hy with hy | hy
        · rcases List.mem_or_eq_of_mem_set hy with hy | rfl
          · exact h.told y (List.mem_append_left _ hy)
          · have told := h.told x (List.mem_append_left _ hmem)
            rw [program] at told
            exact told.snoc (reply q)
        · exact h.told y (List.mem_append_right _ hy)

/-- Of the handlings of one worker, all go on or none. -/
theorem jobsAt_filter (i : Nat) (hs : List Handling) (p : Nat → Bool) :
    jobsAt i ((hs.filter fun h => p h.worker).map fun h => (h.worker, h.job)) =
      if p i then jobsAt i (hs.map fun h => (h.worker, h.job)) else [] := by
  induction hs with
  | nil => simp [jobsAt]
  | cons h hs ih =>
    have shown (hs : List Handling) : jobsAt i ((h :: hs).map fun h => (h.worker, h.job)) =
        (if h.worker = i then [h.job] else []) ++
          jobsAt i (hs.map fun h => (h.worker, h.job)) := by
      by_cases here : h.worker = i <;> simp [jobsAt, here]
    by_cases here : h.worker = i
    · subst here
      cases on : p h.worker
      · simpa [on] using ih
      · rw [List.filter_cons_of_pos (by simpa using on), shown, shown, ih, on, if_pos rfl,
          if_pos rfl, if_pos rfl]
    · rw [shown, if_neg here, List.nil_append]
      cases on : p h.worker
      · rw [List.filter_cons_of_neg (by simp [on]), ih]
      · rw [List.filter_cons_of_pos (by simpa using on), shown, if_neg here, List.nil_append, ih]

/-- A handling that was carried out when the thread goes on stays so until the slot is given
back. -/
theorem Kept.busy_step (h : w.Kept) {k : Nat} {turn : Turn} {t : Thread} {x : Progressed}
    (hk : w.scene.threads[k]? = some t) (d : Deed w.scene.pool turn t x)
    (permitted : w.permits k turn = true) {y : Handling} (hy : y ∈ w.atWork) :
    ((x.pool.slotAt y.worker).status = .running →
      ∃ u, (w.scene.threads.set k x.thread ++ x.started)[y.thread]? = some u ∧ y.BusyAs u) ∧
    ((x.pool.slotAt y.worker).status ≠ .running → ∃ o, y.program = .ends o) := by
  obtain ⟨u, hu, busy⟩ := h.busy y hy
  have running := h.runs y hy
  have hlt := (List.getElem?_eq_some_iff.mp hu).1
  constructor
  · intro runs
    rw [List.getElem?_append_left (by simpa using hlt)]
    by_cases same : k = y.thread
    · subst same
      obtain rfl := Option.some.inj (hk.symm.trans hu)
      refine ⟨x.thread, List.getElem?_set_self hlt, ?_⟩
      rcases busy with ⟨s, last, role⟩ | ⟨⟨last, role⟩, ended⟩
      · rcases d.holding_cases role with same | ⟨o, rfl, freeing⟩
        · exact .inl ⟨s, last, same.trans role⟩
        · right
          have result := List.all_eq_true.mp permitted y hy
          simp only [bne_self_eq_false, Bool.false_or, beq_iff_eq] at result
          exact ⟨⟨last, freeing⟩, o, Program.eq_ends_of_result? result⟩
      · rcases d.freeing_cases role running with same | stopped
        · exact .inr ⟨⟨last, same.trans role⟩, ended⟩
        · exact absurd runs stopped
    · exact ⟨u, by rw [List.getElem?_set_ne same, hu], busy⟩
  · intro stopped
    obtain ⟨last, role⟩ := d.freeing_of_stopped running stopped
    have works : t.role.worksAt y.worker = true := by simp [role, Role.worksAt]
    obtain rfl := h.scene.alone hk hu works busy.worksAt
    obtain rfl := Option.some.inj (hk.symm.trans hu)
    rcases busy with ⟨s, last', role'⟩ | ⟨-, ended⟩
    · rw [role] at role'
      cases role'
    · exact ended

/-- A step of a thread keeps the jobs of a workshop together. -/
theorem Kept.step (h : w.Kept) {k : Nat} {turn : Turn} {t : Thread} {x : Progressed}
    (hk : w.scene.threads[k]? = some t) (d : Deed w.scene.pool turn t x)
    (permitted : w.permits k turn = true) :
    (w.move k ⟨x.pool, w.scene.threads.set k x.thread ++ x.started⟩ x.events).Kept := by
  have scene := h.scene.step hk d
  have hlt := (List.getElem?_eq_some_iff.mp hk).1
  have here : (w.scene.threads.set k x.thread ++ x.started)[k]? = some x.thread := by
    rw [List.getElem?_append_left (by simpa using hlt), List.getElem?_set_self hlt]
  have taken (i : Nat) (s : Submission Job) (hs : (i, s) ∈ x.events.filterMap PoolEvent.taken?) :
      ∃ last, x.thread.role = .work i (.holding s last) := by
    obtain ⟨e, he, taken⟩ := List.mem_filterMap.mp hs
    cases e <;> cases taken
    exact d.holding_of_begun he
  refine ⟨scene, ?_, ?_, ?_, ?_, ?_⟩
  · intro i
    have before := h.queued i
    have queue := d.queue (fun i => h.scene.occupied (List.mem_of_getElem? hk) i) i
    have on := jobsAt_filter i w.atWork fun i => (x.pool.slotAt i).status == .running
    have off := jobsAt_filter i w.atWork fun i => !((x.pool.slotAt i).status == .running)
    have new : (List.map (fun y : Nat × Submission Job => (⟨k, y.1, y.2.item, [],
        Program.handle w.rules y.2.item⟩ : Handling)) (x.events.filterMap PoolEvent.taken?)).map
          (fun h => (h.worker, h.job)) =
        (x.events.filterMap PoolEvent.taken?).map fun y => (y.1, y.2.item) := by
      rw [List.map_map]
      rfl
    simp only [move, hk, here, List.map_append, jobsAt_append, before, on, off]
    rw [new, List.append_assoc, queue]
    -- all that was being handled goes on, or all of it is closed
    cases (x.pool.slotAt i).status == .running <;> simp
  · intro y hy
    rcases List.mem_append.mp hy with hy | hy
    · exact eq_of_beq (List.mem_filter.mp hy).2
    · obtain ⟨⟨i, s⟩, hs, rfl⟩ := List.mem_map.mp hy
      obtain ⟨last, role⟩ := taken i s hs
      exact scene.running_of_worksAt here (by simp [role, Role.worksAt])
  · intro y hy
    rcases List.mem_append.mp hy with hy | hy
    · obtain ⟨hy, on⟩ := List.mem_filter.mp hy
      exact (h.busy_step hk d permitted hy).1 (by simpa using on)
    · obtain ⟨⟨i, s⟩, hs, rfl⟩ := List.mem_map.mp hy
      obtain ⟨last, role⟩ := taken i s hs
      exact ⟨x.thread, here, .inl ⟨s, last, role⟩⟩
  · intro y hy
    rcases List.mem_append.mp hy with hy | hy
    · rcases List.mem_append.mp hy with hy | hy
      · exact h.told y (List.mem_append_left _ (List.mem_filter.mp hy).1)
      · obtain ⟨⟨i, s⟩, -, rfl⟩ := List.mem_map.mp hy
        exact .stays _
    · rcases List.mem_append.mp hy with hy | hy
      · exact h.told y (List.mem_append_right _ hy)
      · exact h.told y (List.mem_append_left _ (List.mem_filter.mp hy).1)
  · intro y hy
    rcases List.mem_append.mp hy with hy | hy
    · exact h.ended y hy
    · obtain ⟨hy, stopped⟩ := List.mem_filter.mp hy
      exact (h.busy_step hk d permitted hy).2 (by simpa using stopped)

theorem kept_run (rules : DeskRules) (workers : Nat) (listeners : List String)
    (es : List WorkshopEvent) : (run rules workers listeners es).Kept := by
  unfold run
  have first := kept_start rules workers listeners
  generalize start rules workers listeners = w at first
  induction es generalizing w with
  | nil => exact first
  | cons e es ih =>
    apply ih
    cases e with
    | enters e => exact first.enter e
    | hears n reply => exact first.hear n reply
    | moves k turn =>
      simp only [react]
      split
      · exact first
      · next s events h =>
        split_ifs at h with permitted
        obtain ⟨t, x, hk, d, rfl, rfl⟩ := Scene.step_deed h
        exact first.step hk d permitted

/-- A handling that was carried out began with the processor, and went on with what came of it. -/
theorem Kept.closed_cases (h : w.Kept) {x : Handling} (hx : x ∈ w.closed) : ∃ how xs o,
    x.heard = ⟨.processing x.job, how⟩ :: xs ∧
      Program.Leads (Program.desk.conclude w.rules x.job how) xs (.ends o) := by
  have told := h.told x (List.mem_append_right _ hx)
  obtain ⟨o, ended⟩ := h.ended x hx
  rw [ended] at told
  change Program.Leads (.asks (.processing x.job) fun how =>
    Program.desk.conclude w.rules x.job how) _ _ at told
  generalize x.heard = heard at told
  cases told with
  | hears how rest => exact ⟨how, _, o, rfl, rest⟩

/-- A report takes one exchange at least. -/
theorem not_leads_report {rules : DeskRules} {job : Job} {r : Except FatalError Job} :
    ¬ Program.Leads (Program.desk.report rules job) [] (.ends r) := by
  unfold Desk.report
  intro h
  cases hl : rules.maxAttempts - 1 <;> rw [hl] at h <;> unfold Desk.reportFrom at h <;> cases h

/-- The jobs of a pool are handled one after the other and each is reported once before its slot is
given back, exactly if no processor panics. -/
theorem reported_iff (rules : DeskRules) (workers : Nat) (listeners : List String)
    (es : List WorkshopEvent) : (run rules workers listeners es).Reported ↔
      ∀ h ∈ (run rules workers listeners es).closed, ¬ h.Panicked := by
  have kept := kept_run rules workers listeners es
  generalize run rules workers listeners es = w at kept
  constructor
  · rintro reported h hh ⟨ys, panicked⟩
    obtain ⟨how, done, xs, r, -, report, heard⟩ := reported.once h hh
    obtain ⟨how', zs, o, heard', rest⟩ := kept.closed_cases hh
    rw [panicked] at heard heard'
    cases heard
    cases heard'
    cases rest
    exact not_leads_report report
  · intro sound
    constructor
    · intro i other
      have queued := kept.queued i
      have taken := kept.scene.taken i
      rw [if_neg other] at taken
      have empty : (w.scene.pool.slotAt i).value.toList = [] :=
        List.eq_nil_of_length_eq_zero (by omega)
      have nobody : jobsAt i (w.atWork.map fun h => (h.worker, h.job)) = [] := by
        simp only [jobsAt, List.filterMap_eq_nil_iff, List.mem_map]
        rintro - ⟨h, hh, rfl⟩
        apply if_neg
        rintro rfl
        exact other (kept.runs h hh)
      rw [queued, empty, nobody]
      simp
    · intro h hh
      obtain ⟨how, xs, o, heard, rest⟩ := kept.closed_cases hh
      cases how with
      | finished done =>
        obtain ⟨r, report, -⟩ := Program.Leads.of_map rest
        exact ⟨_, done, xs, r, .finished done, report, heard⟩
      | failed text =>
        obtain ⟨r, report, -⟩ := Program.Leads.of_map rest
        exact ⟨_, _, xs, r, .failed text, report, heard⟩
      | panicked => exact absurd ⟨xs, heard⟩ (sound h hh)

/-- A processor panics: the worker gives its slot back, and nobody ever reports the job. -/
theorem not_reported_panicked :
    let rules : DeskRules :=
      ⟨⟨some "a", some "c", some "n", some .pending, none⟩, 1, 3, ⟨0, 0⟩⟩
    let panics : (q : Ask) → q.Answer
      | .listing _ _ => .ok []
      | .patching _ _ => .error (.unreachable "")
      | .sleeping _ => ()
      | .naming => ""
      | .raising _ => ()
      | .looking => true
      | .giving _ => .ok ()
      | .processing _ => .panicked
    let w := run rules 1 [] [.enters .starts, .moves 0 .go, .moves 0 .go, .moves 0 .go,
      .moves 0 .go, .moves 0 .go, .enters (.gives ⟨⟨"J1", 2, .blank⟩, "reserved"⟩), .moves 2 .go,
      .moves 2 .go, .moves 2 .go, .moves 2 .go, .moves 2 .go, .moves 2 .go, .moves 1 .go,
      .moves 1 .go, .hears 0 panics, .moves 1 (.processed .panicked), .moves 1 .go, .moves 1 .go]
    (∃ h ∈ w.closed, h.job = ⟨"J1", 2, .blank⟩) ∧ ¬ w.Reported := by
  intro rules panics w
  have asked : (w.closed.map fun h => (h.job, h.heard.length)) = [(⟨"J1", 2, .blank⟩, 1)] := by
    decide +kernel
  have mem : ((⟨"J1", 2, .blank⟩, 1) : Job × Nat) ∈
      w.closed.map fun h => (h.job, h.heard.length) := by
    rw [asked]
    exact List.mem_singleton_self _
  obtain ⟨h, hh, same⟩ := List.mem_map.mp mem
  obtain ⟨job, one⟩ := Prod.mk.inj same
  refine ⟨⟨h, hh, job⟩, ?_⟩
  intro reported
  obtain ⟨how, done, xs, r, -, report, heard⟩ := reported.once h hh
  rw [heard, List.length_cons] at one
  have nothing : xs = [] := List.eq_nil_of_length_eq_zero (by omega)
  rw [nothing] at report
  exact not_leads_report report

end Workshop

end JobDispatch

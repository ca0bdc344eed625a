import JobDispatch.Proofs.Agent.Lockset
import JobDispatch.Proofs.Agent.Program

/-!
Workshops: a pool whose workers handle the jobs that they take, where the questions that they ask
meanwhile are answered in any way.
-/

namespace JobDispatch

/-- A question and its answer. -/
structure Exchange where
  ask : Ask
  answer : ask.Answer

namespace Program

variable {α β : Type}

/-- What is left of a program after some exchanges. -/
inductive Leads : Program α → List Exchange → Program α → Prop
  | stays (p : Program α) : Leads p [] p
  | hears {q : Ask} {next : q.Answer → Program α} (a : q.Answer) {xs : List Exchange}
      {r : Program α} (rest : Leads (next a) xs r) : Leads (.asks q next) (⟨q, a⟩ :: xs) r

theorem Leads.snoc {p : Program α} {xs : List Exchange} {q : Ask}
    {next : q.Answer → Program α} (h : Leads p xs (.asks q next)) (a : q.Answer) :
    Leads p (xs ++ [⟨q, a⟩]) (next a) := by
  generalize hr : Program.asks q next = r at h
  induction h with
  | stays p =>
    subst hr
    exact .hears a (.stays _)
  | hears b rest ih => exact .hears b (ih hr)

theorem eq_ends_of_result? {p : Program α} {a : α} (h : p.result? = some a) : p = .ends a := by
  cases p with
  | ends b => rw [Option.some.inj h]
  | asks q next => cases h

/-- A program whose result is mapped makes the exchanges that it makes without that. -/
theorem Leads.of_map {f : α → β} {p : Program α} {xs : List Exchange} {b : β}
    (h : Leads (f <$> p) xs (.ends b)) : ∃ a, Leads p xs (.ends a) ∧ b = f a := by
  induction xs generalizing p with
  | nil =>
    cases p with
    | ends a =>
      cases h
      exact ⟨a, .stays _, rfl⟩
    | asks q next => cases h
  | cons x xs ih =>
    cases p with
    | ends a => cases h
    | asks q next =>
      cases h with
      | hears a rest =>
        obtain ⟨c, leads, eq⟩ := ih rest
        exact ⟨c, .hears a leads, eq⟩

end Program

/-- What a worker reports of a job whose processor has ended: the job that came back, or the job as
failed with the failure as its result. -/
inductive Processed.Shown (job : Job) : Processed → Job → Prop
  | finished (done : Job) : Shown job (.finished done) done
  | failed (text : String) : Shown job (.failed text) (job.failed text)
  | panicked (text : String) : Shown job .panicked (job.failed text)

/-- A job in the hands of a worker's thread: what was asked and answered so far, and what is left
to do. -/
structure Handling where
  thread : Nat
  worker : Nat
  job : Job
  heard : List Exchange
  program : Program Outcome

/-- A job whose processor ran, and that was reported in just one report run after that. -/
def Handling.ReportedOnce (h : Handling) (rules : DeskRules) : Prop :=
  ∃ (how : Processed) (done : Job) (xs : List Exchange) (r : Except FatalError Job),
    how.Shown h.job done ∧ Program.Leads (Program.desk.report rules done) xs (.ends r) ∧
      h.heard = ⟨.processing h.job, how⟩ :: xs

def Handling.Panicked (h : Handling) : Prop :=
  ∃ xs, h.heard = ⟨.processing h.job, .panicked⟩ :: xs

/-- A pool with the jobs that it accepted, each with its worker, and what became of them: a worker
is at work on a job until its slot is given back. -/
structure Workshop where
  rules : DeskRules
  scene : Scene
  accepted : List (Nat × Job)
  atWork : List Handling
  closed : List Handling

inductive WorkshopEvent where
  | enters (e : Entrance)
  | moves (thread : Nat) (turn : Turn)
  /-- the handling at a position asks what it has to ask, and is answered -/
  | hears (handling : Nat) (reply : (q : Ask) → q.Answer)

/-- The job that a thread has just put into a slot, with the worker of the slot. -/
def Thread.fed? (before after : Option Thread) : Option (Nat × Job) :=
  match before, after with
  | some ⟨_, .give _ (.offering i (.feeding s))⟩, some ⟨_, .give _ (.returned (.ok _))⟩ =>
    some (i, s.item)
  | _, _ => none

def PoolEvent.taken? : PoolEvent → Option (Nat × Submission Job)
  | begun i s => some (i, s)
  | _ => none

namespace Workshop

def start (rules : DeskRules) (workers : Nat) (listeners : List String) : Workshop :=
  ⟨rules, (Course.start workers listeners).scene, [], [], []⟩

/-- The processing of a thread's job is over when the thread has carried out its program. -/
def permits (w : Workshop) (thread : Nat) : Turn → Bool
  | .processed o => w.atWork.all fun h => h.thread != thread || h.program.result? == some o
  | _ => true

/-- The pool goes on: a worker that takes a job begins to handle it, and a handling is closed when
the slot of its worker is given back. -/
def move (w : Workshop) (thread : Nat) (s : Scene) (events : List PoolEvent) : Workshop :=
  let goesOn (h : Handling) : Bool := (s.pool.slotAt h.worker).status == .running
  { w with
    scene := s
    accepted := w.accepted ++ (Thread.fed? w.scene.threads[thread]? s.threads[thread]?).toList
    atWork := w.atWork.filter goesOn ++ (events.filterMap PoolEvent.taken?).map fun (i, s) =>
      ⟨thread, i, s.item, [], Program.handle w.rules s.item⟩
    closed := w.closed ++ w.atWork.filter fun h => !goesOn h }

/-- What an event makes of a workshop; an event that cannot happen changes nothing. -/
def react (w : Workshop) : WorkshopEvent → Workshop
  | .enters e => { w with scene := ⟨w.scene.pool, w.scene.threads ++ [⟨[], e.role⟩]⟩ }
  | .moves thread turn =>
    match if w.permits thread turn then w.scene.step thread turn else none with
    | none => w
    | some (s, events) => w.move thread s events
  | .hears n reply =>
    match w.atWork[n]? with
    | none => w
    | some h =>
      match h.program with
      | .ends _ => w
      | .asks q next =>
        let a := reply q
        { w with
          atWork := w.atWork.set n { h with heard := h.heard ++ [⟨q, a⟩], program := next a } }

def run (rules : DeskRules) (workers : Nat) (listeners : List String)
    (es : List WorkshopEvent) : Workshop :=
  es.foldl react (start rules workers listeners)

/-- Of some jobs, each with its worker, those of one worker. -/
def jobsAt (i : Nat) (xs : List (Nat × Job)) : List Job :=
  xs.filterMap fun x => if x.1 = i then some x.2 else none

/-- Whenever the slot of a worker is not running, all jobs that it accepted were handled, one after
the other, and each was reported once. -/
structure Reported (w : Workshop) : Prop where
  handled : ∀ i, (w.scene.pool.slotAt i).status ≠ .running →
    jobsAt i w.accepted = jobsAt i (w.closed.map fun h => (h.worker, h.job))
  once : ∀ h ∈ w.closed, h.ReportedOnce w.rules

theorem jobsAt_append (i : Nat) (xs ys : List (Nat × Job)) :
    jobsAt i (xs ++ ys) = jobsAt i xs ++ jobsAt i ys :=
  List.filterMap_append

end Workshop

section

variable {p : Pool} {turn : Turn} {t : Thread} {x : Progressed} {i : Nat}

theorem Thread.fed?_of_role {t u : Thread} (h : u.role = t.role) :
    fed? (some t) (some u) = none := by
  obtain ⟨ds, role⟩ := t
  obtain ⟨ds', role'⟩ := u
  cases h
  cases role with
  | give s g =>
    cases g with
    | offering i sub => cases sub <;> rfl
    | _ => rfl
  | _ => rfl

/-- A job goes through a slot: what lay in it and what was fed to it is what was taken out and what
lies in it now. -/
theorem Deed.queue (h : Deed p turn t x)
    (occupied : ∀ i, (t.role.worksAt i).toNat + (p.slotAt i).value.toList.length ≤
      if (p.slotAt i).status = .running then 1 else 0) (i : Nat) :
    (p.slotAt i).value.toList.map Submission.item ++
        Workshop.jobsAt i (Thread.fed? (some t) (some x.thread)).toList =
      Workshop.jobsAt i ((x.events.filterMap PoolEvent.taken?).map fun y => (y.1, y.2.item)) ++
        (x.pool.slotAt i).value.toList.map Submission.item := by
  have unchanged (value : (x.pool.slotAt i).value = (p.slotAt i).value)
      (fed : Thread.fed? (some t) (some x.thread) = none)
      (taken : x.events.filterMap PoolEvent.taken? = []) :
      (p.slotAt i).value.toList.map Submission.item ++
          Workshop.jobsAt i (Thread.fed? (some t) (some x.thread)).toList =
        Workshop.jobsAt i ((x.events.filterMap PoolEvent.taken?).map fun y => (y.1, y.2.item)) ++
          (x.pool.slotAt i).value.toList.map Submission.item := by
    rw [value, fed, taken]
    exact List.append_nil _
  have released (about : String) :
      (p.releaseOrKeep about).2.filterMap PoolEvent.taken? = [] := by
    by_cases held : about ∈ p.locks.ids
    · rw [p.releaseOrKeep_of_mem held]
      rfl
    · rw [p.releaseOrKeep_of_not_mem held]
      rfl
  have same {q : Pool} (workers : q.workers = p.workers) :
      (q.slotAt i).value = (p.slotAt i).value := by
    rw [Pool.slotAt_congr (Pool.slots_congr workers)]
  cases h with
  | counts d ds role other =>
    refine unchanged (same (d.perform_counts other p).1) (Thread.fed?_of_role rfl) ?_
    cases d with
    | release id => exact released id
    | _ => rfl
  | releases id ds role =>
    exact unchanged (same (p.releaseOrKeep_workers id)) (Thread.fed?_of_role rfl) (released id)
  | givesUp s j sub none =>
    refine unchanged (same (p.releaseOrKeep_workers s.item.id)) ?_ (released s.item.id)
    cases sub <;> rfl
  | refused s t j sub w worker why =>
    refine unchanged rfl ?_ rfl
    cases sub <;> rfl
  | reserves s t j w worker idle =>
    refine unchanged ?_ rfl rfl
    rw [Pool.slotAt_setSlot worker]
    split_ifs with here
    · rw [here, Pool.slotAt_eq worker]
    · rfl
  | feeds s t j w worker reserved =>
    have fed : Thread.fed? (some ⟨[], .give s (.offering j (.feeding t))⟩)
        (some ⟨[], .give s (.returned (.ok ()))⟩) = some (j, t.item) := rfl
    rw [Pool.slotAt_setSlot worker, fed]
    by_cases here : i = j
    · subst here
      have nothing := Pool.value_eq_none (occupied i)
        (.inr (by simp [Pool.slotAt_eq worker, reserved]))
      simp [Workshop.jobsAt, nothing]
    · simp [Workshop.jobsAt, here, Ne.symm here]
  | takes j w s at_ last worker fed when_ =>
    have nobody : Thread.fed? (some ⟨[], .work j at_⟩) (some ⟨[], .work j (.holding s last)⟩) =
      none := rfl
    rw [Pool.slotAt_setSlot worker, nobody]
    by_cases here : i = j
    · subst here
      simp [Workshop.jobsAt, PoolEvent.taken?, Pool.slotAt_eq worker, fed]
    · simp [Workshop.jobsAt, PoolEvent.taken?, here, Ne.symm here]
  | frees j w last worker running =>
    have nobody : Thread.fed? (some ⟨[], .work j (.freeing last)⟩)
      (some ⟨Duty.afterFreeing, .work j (if last then .ended else .looking)⟩) = none := rfl
    rw [Pool.slotAt_setSlot worker, nobody]
    by_cases here : i = j
    · subst here
      have nothing := Pool.value_eq_none (occupied i) (.inl (by simp [Role.worksAt]))
      simp [Workshop.jobsAt, nothing, Slot.empty]
    · simp [Workshop.jobsAt, here]
  | starts g g' q started workers locks meters fresh => exact unchanged (same workers) rfl rfl
  | stops g g' q slots locks =>
    refine unchanged ?_ rfl rfl
    rw [Pool.slotAt_congr slots]
  | _ => exact unchanged rfl rfl rfl

theorem Deed.holding_cases (h : Deed p turn t x) {s : Submission Job} {last : Bool}
    (role : t.role = .work i (.holding s last)) : x.thread.role = t.role ∨
      ∃ o, turn = .processed o ∧ x.thread.role = .work i (.freeing last) := by
  cases h with
  | counts d ds role' other => exact .inl rfl
  | releases id ds role' => exact .inl rfl
  | processes j w s' last' o worker ended =>
    cases role
    exact .inr ⟨o, ended, rfl⟩
  | takes j w s' at_ last' worker fed when_ =>
    subst when_
    cases last' <;> cases role
  | _ => cases role

theorem Deed.freeing_cases (h : Deed p turn t x) {last : Bool}
    (role : t.role = .work i (.freeing last)) (running : (p.slotAt i).status = .running) :
    x.thread.role = t.role ∨ (x.pool.slotAt i).status ≠ .running := by
  cases h with
  | counts d ds role' other => exact .inl rfl
  | releases id ds role' => exact .inl rfl
  | frees j w last' worker running' =>
    cases role
    right
    simp [Pool.slotAt_setSlot worker, Slot.empty]
  | keeps j w last' worker other =>
    cases role
    rw [Pool.slotAt_eq worker] at running
    exact absurd running other
  | takes j w s' at_ last' worker fed when_ =>
    subst when_
    cases last' <;> cases role
  | _ => cases role

theorem Deed.holding_of_begun (h : Deed p turn t x) {s : Submission Job}
    (begun : .begun i s ∈ x.events) : ∃ last, x.thread.role = .work i (.holding s last) := by
  have nobody {events : List PoolEvent} (none : events.countP (PoolEvent.begins s.item.id) = 0)
      (begun : .begun i s ∈ events) : False := by
    have other := List.countP_eq_zero.mp none _ begun
    simp [PoolEvent.begins] at other
  cases h with
  | counts d ds role other => exact (nobody (d.perform_begins _ p) begun).elim
  | releases id ds role => exact (nobody (p.releaseOrKeep_begins _ id) begun).elim
  | givesUp s' j sub none => exact (nobody (p.releaseOrKeep_begins _ s'.item.id) begun).elim
  | takes j w s' at_ last worker fed when_ =>
    cases List.mem_singleton.mp begun
    exact ⟨last, rfl⟩
  | locks s' locks lock => cases List.mem_singleton.mp begun
  | lockedOut s' e lock => cases List.mem_singleton.mp begun
  | _ => cases begun

/-- A slot is given back by a thread that is done with a job. -/
theorem Deed.freeing_of_stopped (h : Deed p turn t x) (running : (p.slotAt i).status = .running)
    (stopped : (x.pool.slotAt i).status ≠ .running) :
    ∃ last, t.role = .work i (.freeing last) := by
  rcases h.slotAt_cases i with same | ⟨change, -⟩
  · rw [same] at stopped
    exact absurd running stopped
  · generalize ha : x.thread = after at change
    generalize hs : x.pool.slotAt i = slot at change stopped
    cases change with
    | reserves s t idle =>
      rw [idle] at running
      cases running
    | feeds s t reserved => exact absurd rfl stopped
    | takes s last fed => exact absurd running stopped
    | frees last running => exact ⟨last, rfl⟩

end

end JobDispatch

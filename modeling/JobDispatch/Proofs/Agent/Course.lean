import JobDispatch.Proofs.Agent.Scene

/-!
Courses: threads enter a scene at any time, and the steps of all of them are mixed in every way.
What a single step of a thread can be is said once, by `Deed`.
-/

namespace JobDispatch

/-- What a thread enters a scene for. -/
inductive Entrance where
  | gives (s : Submission Job)
  | starts
  | stops

def Entrance.role : Entrance → Role
  | gives s => .give s .entering
  | starts => .start .checking
  | stops => .stop .claiming

inductive SceneEvent where
  | enters (e : Entrance)
  | moves (thread : Nat) (turn : Turn)

/-- A scene, with what others saw so far and the thread that did it. -/
structure Course where
  scene : Scene
  log : List (Nat × PoolEvent)

namespace Course

def start (workers : Nat) (listeners : List String) : Course :=
  ⟨⟨{ Pool.ofSize workers with listeners }, []⟩, []⟩

/-- What an event makes of a course; a step that cannot be made changes nothing. -/
def react (c : Course) : SceneEvent → Course
  | .enters e => { c with scene := ⟨c.scene.pool, c.scene.threads ++ [⟨[], e.role⟩]⟩ }
  | .moves k turn =>
    match c.scene.step k turn with
    | none => c
    | some (s, events) => ⟨s, c.log ++ events.map fun e => (k, e)⟩

def run (workers : Nat) (listeners : List String) (es : List SceneEvent) : Course :=
  es.foldl react (start workers listeners)

theorem run_snoc (workers : Nat) (listeners : List String) (es : List SceneEvent)
    (e : SceneEvent) :
    run workers listeners (es ++ [e]) = (run workers listeners es).react e := by
  simp [run, List.foldl_append]

/-- What holds at the start, and after every event if it held before, holds after every run. -/
theorem run_induction {P : Course → Prop} {workers : Nat} {listeners : List String}
    (first : P (start workers listeners)) (next : ∀ c e, P c → P (c.react e))
    (es : List SceneEvent) : P (run workers listeners es) := by
  unfold run
  generalize start workers listeners = c at first
  induction es generalizing c with
  | nil => exact first
  | cons e es ih => exact ih (c.react e) (next c e first)

end Course

def Pool.slots (p : Pool) : List (Slot (Submission Job)) := p.workers.map Worker.slot

/-- The slot of the worker of an index, an idle one where there is no such worker. -/
def Pool.slotAt (p : Pool) (i : Nat) : Slot (Submission Job) := p.slots[i]?.getD .empty

/-- What a pool counts, and who is told of it. -/
def Pool.meters (p : Pool) : IdleMeter × BusyMeter × List String := (p.idle, p.busy, p.listeners)

theorem Pool.slots_congr {p q : Pool} (h : q.workers = p.workers) : q.slots = p.slots := by
  rw [slots, slots, h]

theorem Pool.slotAt_eq {p : Pool} {i : Nat} {w : Worker Job} (h : p.workers[i]? = some w) :
    p.slotAt i = w.slot := by
  simp [slotAt, slots, h]

theorem Pool.slotAt_congr {p q : Pool} (h : q.slots = p.slots) (i : Nat) :
    q.slotAt i = p.slotAt i := by
  rw [slotAt, slotAt, h]

theorem Course.slots_start (workers : Nat) (listeners : List String) :
    (start workers listeners).scene.pool.slots = List.replicate workers .empty := by
  simp [start, Pool.slots, Pool.ofSize, Worker.ready]

theorem Course.slotAt_start (workers : Nat) (listeners : List String) (i : Nat) :
    (start workers listeners).scene.pool.slotAt i = .empty := by
  by_cases hi : i < workers <;> simp [Pool.slotAt, slots_start, hi]

theorem Pool.slotAt_setSlot {p : Pool} {i : Nat} {w : Worker Job} (h : p.workers[i]? = some w)
    (slot : Slot (Submission Job)) (j : Nat) :
    (p.setSlot i slot).slotAt j = if j = i then slot else p.slotAt j := by
  by_cases hj : j = i
  · subst hj
    simp [slotAt, slots, setSlot, h]
  · simp [slotAt, slots, setSlot, hj, Ne.symm hj]

theorem Pool.setSlot_self {p : Pool} {i : Nat} {w : Worker Job} (h : p.workers[i]? = some w) :
    p.setSlot i w.slot = p := by
  have same : p.workers.modify i (fun v => { v with slot := w.slot }) = p.workers := by
    apply List.ext_getElem?
    intro j
    by_cases hj : i = j
    · subst hj
      simp [h]
    · simp [hj]
  rw [setSlot, same]

/-- The worker that a thread works for. -/
def Role.worker? : Role → Option Nat
  | work i _ => some i
  | _ => none

/-- All that a step of a thread can be, at a pool and with a turn. -/
inductive Deed (p : Pool) (turn : Turn) : Thread → Progressed → Prop
  | counts (d : Duty) (ds : List Duty) (role : Role) (other : ∀ id, d ≠ .release id) :
      Deed p turn ⟨d :: ds, role⟩
        ⟨(d.perform p).1, ⟨(d.perform p).2.1 ++ ds, role⟩, [], (d.perform p).2.2⟩
  | releases (id : String) (ds : List Duty) (role : Role) :
      Deed p turn ⟨.release id :: ds, role⟩
        ⟨(p.releaseOrKeep id).1, ⟨ds, role⟩, [], (p.releaseOrKeep id).2⟩
  | enters (s : Submission Job) (running : p.running = true) :
      Deed p turn ⟨[], .give s .entering⟩ ⟨p, ⟨[], .give s .locking⟩, [], []⟩
  | turnedAway (s : Submission Job) (running : p.running = false) :
      Deed p turn ⟨[], .give s .entering⟩
        ⟨p, ⟨[], .give s (.returned (.error .notRunning))⟩, [], []⟩
  | locks (s : Submission Job) (locks : Locks) (lock : p.locks.lock s.item.id = .ok locks) :
      Deed p turn ⟨[], .give s .locking⟩
        ⟨{ p with locks }, ⟨[], .give s (.offering 0 (.reserving s))⟩, [], [.locked s.item.id]⟩
  | lockedOut (s : Submission Job) (e : LockError) (lock : p.locks.lock s.item.id = .error e) :
      Deed p turn ⟨[], .give s .locking⟩
        ⟨p, ⟨[], .give s (.returned (.error (.lockFailed e)))⟩, [], [.lockFailed e]⟩
  | reserves (s t : Submission Job) (i : Nat) (w : Worker Job) (worker : p.workers[i]? = some w)
      (idle : w.slot.status = .idle) :
      Deed p turn ⟨[], .give s (.offering i (.reserving t))⟩
        ⟨p.setSlot i { w.slot with status := .reserved },
          ⟨Duty.afterReserving, .give s (.offering i (.feeding t))⟩, [], []⟩
  | feeds (s t : Submission Job) (i : Nat) (w : Worker Job) (worker : p.workers[i]? = some w)
      (reserved : w.slot.status = .reserved) :
      Deed p turn ⟨[], .give s (.offering i (.feeding t))⟩
        ⟨p.setSlot i ⟨.running, some t⟩, ⟨[], .give s (.returned (.ok ()))⟩, [], []⟩
  | refused (s t : Submission Job) (i : Nat) (sub : Submitter Job) (w : Worker Job)
      (worker : p.workers[i]? = some w)
      (why : sub = .reserving t ∧ w.slot.status ≠ .idle ∨
        sub = .feeding t ∧ w.slot.status ≠ .reserved) :
      Deed p turn ⟨[], .give s (.offering i sub)⟩
        ⟨p, ⟨[], .give s (.offering (i + 1) (.reserving s))⟩, [], []⟩
  | givesUp (s : Submission Job) (i : Nat) (sub : Submitter Job) (none : p.workers[i]? = none) :
      Deed p turn ⟨[], .give s (.offering i sub)⟩
        ⟨(p.releaseOrKeep s.item.id).1, ⟨[], .give s (.returned (.error .busy))⟩, [],
          (p.releaseOrKeep s.item.id).2⟩
  | looks (i : Nat) (w : Worker Job) (worker : p.workers[i]? = some w) :
      Deed p turn ⟨[], .work i .looking⟩
        ⟨p, ⟨[], .work i (if w.keepsOn then .waiting else .lastLook)⟩, [], []⟩
  | rests (i : Nat) (w : Worker Job) (worker : p.workers[i]? = some w)
      (nothing : w.slot.value = none) :
      Deed p turn ⟨[], .work i .waiting⟩ ⟨p, ⟨[], .work i .looking⟩, [], []⟩
  | takes (i : Nat) (w : Worker Job) (s : Submission Job) (at_ : WorkerAt Job) (last : Bool)
      (worker : p.workers[i]? = some w) (fed : w.slot.value = some s)
      (when_ : at_ = if last then .lastLook else .waiting) :
      Deed p turn ⟨[], .work i at_⟩
        ⟨p.setSlot i { w.slot with value := none }, ⟨[], .work i (.holding s last)⟩, [],
          [.begun i s]⟩
  | leaves (i : Nat) (w : Worker Job) (worker : p.workers[i]? = some w)
      (nothing : w.slot.value = none) :
      Deed p turn ⟨[], .work i .lastLook⟩ ⟨p, ⟨[], .work i .ended⟩, [], []⟩
  | processes (i : Nat) (w : Worker Job) (s : Submission Job) (last : Bool) (o : Outcome)
      (worker : p.workers[i]? = some w) (ended : turn = .processed o) :
      Deed p turn ⟨[], .work i (.holding s last)⟩
        ⟨p, ⟨[.release s.item.id], .work i (.freeing last)⟩, [], []⟩
  | frees (i : Nat) (w : Worker Job) (last : Bool) (worker : p.workers[i]? = some w)
      (running : w.slot.status = .running) :
      Deed p turn ⟨[], .work i (.freeing last)⟩
        ⟨p.setSlot i .empty,
          ⟨Duty.afterFreeing, .work i (if last then .ended else .looking)⟩, [], []⟩
  | keeps (i : Nat) (w : Worker Job) (last : Bool) (worker : p.workers[i]? = some w)
      (other : w.slot.status ≠ .running) :
      Deed p turn ⟨[], .work i (.freeing last)⟩
        ⟨p, ⟨[], .work i (if last then .ended else .looking)⟩, [], []⟩
  | starts (g g' : Starting) (q : Pool) (started : List Thread) (workers : q.workers = p.workers)
      (locks : q.locks = p.locks) (meters : q.meters = p.meters)
      (fresh : ∀ t ∈ started, ∃ i, t = ⟨[], .work i .looking⟩) :
      Deed p turn ⟨[], .start g⟩ ⟨q, ⟨[], .start g'⟩, started, []⟩
  | stops (g g' : Stopping) (q : Pool) (slots : q.slots = p.slots)
      (locks : q.locks = p.locks) (meters : q.meters = p.meters) :
      Deed p turn ⟨[], .stop g⟩ ⟨q, ⟨[], .stop g'⟩, [], []⟩

section

variable {p q : Pool} {turn : Turn}

theorem Giving.step_deed {s : Submission Job} {g g' : Giving} {duties : List Duty}
    {events : List PoolEvent} (h : g.step p s = some (q, g', duties, events)) :
    Deed p turn ⟨[], .give s g⟩ ⟨q, ⟨duties, .give s g'⟩, [], events⟩ := by
  cases g with
  | entering =>
    simp only [step, Option.some.injEq, Prod.mk.injEq] at h
    obtain ⟨rfl, rfl, rfl, rfl⟩ := h
    cases running : p.running with
    | true => exact .enters s running
    | false => exact .turnedAway s running
  | locking =>
    simp only [step, Pool.lock] at h
    cases lock : p.locks.lock s.item.id with
    | ok locks =>
      rw [lock] at h
      cases h
      exact .locks s locks lock
    | error e =>
      rw [lock] at h
      cases h
      exact .lockedOut s e lock
  | offering i sub =>
    simp only [step] at h
    cases hw : p.workers[i]? with
    | none =>
      rw [hw] at h
      cases h
      exact .givesUp s i sub hw
    | some w =>
      rw [hw] at h
      cases hs : sub.step w.slot with
      | none => simp [hs] at h
      | some x =>
        obtain ⟨slot, sub'⟩ := x
        simp only [hs] at h
        cases Submitter.step_move hs with
        | reserves t idle =>
          cases h
          exact .reserves s t i w hw idle
        | feeds t reserved =>
          cases h
          exact .feeds s t i w hw reserved
        | turnedAway t taken =>
          rw [Pool.setSlot_self hw] at h
          cases h
          exact .refused s t i _ w hw (.inl ⟨rfl, taken⟩)
        | lost t other =>
          rw [Pool.setSlot_self hw] at h
          cases h
          exact .refused s t i _ w hw (.inr ⟨rfl, other⟩)
  | returned r => cases h

theorem WorkerAt.step_deed {i : Nat} {w : Worker Job} (hw : p.workers[i]? = some w)
    {at_ at' : WorkerAt Job} {slot : Slot (Submission Job)}
    (h : at_.step w.keepsOn w.slot turn = some (slot, at')) :
    Deed p turn ⟨[], .work i at_⟩
      ⟨p.setSlot i slot, ⟨(at_.leave i w.slot at').1, .work i at'⟩, [],
        (at_.leave i w.slot at').2⟩ := by
  have same := Pool.setSlot_self hw
  cases step_move h with
  | looks =>
    rw [same]
    have looked : Deed p turn _ _ := .looks i w hw
    cases hk : w.keepsOn <;> simpa [hk, leave] using looked
  | rests nothing =>
    rw [same]
    exact .rests i w hw nothing
  | takes s last fed =>
    have took : Deed p turn _ _ := .takes i w s _ last hw fed rfl
    cases last <;> exact took
  | leaves nothing =>
    rw [same]
    exact .leaves i w hw nothing
  | processes s last o ended =>
    rw [same]
    exact .processes i w s last o hw ended
  | frees last running =>
    have freed : Deed p turn _ _ := .frees i w last hw running
    simpa [leave, running] using freed
  | keeps last other =>
    rw [same]
    have kept : Deed p turn _ _ := .keeps i w last hw other
    simpa [leave, other] using kept

theorem Starting.step_deed {threads : Nat} {g g' : Starting} {started : List Thread}
    (h : g.step p threads turn = some (q, g', started)) :
    Deed p turn ⟨[], .start g⟩ ⟨q, ⟨[], .start g'⟩, started, []⟩ := by
  have nobody (t : Thread) (ht : t ∈ []) : ∃ i, t = (⟨[], .work i .looking⟩ : Thread) :=
    absurd ht List.not_mem_nil
  cases g with
  | checking =>
    cases h
    exact .starts _ _ _ _ rfl rfl rfl nobody
  | claiming =>
    simp only [step] at h
    split_ifs at h <;> cases h <;> exact .starts _ _ _ _ rfl rfl rfl nobody
  | opening =>
    simp only [step] at h
    split_ifs at h
    cases h
    exact .starts _ _ _ _ rfl rfl rfl nobody
  | spawning i =>
    have one (t : Thread) (ht : t ∈ [(⟨[], .work i .looking⟩ : Thread)]) :
        ∃ j, t = (⟨[], .work j .looking⟩ : Thread) := ⟨i, List.mem_singleton.mp ht⟩
    simp only [step] at h
    split_ifs at h
    · cases h
      exact .starts _ _ _ _ rfl rfl rfl nobody
    · cases turn <;> cases h
      all_goals first
        | exact .starts _ _ _ _ rfl rfl rfl one
        | exact .starts _ _ _ _ rfl rfl rfl nobody
  | returned r => cases h

theorem Pool.slots_modify_stop (p : Pool) (i : Nat) :
    ({ p with workers := p.workers.modify i Worker.stop } : Pool).slots = p.slots := by
  apply List.ext_getElem?
  intro j
  by_cases hj : i = j
  · subst hj
    cases h : p.workers[i]? <;> simp [slots, h, Worker.stop]
  · simp [slots, hj]

theorem Stopping.step_deed {threads : List Thread} {g g' : Stopping}
    (h : g.step p threads turn = some (q, g')) :
    Deed p turn ⟨[], .stop g⟩ ⟨q, ⟨[], .stop g'⟩, [], []⟩ := by
  cases g with
  | claiming =>
    simp only [step] at h
    split_ifs at h <;> cases h <;> exact .stops _ _ _ rfl rfl rfl
  | marking =>
    cases h
    exact .stops _ _ _ rfl rfl rfl
  | telling i =>
    simp only [step] at h
    split_ifs at h
    · cases h
      exact .stops _ _ _ rfl rfl rfl
    · cases h
      exact .stops _ _ _ (p.slots_modify_stop i) rfl rfl
  | collecting =>
    simp only [step] at h
    split_ifs at h
    cases h
    exact .stops _ _ _ rfl rfl rfl
  | joining ts =>
    simp only [step] at h
    split_ifs at h <;> cases h <;> exact .stops _ _ _ rfl rfl rfl
  | returned all => cases h

end

theorem Scene.advance_deed {s : Scene} {turn : Turn} {t : Thread} {x : Progressed}
    (h : s.advance turn t = some x) : Deed s.pool turn t x := by
  obtain ⟨duties, role⟩ := t
  cases duties with
  | cons d ds =>
    simp only [advance, Option.some.injEq] at h
    subst h
    cases d with
    | release id => exact .releases id ds role
    | _ =>
      refine .counts _ ds role ?_
      intro id same
      cases same
  | nil =>
    simp only [advance] at h
    cases role with
    | give sub g =>
      obtain ⟨⟨pool, g', duties, events⟩, hg, rfl⟩ := Option.map_eq_some_iff.mp h
      exact Giving.step_deed hg
    | work i w =>
      simp only [act] at h
      cases hw : s.pool.workers[i]? with
      | none => simp [hw] at h
      | some worker =>
        rw [hw] at h
        obtain ⟨⟨slot, w'⟩, hstep, rfl⟩ := Option.map_eq_some_iff.mp h
        exact WorkerAt.step_deed hw hstep
    | start g =>
      obtain ⟨⟨pool, g', started⟩, hg, rfl⟩ := Option.map_eq_some_iff.mp h
      exact Starting.step_deed hg
    | stop g =>
      obtain ⟨⟨pool, g'⟩, hg, rfl⟩ := Option.map_eq_some_iff.mp h
      exact Stopping.step_deed hg

theorem Deed.worker?_eq {p : Pool} {turn : Turn} {t : Thread} {x : Progressed}
    (h : Deed p turn t x) : x.thread.role.worker? = t.role.worker? := by
  cases h <;> rfl

/-- A step of a scene is a deed of one of its threads. -/
theorem Scene.step_deed {s t : Scene} {k : Nat} {turn : Turn} {events : List PoolEvent}
    (h : s.step k turn = some (t, events)) :
    ∃ thread x, s.threads[k]? = some thread ∧ Deed s.pool turn thread x ∧
      t = ⟨x.pool, s.threads.set k x.thread ++ x.started⟩ ∧ events = x.events := by
  simp only [step, Option.bind_eq_bind, Option.bind_eq_some_iff] at h
  obtain ⟨thread, hk, x, hx, h⟩ := h
  obtain ⟨rfl, rfl⟩ := Prod.mk.inj (Option.some.inj h)
  exact ⟨thread, x, hk, advance_deed hx, rfl, rfl⟩

/-- A thread that moves does a deed, or nothing happens. -/
theorem Course.react_moves (c : Course) (k : Nat) (turn : Turn) :
    c.react (.moves k turn) = c ∨ ∃ t x, c.scene.threads[k]? = some t ∧
      Deed c.scene.pool turn t x ∧ c.react (.moves k turn) =
        ⟨⟨x.pool, c.scene.threads.set k x.thread ++ x.started⟩,
          c.log ++ x.events.map fun e => (k, e)⟩ := by
  cases h : c.scene.step k turn with
  | none => exact .inl (by simp [react, h])
  | some r =>
    obtain ⟨t, x, hk, d, scene, events⟩ := Scene.step_deed h
    refine .inr ⟨t, x, hk, d, ?_⟩
    simp only [react, h]
    rw [scene, events]

end JobDispatch

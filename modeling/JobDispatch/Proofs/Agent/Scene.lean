import JobDispatch.Agent.Pool
import JobDispatch.Proofs.Agent.Slot
import JobDispatch.Proofs.Counting
import Mathlib.Data.Bool.Basic

/-!
Jobs on their way through a pool. A thread that gives a job to the pool brings it into one slot at
most, and from there one worker takes it: no step makes two jobs of one.
-/

namespace JobDispatch

/-- Whether a slot holds the job of an identity, for a worker to take it. -/
def Slot.holds (id : String) (slot : Slot (Submission Job)) : Bool :=
  slot.value.any fun s => s.item.id == id

def Submitter.brings (id : String) : Submitter Job → Bool
  | reserving s => s.item.id == id
  | feeding s => s.item.id == id
  | _ => false

/-- Whether a thread may still bring the job of an identity into a slot. -/
def Giving.brings (id : String) (s : Submission Job) : Giving → Bool
  | offering _ sub => s.item.id == id || sub.brings id
  | returned _ => false
  | _ => s.item.id == id

def Thread.brings (id : String) (t : Thread) : Bool :=
  match t.role with
  | .give s g => g.brings id s
  | _ => false

/-- Whether the processing of the job of an identity begins. -/
def PoolEvent.begins (id : String) : PoolEvent → Bool
  | begun _ s => s.item.id == id
  | _ => false

/-- How many slots hold the job of an identity. -/
def Pool.slotted (id : String) (p : Pool) : Nat := p.workers.countP fun w => w.slot.holds id

/-- How often the job of an identity is on its way to a worker. -/
def Scene.carried (id : String) (s : Scene) : Nat :=
  s.threads.countP (Thread.brings id) + s.pool.slotted id

variable (id : String)

theorem Pool.slotted_setSlot {p : Pool} {i : Nat} {w : Worker Job} (h : p.workers[i]? = some w)
    (slot : Slot (Submission Job)) :
    (p.setSlot i slot).slotted id + (w.slot.holds id).toNat =
      p.slotted id + (slot.holds id).toNat := by
  simp only [slotted, setSlot, List.modify_eq_set_getElem?, h]
  exact countP_set_getElem? _ h { w with slot }

theorem Pool.slotted_eq {p q : Pool} (h : q.workers = p.workers) : q.slotted id = p.slotted id := by
  rw [slotted, slotted, h]

theorem Pool.lock_workers {p q : Pool} {about : String} {events : List PoolEvent}
    (h : p.lock about = (.ok q, events)) : q.workers = p.workers := by
  unfold lock at h
  split at h <;> cases h
  rfl

theorem Pool.lock_begins (p : Pool) (about : String) :
    (p.lock about).2.countP (PoolEvent.begins id) = 0 := by
  unfold lock
  split <;> rfl

theorem Pool.releaseOrKeep_workers (p : Pool) (about : String) :
    (p.releaseOrKeep about).1.workers = p.workers := by
  unfold releaseOrKeep release
  cases p.locks.release about <;> rfl

theorem Pool.releaseOrKeep_begins (p : Pool) (about : String) :
    (p.releaseOrKeep about).2.countP (PoolEvent.begins id) = 0 := by
  unfold releaseOrKeep release
  cases p.locks.release about <;> rfl

theorem Duty.perform_workers (p : Pool) (d : Duty) : (d.perform p).1.workers = p.workers := by
  cases d with
  | release about => exact p.releaseOrKeep_workers about
  | _ => rfl

theorem Duty.perform_begins (p : Pool) (d : Duty) :
    (d.perform p).2.2.countP (PoolEvent.begins id) = 0 := by
  cases d with
  | release about => exact p.releaseOrKeep_begins id about
  | _ => rfl

/-- A thread brings its job into one slot at most. -/
theorem Giving.step_slotted {p q : Pool} {s : Submission Job} {g g' : Giving}
    {duties : List Duty} {events : List PoolEvent}
    (h : g.step p s = some (q, g', duties, events)) :
    q.slotted id + (g'.brings id s).toNat + events.countP (PoolEvent.begins id) ≤
      p.slotted id + (g.brings id s).toNat := by
  cases g with
  | entering =>
    simp only [step, Option.some.injEq, Prod.mk.injEq] at h
    obtain ⟨rfl, rfl, -, rfl⟩ := h
    split_ifs <;> simp [brings]
  | locking =>
    have quiet := p.lock_begins id s.item.id
    simp only [step] at h
    cases hl : p.lock s.item.id with
    | mk r evs =>
      rw [hl] at h quiet
      cases r with
      | ok p' =>
        cases h
        rw [Pool.slotted_eq id (Pool.lock_workers hl), quiet]
        simp [brings, Submitter.brings]
      | error e =>
        cases h
        rw [quiet]
        simp [brings]
  | offering i sub =>
    simp only [step] at h
    cases hw : p.workers[i]? with
    | none =>
      simp only [hw, Option.some.injEq, Prod.mk.injEq] at h
      obtain ⟨rfl, rfl, -, rfl⟩ := h
      rw [Pool.slotted_eq id (p.releaseOrKeep_workers _), p.releaseOrKeep_begins]
      simp [brings]
    | some w =>
      rw [hw] at h
      cases hs : sub.step w.slot with
      | none => simp [hs] at h
      | some x =>
        obtain ⟨slot, sub'⟩ := x
        have slotted := Pool.slotted_setSlot id hw slot
        simp only [hs] at h
        have back : (s.item.id == id).toNat ≤ (brings id s (.offering i sub)).toNat :=
          Bool.toNat_le_toNat (Bool.left_le_or _ _)
        cases Submitter.step_move hs with
        | reserves t =>
          cases h
          simp only [brings, Submitter.brings, Slot.holds, List.countP_nil] at slotted ⊢
          omega
        | feeds t =>
          cases h
          have fed : (Slot.holds id ⟨.running, some t⟩).toNat ≤
              (brings id s (.offering i (.feeding t))).toNat :=
            Bool.toNat_le_toNat (Bool.right_le_or _ _)
          simp only [brings, List.countP_nil, Bool.toNat_false] at fed ⊢
          omega
        | turnedAway t | lost t =>
          cases h
          simp only [brings, Submitter.brings, Bool.or_self, List.countP_nil] at back ⊢
          omega
  | returned r => simp [step] at h

/-- A worker takes a job out of its slot when it begins to process it. -/
theorem WorkerAt.step_holds {keepsOn : Bool} {slot slot' : Slot (Submission Job)}
    {w w' : WorkerAt Job} {turn : Turn} (h : w.step keepsOn slot turn = some (slot', w'))
    (i : Nat) :
    (slot'.holds id).toNat + (w.leave i slot w').2.countP (PoolEvent.begins id) ≤
      (slot.holds id).toNat := by
  cases step_move h with
  | takes s last fed =>
    have begins : (leave i slot (if last then .lastLook else .waiting) (.holding s last)).2 =
        [.begun i s] := by cases last <;> rfl
    rw [begins, countP_singleton_toNat]
    simp [Slot.holds, fed, PoolEvent.begins]
  | looks => cases keepsOn <;> simp [leave]
  | frees last | keeps last => cases last <;> simp [leave, Slot.empty, Slot.holds]
  | rests | leaves | processes => simp [leave]

/-- A start leaves the slots as they are, and the threads that it starts bring nothing. -/
theorem Starting.step_slotted {p q : Pool} {threads : Nat} {turn : Turn} {g g' : Starting}
    {started : List Thread} (h : g.step p threads turn = some (q, g', started)) :
    q.slotted id = p.slotted id ∧ started.countP (Thread.brings id) = 0 := by
  cases g with
  | checking => cases h; exact ⟨rfl, rfl⟩
  | claiming =>
    simp only [step] at h
    split_ifs at h <;> cases h <;> exact ⟨rfl, rfl⟩
  | opening =>
    simp only [step] at h
    split_ifs at h
    cases h
    exact ⟨rfl, rfl⟩
  | spawning i =>
    simp only [step] at h
    split_ifs at h
    · cases h; exact ⟨rfl, rfl⟩
    · cases turn <;> cases h <;> exact ⟨rfl, rfl⟩
  | returned r => cases h

/-- A stop leaves the slots as they are. -/
theorem Stopping.step_slotted {p q : Pool} {threads : List Thread} {turn : Turn}
    {g g' : Stopping} (h : g.step p threads turn = some (q, g')) :
    q.slotted id = p.slotted id := by
  cases g with
  | claiming =>
    simp only [step] at h
    split_ifs at h <;> cases h <;> rfl
  | marking => cases h; rfl
  | telling i =>
    simp only [step] at h
    split_ifs at h
    · cases h; rfl
    · cases h
      simp only [Pool.slotted, List.modify_eq_set_getElem?]
      cases hw : p.workers[i]? with
      | none => rfl
      | some w =>
        have same := countP_set_getElem? (fun w => w.slot.holds id) hw w.stop
        exact Nat.add_right_cancel same
  | collecting =>
    simp only [step] at h
    split_ifs at h
    cases h
    rfl
  | joining ts =>
    simp only [step] at h
    split_ifs at h <;> cases h <;> rfl
  | returned all => cases h

/-- What a thread does when it owes nothing makes no second job of one. -/
theorem Scene.act_carried {s : Scene} {turn : Turn} {role : Role} {p : Progressed}
    (h : s.act turn role = some p) :
    p.pool.slotted id + (p.thread.brings id).toNat + p.started.countP (Thread.brings id) +
        p.events.countP (PoolEvent.begins id) ≤
      s.pool.slotted id + (Thread.brings id ⟨[], role⟩).toNat := by
  cases role with
  | give sub g =>
    obtain ⟨⟨pool, g', duties, events⟩, hg, rfl⟩ := Option.map_eq_some_iff.mp h
    simpa [Thread.brings] using Giving.step_slotted id hg
  | work i w =>
    simp only [act] at h
    cases hw : s.pool.workers[i]? with
    | none => simp [hw] at h
    | some worker =>
      rw [hw] at h
      obtain ⟨⟨slot, w'⟩, hstep, rfl⟩ := Option.map_eq_some_iff.mp h
      have slotted := Pool.slotted_setSlot id hw slot
      have taken := WorkerAt.step_holds id hstep i
      simp only [Thread.brings, List.countP_nil, Bool.toNat_false]
      omega
  | start g =>
    obtain ⟨⟨pool, g', started⟩, hg, rfl⟩ := Option.map_eq_some_iff.mp h
    obtain ⟨slotted, none⟩ := Starting.step_slotted id hg
    simp [Thread.brings, slotted, none]
  | stop g =>
    obtain ⟨⟨pool, g'⟩, hg, rfl⟩ := Option.map_eq_some_iff.mp h
    simp [Thread.brings, Stopping.step_slotted id hg]

theorem Scene.advance_carried {s : Scene} {turn : Turn} {t : Thread} {p : Progressed}
    (h : s.advance turn t = some p) :
    p.pool.slotted id + (p.thread.brings id).toNat + p.started.countP (Thread.brings id) +
        p.events.countP (PoolEvent.begins id) ≤
      s.pool.slotted id + (t.brings id).toNat := by
  obtain ⟨duties, role⟩ := t
  cases duties with
  | nil => exact act_carried id h
  | cons d ds =>
    simp only [advance, Option.some.injEq] at h
    subst h
    have slotted := Pool.slotted_eq id (d.perform_workers s.pool)
    have quiet := d.perform_begins id s.pool
    simp [slotted, quiet, Thread.brings]

/-- No step of a scene makes two jobs of one: the jobs that begin to be processed are no longer
on their way. -/
theorem Scene.step_carried {s t : Scene} {k : Nat} {turn : Turn} {events : List PoolEvent}
    (h : s.step k turn = some (t, events)) :
    t.carried id + events.countP (PoolEvent.begins id) ≤ s.carried id := by
  simp only [step, Option.bind_eq_bind, Option.bind_eq_some_iff] at h
  obtain ⟨thread, hk, p, hp, h⟩ := h
  obtain ⟨rfl, rfl⟩ := Prod.mk.inj (Option.some.inj h)
  have moved := advance_carried id hp
  have put := countP_set_getElem? (Thread.brings id) hk p.thread
  simp only [carried, List.countP_append]
  omega

end JobDispatch

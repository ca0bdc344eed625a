import JobDispatch.Proofs.Agent.Course
import Mathlib.Data.List.Perm.Basic

/-!
Locked jobs in a scene. A lock is taken by the thread that gives a job, travels with the job
through a slot to the thread of a worker, and is given back by whoever has the job last.
-/

namespace JobDispatch

def Duty.locked : Duty → List String
  | release id => [id]
  | _ => []

/-- The jobs under a lock that a thread has in its hands, by their identities. -/
def Role.locked : Role → List String
  | give s (.offering _ _) => [s.item.id]
  | work _ (.holding s _) => [s.item.id]
  | _ => []

def Thread.locked (t : Thread) : List String := t.duties.flatMap Duty.locked ++ t.role.locked

def Slot.locked (slot : Slot (Submission Job)) : List String :=
  slot.value.toList.map fun s => s.item.id

/-- The jobs that were locked and not released, by their identities: those in the slots, and those
in the hands of the threads that give or process them. -/
def Scene.inFlight (s : Scene) : List String :=
  s.pool.slots.flatMap Slot.locked ++ s.threads.flatMap Thread.locked

/-- Whether a thread has a job of the worker of an index in its hands, or did not free its slot
yet. -/
def Role.worksAt (i : Nat) : Role → Bool
  | work j (.holding _ _) => i == j
  | work j (.freeing _) => i == j
  | _ => false

/-- What a thread is sure of: a job is offered by the thread that was given it, and a lock is owed
only between the end of a job and the freeing of its slot. -/
structure Thread.Sound (t : Thread) : Prop where
  own : ∀ s i sub, t.role = .give s (.offering i sub) → sub = .reserving s ∨ sub = .feeding s
  owes : ∀ id, .release id ∈ t.duties → ∃ i last, t.role = .work i (.freeing last)

/-- Whether the job of an identity stays locked by a call that gives it, as far as the call has
come. -/
def Role.keeps (id : String) : Role → Bool
  | give s (.offering _ _) => s.item.id == id
  | give s (.returned (.ok _)) => s.item.id == id
  | _ => false

def Role.gives : Role → Bool
  | give _ _ => true
  | _ => false

section

variable {p : Pool} {turn : Turn} {t : Thread} {x : Progressed}

theorem Pool.releaseOrKeep_of_mem {id : String} (h : id ∈ p.locks.ids) :
    p.releaseOrKeep id = ({ p with locks := ⟨p.locks.ids.erase id⟩ }, [.released id]) := by
  simp [releaseOrKeep, release, Locks.release, Locks.isLocked, h, Except.toOption]

theorem Pool.releaseOrKeep_of_not_mem {id : String} (h : id ∉ p.locks.ids) :
    p.releaseOrKeep id = (p, [.releaseFailed (.notLocked id)]) := by
  simp [releaseOrKeep, release, Locks.release, Locks.isLocked, h, Except.toOption]

theorem Locks.lock_ids {l m : Locks} {id : String} (h : l.lock id = .ok m) :
    id ∉ l.ids ∧ m.ids = id :: l.ids := by
  unfold lock at h
  split_ifs at h with locked
  cases h
  exact ⟨by simpa [isLocked] using locked, rfl⟩

theorem Duty.locked_of_not_release {d : Duty} (other : ∀ id, d ≠ .release id) : d.locked = [] := by
  cases d with
  | release id => exact absurd rfl (other id)
  | _ => rfl

/-- What a duty other than a release leads to concerns neither locks nor slots. -/
theorem Duty.perform_counts {d : Duty} (other : ∀ id, d ≠ .release id) (p : Pool) :
    (d.perform p).1.workers = p.workers ∧ (d.perform p).1.locks = p.locks ∧
      (∀ id, .release id ∉ (d.perform p).2.1) ∧
      ∀ id, .locked id ∉ (d.perform p).2.2 ∧ .released id ∉ (d.perform p).2.2 ∧
        ∀ e, .releaseFailed e ∉ (d.perform p).2.2 := by
  have telling (status : Option PoolStatus) (id : String) : Duty.release id ∉ p.duties status := by
    cases status <;> simp [Pool.duties]
  cases d with
  | release id => exact absurd rfl (other id)
  | lessIdle => exact ⟨rfl, rfl, by simp [perform], by simp [perform]⟩
  | moreIdle => exact ⟨rfl, rfl, by simp [perform], by simp [perform]⟩
  | moreBusy => exact ⟨rfl, rfl, telling _, by simp [perform]⟩
  | lessBusy => exact ⟨rfl, rfl, telling _, by simp [perform]⟩
  | tell listener status => exact ⟨rfl, rfl, by simp [perform], by simp [perform]⟩

theorem Duty.flatMap_locked {ds : List Duty} (none : ∀ id, .release id ∉ ds) :
    ds.flatMap Duty.locked = [] := by
  rw [List.flatMap_eq_nil_iff]
  intro d hd
  apply Duty.locked_of_not_release
  rintro id rfl
  exact none id hd

/-- What a thread does to the slot of the worker of an index, if it changes it. -/
inductive SlotChange (i : Nat) (slot : Slot (Submission Job)) :
    Thread → Thread → Slot (Submission Job) → Prop
  | reserves (s t : Submission Job) (idle : slot.status = .idle) :
      SlotChange i slot ⟨[], .give s (.offering i (.reserving t))⟩
        ⟨Duty.afterReserving, .give s (.offering i (.feeding t))⟩
        { slot with status := .reserved }
  | feeds (s t : Submission Job) (reserved : slot.status = .reserved) :
      SlotChange i slot ⟨[], .give s (.offering i (.feeding t))⟩
        ⟨[], .give s (.returned (.ok ()))⟩ ⟨.running, some t⟩
  | takes (s : Submission Job) (last : Bool) (fed : slot.value = some s) :
      SlotChange i slot ⟨[], .work i (if last then .lastLook else .waiting)⟩
        ⟨[], .work i (.holding s last)⟩ { slot with value := none }
  | frees (last : Bool) (running : slot.status = .running) :
      SlotChange i slot ⟨[], .work i (.freeing last)⟩
        ⟨Duty.afterFreeing, .work i (if last then .ended else .looking)⟩ .empty

/-- A deed leaves all slots as they are, or changes one of them. -/
theorem Deed.slots_cases (h : Deed p turn t x) : x.pool.slots = p.slots ∨
    ∃ i w slot, p.workers[i]? = some w ∧ x.pool = p.setSlot i slot ∧
      SlotChange i w.slot t x.thread slot ∧ x.started = [] := by
  cases h with
  | counts d ds role other => exact .inl (Pool.slots_congr (d.perform_counts other p).1)
  | releases id ds role => exact .inl (Pool.slots_congr (p.releaseOrKeep_workers id))
  | givesUp s j sub none => exact .inl (Pool.slots_congr (p.releaseOrKeep_workers _))
  | reserves s t j w worker idle => exact .inr ⟨j, w, _, worker, rfl, .reserves s t idle, rfl⟩
  | feeds s t j w worker reserved => exact .inr ⟨j, w, _, worker, rfl, .feeds s t reserved, rfl⟩
  | takes j w s at_ last worker fed when_ =>
    subst when_
    exact .inr ⟨j, w, _, worker, rfl, .takes s last fed, rfl⟩
  | frees j w last worker running =>
    exact .inr ⟨j, w, _, worker, rfl, .frees last running, rfl⟩
  | starts g g' q started workers locks meters fresh => exact .inl (Pool.slots_congr workers)
  | stops g g' q slots locks => exact .inl slots
  | _ => exact .inl rfl

theorem Deed.slotAt_cases (h : Deed p turn t x) (i : Nat) : x.pool.slotAt i = p.slotAt i ∨
    SlotChange i (p.slotAt i) t x.thread (x.pool.slotAt i) ∧ x.started = [] := by
  rcases h.slots_cases with same | ⟨j, w, slot, worker, pool, change, started⟩
  · exact .inl (Pool.slotAt_congr same i)
  · rw [pool, Pool.slotAt_setSlot worker]
    by_cases here : i = j
    · subst here
      rw [if_pos rfl, Pool.slotAt_eq worker]
      exact .inr ⟨change, started⟩
    · rw [if_neg here]
      exact .inl rfl

/-- Threads stay sound, and those that they start are. -/
theorem Deed.sound (h : Deed p turn t x) (sound : t.Sound) :
    x.thread.Sound ∧ ∀ y ∈ x.started, y.Sound := by
  have nobody (y : Thread) (hy : y ∈ []) : y.Sound := absurd hy List.not_mem_nil
  have free (role : Role) (ds : List Duty) (none : ∀ id, .release id ∉ ds)
      (own : ∀ s i sub, role = .give s (.offering i sub) →
        sub = .reserving s ∨ sub = .feeding s) : Thread.Sound ⟨ds, role⟩ :=
    ⟨own, fun id hid => absurd hid (none id)⟩
  cases h with
  | counts d ds role other =>
    obtain ⟨-, -, more, -⟩ := d.perform_counts other p
    refine ⟨⟨sound.own, ?_⟩, nobody⟩
    intro id hid
    rcases List.mem_append.mp hid with hid | hid
    · exact absurd hid (more id)
    · exact sound.owes id (List.mem_cons_of_mem _ hid)
  | releases id ds role =>
    exact ⟨⟨sound.own, fun id' hid => sound.owes id' (List.mem_cons_of_mem _ hid)⟩, nobody⟩
  | locks s locks lock =>
    refine ⟨free _ _ (by simp) ?_, nobody⟩
    rintro s i sub ⟨⟩
    exact .inl rfl
  | reserves s t i w worker idle =>
    refine ⟨free _ _ (by simp [Duty.afterReserving]) ?_, nobody⟩
    rintro s' i' sub ⟨⟩
    rcases sound.own s i _ rfl with h | h <;> cases h
    exact .inr rfl
  | refused s t i sub w worker why =>
    refine ⟨free _ _ (by simp) ?_, nobody⟩
    rintro s i sub ⟨⟩
    exact .inl rfl
  | frees i w last worker running =>
    exact ⟨free _ _ (by simp [Duty.afterFreeing]) (by simp), nobody⟩
  | processes i w s last o worker ended =>
    exact ⟨⟨by simp, fun _ _ => ⟨i, last, rfl⟩⟩, nobody⟩
  | starts g g' q started workers locks meters fresh =>
    refine ⟨free _ _ (by simp) (by simp), ?_⟩
    intro y hy
    obtain ⟨i, rfl⟩ := fresh y hy
    exact free _ _ (by simp) (by simp)
  | _ => exact ⟨free _ _ (by simp) (by simp), nobody⟩

/-- The threads that start have nothing in their hands. -/
theorem Deed.started_empty (h : Deed p turn t x) :
    ∀ y ∈ x.started, y.locked = [] ∧ y.role.gives = false ∧ ∀ i, y.role.worksAt i = false := by
  cases h with
  | starts g g' q started workers locks meters fresh =>
    intro y hy
    obtain ⟨i, rfl⟩ := fresh y hy
    exact ⟨rfl, rfl, fun _ => rfl⟩
  | _ => exact fun y hy => absurd hy List.not_mem_nil

/-- A slot runs while it holds a job or a thread works on what it held; `n` counts the other
threads. -/
theorem Deed.occupied (h : Deed p turn t x) {i n : Nat}
    (before : n + (t.role.worksAt i).toNat + (p.slotAt i).value.toList.length =
      if (p.slotAt i).status = .running then 1 else 0) :
    n + (x.thread.role.worksAt i).toNat + (x.pool.slotAt i).value.toList.length =
      if (x.pool.slotAt i).status = .running then 1 else 0 := by
  have unchanged (slot : x.pool.slotAt i = p.slotAt i)
      (works : x.thread.role.worksAt i = t.role.worksAt i) :
      n + (x.thread.role.worksAt i).toNat + (x.pool.slotAt i).value.toList.length =
        if (x.pool.slotAt i).status = .running then 1 else 0 := by
    rw [slot, works]
    exact before
  have sameSlots (slots : x.pool.slots = p.slots)
      (works : x.thread.role.worksAt i = t.role.worksAt i) :=
    unchanged (Pool.slotAt_congr slots i) works
  have changed {j : Nat} {w : Worker Job} (worker : p.workers[j]? = some w)
      {slot : Slot (Submission Job)} (pool : x.pool = p.setSlot j slot)
      (elsewhere : i ≠ j → x.thread.role.worksAt i = t.role.worksAt i)
      (here : i = j → n + (t.role.worksAt i).toNat + w.slot.value.toList.length =
          (if w.slot.status = .running then 1 else 0) →
        n + (x.thread.role.worksAt i).toNat + slot.value.toList.length =
          if slot.status = .running then 1 else 0) :
      n + (x.thread.role.worksAt i).toNat + (x.pool.slotAt i).value.toList.length =
        if (x.pool.slotAt i).status = .running then 1 else 0 := by
    by_cases same : i = j
    · subst same
      rw [Pool.slotAt_eq worker] at before
      rw [pool, Pool.slotAt_setSlot worker, if_pos rfl]
      exact here rfl before
    · refine unchanged ?_ (elsewhere same)
      rw [pool, Pool.slotAt_setSlot worker, if_neg same]
  cases h with
  | counts d ds role other =>
    exact sameSlots (Pool.slots_congr (d.perform_counts other p).1) rfl
  | releases id ds role => exact sameSlots (Pool.slots_congr (p.releaseOrKeep_workers id)) rfl
  | givesUp s j sub none => exact sameSlots (Pool.slots_congr (p.releaseOrKeep_workers _)) rfl
  | looks j w worker => exact unchanged rfl (by cases w.keepsOn <;> rfl)
  | keeps j w last worker other =>
    by_cases here : i = j
    · subst here
      rw [Pool.slotAt_eq worker] at before
      simp [Role.worksAt, other] at before
    · apply unchanged rfl
      cases last <;> simp [Role.worksAt, here]
  | starts g g' q started workers => exact sameSlots (Pool.slots_congr workers) rfl
  | stops g g' q slots locks => exact sameSlots slots rfl
  | reserves s t j w worker idle =>
    refine changed worker rfl (fun _ => rfl) ?_
    intro _ before
    simpa [Role.worksAt, idle] using before
  | feeds s t j w worker reserved =>
    refine changed worker rfl (fun _ => rfl) ?_
    intro _ before
    simp [Role.worksAt, reserved] at before
    simp [Role.worksAt, before]
  | takes j w s at_ last worker fed when_ =>
    have outside : (Role.work j at_).worksAt i = false := by
      subst when_
      cases last <;> rfl
    refine changed worker rfl ?_ ?_
    · intro other
      refine Eq.trans ?_ outside.symm
      simp [Role.worksAt, other]
    · intro here before
      simp [outside, fed] at before
      simp [Role.worksAt, here, ← before]
  | frees j w last worker running =>
    have after : (Role.work j (if last then .ended else .looking)).worksAt i = false := by
      cases last <;> rfl
    refine changed worker rfl ?_ ?_
    · intro other
      refine after.trans ?_
      simp [Role.worksAt, other]
    · intro here before
      simp only [Role.worksAt, here, beq_self_eq_true, Bool.toNat_true, running, if_true] at before
      have alone : n = 0 := by omega
      simp [after, Slot.empty, alone]
  | _ => exact unchanged rfl rfl

theorem Slot.count_locked (id : String) (slot : Slot (Submission Job)) :
    slot.locked.count id = (slot.holds id).toNat := by
  unfold locked holds
  cases slot.value with
  | none => rfl
  | some s => exact countP_singleton_toNat _ _

theorem Pool.count_locked (id : String) (p : Pool) :
    (p.slots.flatMap Slot.locked).count id = p.slotted id := by
  unfold slots slotted
  induction p.workers with
  | nil => rfl
  | cons w ws ih =>
    have head := countP_singleton_toNat (fun w => w.slot.holds id) w
    rw [List.map_cons, List.flatMap_cons, List.count_append, Slot.count_locked, ih]
    rw [← List.singleton_append, List.countP_append, head]

theorem Pool.slotted_congr {p q : Pool} (h : q.slots = p.slots) (id : String) :
    q.slotted id = p.slotted id := by
  rw [← Pool.count_locked, ← Pool.count_locked, h]

theorem Pool.count_releaseOrKeep {about : String} (h : about ∈ p.locks.ids) (id : String) :
    (p.releaseOrKeep about).1.locks.ids.count id + [about].count id = p.locks.ids.count id := by
  have split := (List.perm_cons_erase h).count_eq id
  rw [← List.singleton_append, List.count_append] at split
  rw [p.releaseOrKeep_of_mem h]
  simp only
  omega

/-- A slot that does not run is empty, and so is one that a thread works for. -/
theorem Pool.value_eq_none {role : Role} {i : Nat}
    (occupied : (role.worksAt i).toNat + (p.slotAt i).value.toList.length ≤
      if (p.slotAt i).status = .running then 1 else 0)
    (why : role.worksAt i = true ∨ (p.slotAt i).status ≠ .running) :
    (p.slotAt i).value = none := by
  have length : (p.slotAt i).value.toList.length = 0 := by
    rcases why with works | other
    · rw [works] at occupied
      split_ifs at occupied <;> simp only [Bool.toNat_true] at occupied <;> omega
    · rw [if_neg other] at occupied
      omega
  exact Option.toList_eq_nil_iff.mp (List.eq_nil_of_length_eq_zero length)

/-- The locks stay those of the jobs in flight; `n` counts the locks of the other threads. -/
theorem Deed.balanced (h : Deed p turn t x) (sound : t.Sound)
    (occupied : ∀ i, (t.role.worksAt i).toNat + (p.slotAt i).value.toList.length ≤
      if (p.slotAt i).status = .running then 1 else 0) {n : String → Nat}
    (before : ∀ id, p.locks.ids.count id = n id + p.slotted id + t.locked.count id) (id : String) :
    x.pool.locks.ids.count id = n id + x.pool.slotted id + x.thread.locked.count id := by
  have unchanged (locks : x.pool.locks = p.locks) (slots : x.pool.slots = p.slots)
      (locked : x.thread.locked = t.locked) :
      x.pool.locks.ids.count id = n id + x.pool.slotted id + x.thread.locked.count id := by
    rw [locks, Pool.slotted_congr slots, locked]
    exact before id
  have held (about : String) (h : about ∈ t.locked) : about ∈ p.locks.ids := by
    have one := List.count_pos_iff.mpr h
    have before := before about
    exact List.count_pos_iff.mp (by omega)
  have released (about : String) (pool : x.pool = (p.releaseOrKeep about).1)
      (locked : t.locked = [about] ++ x.thread.locked) :
      x.pool.locks.ids.count id = n id + x.pool.slotted id + x.thread.locked.count id := by
    have fewer := Pool.count_releaseOrKeep (held about (by simp [locked])) id
    have slotted := Pool.slotted_eq id (p.releaseOrKeep_workers about)
    have before := before id
    rw [locked, List.count_append] at before
    rw [pool, slotted]
    omega
  have handed {i : Nat} {w : Worker Job} (worker : p.workers[i]? = some w)
      (slot : Slot (Submission Job)) (pool : x.pool = p.setSlot i slot)
      (locked : slot.locked ++ x.thread.locked = w.slot.locked ++ t.locked) :
      x.pool.locks.ids.count id = n id + x.pool.slotted id + x.thread.locked.count id := by
    have slotted := Pool.slotted_setSlot id worker slot
    have locked := congrArg (List.count id) locked
    have before := before id
    have locks : (p.setSlot i slot).locks = p.locks := rfl
    simp only [List.count_append, Slot.count_locked] at locked
    rw [pool, locks]
    omega
  have empty (i : Nat) (w : Worker Job) (worker : p.workers[i]? = some w)
      (none : t.role.worksAt i = true ∨ w.slot.status ≠ .running) : w.slot.locked = [] := by
    rw [← Pool.slotAt_eq worker] at none ⊢
    rw [Slot.locked, Pool.value_eq_none (occupied i) none]
    rfl
  cases h with
  | counts d ds role other =>
    obtain ⟨workers, locks, more, -⟩ := d.perform_counts other p
    apply unchanged locks (Pool.slots_congr workers)
    simp [Thread.locked, Duty.flatMap_locked more, d.locked_of_not_release other]
  | releases about ds role => exact released about rfl rfl
  | locks s locks lock =>
    obtain ⟨-, ids⟩ := Locks.lock_ids lock
    have before := before id
    have nothing : Thread.locked ⟨[], .give s .locking⟩ = [] := rfl
    have locked : Thread.locked ⟨[], .give s (.offering 0 (.reserving s))⟩ = [s.item.id] := rfl
    have slotted : Pool.slotted id { p with locks } = p.slotted id := rfl
    rw [nothing, List.count_nil] at before
    rw [locked, slotted, ids, ← List.singleton_append, List.count_append]
    omega
  | reserves s t i w worker idle => exact handed worker _ rfl rfl
  | feeds s t i w worker reserved =>
    have nothing := empty i w worker (.inr (by simp [reserved]))
    rcases sound.own s i _ rfl with h | h <;> cases h
    apply handed worker _ rfl
    rw [nothing]
    rfl
  | givesUp s i sub none => exact released s.item.id rfl rfl
  | looks i w worker =>
    apply unchanged rfl rfl
    cases w.keepsOn <;> rfl
  | takes i w s at_ last worker fed when_ =>
    have nothing : Thread.locked ⟨[], .work i at_⟩ = [] := by
      subst when_
      cases last <;> rfl
    apply handed worker _ rfl
    rw [nothing]
    simp [Slot.locked, fed, Thread.locked, Role.locked]
  | frees i w last worker running =>
    have nothing := empty i w worker (.inl (by simp [Role.worksAt]))
    apply handed worker _ rfl
    rw [nothing]
    cases last <;> rfl
  | keeps i w last worker other =>
    apply unchanged rfl rfl
    cases last <;> rfl
  | starts g g' q started workers locks meters fresh =>
    exact unchanged locks (Pool.slots_congr workers) rfl
  | stops g g' q slots locks => exact unchanged locks slots rfl
  | _ => exact unchanged rfl rfl rfl

/-- A lock is not taken twice. -/
theorem Deed.nodup (h : Deed p turn t x) (before : p.locks.ids.Nodup) : x.pool.locks.ids.Nodup := by
  have released (about : String) : (p.releaseOrKeep about).1.locks.ids.Nodup := by
    by_cases held : about ∈ p.locks.ids
    · rw [p.releaseOrKeep_of_mem held]
      exact before.erase about
    · rw [p.releaseOrKeep_of_not_mem held]
      exact before
  cases h with
  | counts d ds role other =>
    rw [(d.perform_counts other p).2.1]
    exact before
  | releases about ds role => exact released about
  | locks s locks lock =>
    obtain ⟨fresh, ids⟩ := Locks.lock_ids lock
    rw [ids]
    exact before.cons fresh
  | givesUp s i sub none => exact released s.item.id
  | starts g g' q started workers locks meters fresh =>
    rw [locks]
    exact before
  | stops g g' q slots locks =>
    rw [locks]
    exact before
  | _ => exact before

/-- What a thread has in its hands it can release. -/
theorem Deed.releases_held (h : Deed p turn t x) (held : ∀ id ∈ t.locked, id ∈ p.locks.ids)
    (e : LockError) : .releaseFailed e ∉ x.events := by
  cases h with
  | counts d ds role other => exact ((d.perform_counts other p).2.2.2 "").2.2 e
  | releases about ds role =>
    rw [p.releaseOrKeep_of_mem (held about List.mem_cons_self)]
    simp
  | givesUp s i sub none =>
    rw [p.releaseOrKeep_of_mem (held s.item.id List.mem_cons_self)]
    simp
  | _ => simp

theorem Deed.gives_eq (h : Deed p turn t x) : x.thread.role.gives = t.role.gives := by
  cases h <;> rfl

/-- A call that gives a job releases what it locked, unless the job stays locked. -/
theorem Deed.settled (h : Deed p turn t x) (sound : t.Sound) (gives : t.role.gives = true)
    (held : ∀ id ∈ t.locked, id ∈ p.locks.ids) (id : String) :
    x.events.count (.locked id) + (t.role.keeps id).toNat =
      x.events.count (.released id) + (x.thread.role.keeps id).toNat := by
  cases h with
  | counts d ds role other =>
    obtain ⟨locked, released, -⟩ := (d.perform_counts other p).2.2.2 id
    simp only [List.count_eq_zero.mpr locked, List.count_eq_zero.mpr released]
  | releases about ds role =>
    obtain ⟨i, last, rfl⟩ := sound.owes about List.mem_cons_self
    cases gives
  | locks s locks lock =>
    have one : [PoolEvent.locked s.item.id].count (.locked id) = (s.item.id == id).toNat := by
      by_cases same : s.item.id = id
      · simp [same]
      · simp [same, beq_eq_false_iff_ne.mpr same]
    have none : [PoolEvent.locked s.item.id].count (.released id) = 0 := by simp
    simp only [one, none, Role.keeps, Bool.toNat_false]
    omega
  | givesUp s i sub none =>
    rw [p.releaseOrKeep_of_mem (held s.item.id List.mem_cons_self)]
    have one : [PoolEvent.released s.item.id].count (.released id) = (s.item.id == id).toNat := by
      by_cases same : s.item.id = id
      · simp [same]
      · simp [same, beq_eq_false_iff_ne.mpr same]
    have none : [PoolEvent.released s.item.id].count (.locked id) = 0 := by simp
    simp only [one, none, Role.keeps, Bool.toNat_false]
    omega
  | lockedOut s e lock => simp [Role.keeps]
  | _ => rfl

end

namespace Scene

/-- What is known of the locks of a scene: there is one for each job in flight, and a slot runs
while it holds a job or a thread works on what it held. -/
structure Kept (s : Scene) : Prop where
  sound : ∀ t ∈ s.threads, t.Sound
  taken : ∀ i, s.threads.countP (fun t => t.role.worksAt i) +
    (s.pool.slotAt i).value.toList.length = if (s.pool.slotAt i).status = .running then 1 else 0
  counted : ∀ id, s.pool.locks.ids.count id = s.inFlight.count id
  nodup : s.pool.locks.ids.Nodup

variable {s : Scene} {id : String}

theorem count_inFlight : s.inFlight.count id =
    s.pool.slotted id + (s.threads.flatMap Thread.locked).count id := by
  rw [inFlight, List.count_append, Pool.count_locked]

/-- What a thread has in its hands is locked. -/
theorem Kept.held (h : s.Kept) {t : Thread} (ht : t ∈ s.threads) {id : String}
    (hid : id ∈ t.locked) : id ∈ s.pool.locks.ids := by
  have flight : id ∈ s.inFlight :=
    List.mem_append_right _ (List.mem_flatMap.mpr ⟨t, ht, hid⟩)
  have one := List.count_pos_iff.mpr flight
  rw [← h.counted id] at one
  exact List.count_pos_iff.mp one

/-- A thread works for a slot that runs, and then the slot is empty. -/
theorem Kept.occupied (h : s.Kept) {t : Thread} (ht : t ∈ s.threads) (i : Nat) :
    (t.role.worksAt i).toNat + (s.pool.slotAt i).value.toList.length ≤
      if (s.pool.slotAt i).status = .running then 1 else 0 := by
  rw [← h.taken i]
  cases works : t.role.worksAt i with
  | false => simp
  | true =>
    have one : 0 < s.threads.countP fun t => t.role.worksAt i :=
      List.countP_pos_iff.mpr ⟨t, ht, works⟩
    simp only [Bool.toNat_true]
    omega

theorem kept_start (workers : Nat) (listeners : List String) :
    (Course.start workers listeners).scene.Kept := by
  refine ⟨by simp [Course.start], ?_, ?_, List.nodup_nil⟩
  · intro i
    rw [Course.slotAt_start]
    rfl
  · intro id
    have nothing : (List.replicate workers Slot.empty).flatMap Slot.locked = [] := by
      simp [Slot.locked, Slot.empty]
    rw [inFlight, Course.slots_start, nothing]
    rfl

theorem Kept.enter (h : s.Kept) (e : Entrance) :
    (⟨s.pool, s.threads ++ [⟨[], e.role⟩]⟩ : Scene).Kept := by
  have empty : Thread.locked ⟨[], e.role⟩ = [] := by cases e <;> rfl
  have idle (i : Nat) : e.role.worksAt i = false := by cases e <;> rfl
  refine ⟨?_, ?_, ?_, h.nodup⟩
  · intro t ht
    rcases List.mem_append.mp ht with ht | ht
    · exact h.sound t ht
    · rw [List.mem_singleton.mp ht]
      cases e <;> exact ⟨by simp [Entrance.role], by simp⟩
  · intro i
    have before := h.taken i
    simpa [idle] using before
  · intro id
    have before := h.counted id
    rw [count_inFlight] at before ⊢
    simpa [empty] using before

/-- A step of a thread keeps the locks. -/
theorem Kept.step (h : s.Kept) {k : Nat} {turn : Turn} {t : Thread} {x : Progressed}
    (hk : s.threads[k]? = some t) (d : Deed s.pool turn t x) :
    (⟨x.pool, s.threads.set k x.thread ++ x.started⟩ : Scene).Kept := by
  obtain ⟨hlt, rfl⟩ := List.getElem?_eq_some_iff.mp hk
  have ht := List.getElem_mem hlt
  have sound := h.sound _ ht
  have before := (List.getElem_cons_eraseIdx_perm hlt).symm
  have after := List.set_perm_cons_eraseIdx hlt x.thread
  generalize s.threads.eraseIdx k = others at before after
  have taken (i : Nat) : others.countP (fun t => t.role.worksAt i) +
      (s.threads[k].role.worksAt i).toNat + (s.pool.slotAt i).value.toList.length =
        if (s.pool.slotAt i).status = .running then 1 else 0 := by
    have total := before.countP_eq fun t => t.role.worksAt i
    have taken := h.taken i
    have here := countP_singleton_toNat (fun t : Thread => t.role.worksAt i) s.threads[k]
    rw [← List.singleton_append, List.countP_append, here] at total
    omega
  refine ⟨?_, ?_, ?_, d.nodup h.nodup⟩
  · intro u hu
    rcases List.mem_append.mp hu with hu | hu
    · rcases List.mem_or_eq_of_mem_set hu with hu | rfl
      · exact h.sound u hu
      · exact (d.sound sound).1
    · exact (d.sound sound).2 u hu
  · intro i
    have total := after.countP_eq fun t => t.role.worksAt i
    have here := countP_singleton_toNat (fun t : Thread => t.role.worksAt i) x.thread
    have new : x.started.countP (fun t => t.role.worksAt i) = 0 := by
      rw [List.countP_eq_zero]
      intro y hy
      simp [(d.started_empty y hy).2.2 i]
    rw [← List.singleton_append, List.countP_append, here] at total
    rw [List.countP_append, total, new, Nat.add_zero, Nat.add_comm (x.thread.role.worksAt i).toNat]
    exact d.occupied (taken i)
  · have counted (id : String) : s.pool.locks.ids.count id =
        (others.flatMap Thread.locked).count id + s.pool.slotted id +
          s.threads[k].locked.count id := by
      have total := (before.flatMap_right Thread.locked).count_eq id
      rw [List.flatMap_cons, List.count_append] at total
      rw [h.counted id, count_inFlight]
      omega
    intro id
    have total := (after.flatMap_right Thread.locked).count_eq id
    have new : x.started.flatMap Thread.locked = [] := by
      rw [List.flatMap_eq_nil_iff]
      exact fun y hy => (d.started_empty y hy).1
    rw [List.flatMap_cons, List.count_append] at total
    simp only [d.balanced sound (h.occupied ht) counted id, count_inFlight, List.flatMap_append,
      new, List.append_nil, total]
    omega

end Scene

end JobDispatch

import JobDispatch.Agent.PoolCall
import JobDispatch.Proofs.Agent.Lockset
import Mathlib.Data.Int.ModEq
import Mathlib.Data.List.Induction

/-!
What a pool counts. A thread counts the slot that it reserved or gave back a while after it did so,
and others go on meanwhile. What it did not count yet makes up for the difference between the
meters and the slots.
-/

namespace JobDispatch

/-- Whether a thread reserved a slot that it did not feed yet. -/
def Role.isFeeding : Role → Bool
  | give _ (.offering _ sub) => sub.isFeeding
  | _ => false

def Role.isCrew (r : Role) : Bool := r.worker?.isSome

/-- How many slots are not idle. -/
def Pool.taken (p : Pool) : Nat := p.slots.countP fun slot => slot.status ≠ .idle

def Pool.reserved (p : Pool) : Nat := p.slots.countP fun slot => slot.status = .reserved

/-- How often the threads of a scene owe a duty. -/
def Scene.owed (s : Scene) (d : Duty) : Nat := (s.threads.map fun t => t.duties.count d).sum

/-- How many threads work for the pool, or did so. -/
def Scene.crew (s : Scene) : Nat := s.threads.countP fun t => t.role.isCrew

/-- The status that a duty makes known when it is done, if there is a new one. -/
def Duty.decides (p : Pool) : Duty → Option PoolStatus
  | moreBusy => p.busy.more.2
  | lessBusy => p.busy.less.2
  | _ => none

/-- The status at a position of a list in which the two take turns, the full one first. -/
def PoolStatus.inTurn (i : Nat) : PoolStatus := if i % 2 = 0 then .full else .accepting

theorem PoolStatus.inTurn_ne_succ (i : Nat) : inTurn i ≠ inTurn (i + 1) := by
  unfold inTurn
  split_ifs <;> first | omega | decide

def PoolStatus.TakeTurns (l : List PoolStatus) : Prop := ∀ i (h : i < l.length), l[i] = inTurn i

theorem PoolStatus.TakeTurns.snoc {l : List PoolStatus} (turns : TakeTurns l) :
    TakeTurns (l ++ [inTurn l.length]) := by
  intro i h
  rcases Nat.lt_or_ge i l.length with old | new
  · rw [List.getElem_append_left old]
    exact turns i old
  · obtain rfl : i = l.length := by
      simp only [List.length_append, List.length_singleton] at h
      omega
    exact List.getElem_concat_length rfl _

theorem PoolStatus.eq_of_ne_of_ne {a b c : PoolStatus} (hb : a ≠ b) (hc : a ≠ c) : b = c := by
  cases a <;> cases b <;> cases c <;> first | rfl | contradiction

namespace Course

/-- The status that an event makes known, if there is a new one. -/
def decides (c : Course) : SceneEvent → Option PoolStatus
  | .enters _ => none
  | .moves k _ =>
    match c.scene.threads[k]? with
    | some ⟨d :: _, _⟩ => d.decides c.scene.pool
    | _ => none

/-- All that is made known from a course on. -/
def broadcastsFrom (c : Course) : List SceneEvent → List PoolStatus
  | [] => []
  | e :: es => (c.decides e).toList ++ broadcastsFrom (c.react e) es

def broadcasts (workers : Nat) (listeners : List String) (es : List SceneEvent) :
    List PoolStatus :=
  (start workers listeners).broadcastsFrom es

end Course

section

variable {p : Pool} {turn : Turn} {t : Thread} {x : Progressed}

theorem Pool.slots_setSlot {i : Nat} {w : Worker Job} (h : p.workers[i]? = some w)
    (slot : Slot (Submission Job)) : (p.setSlot i slot).slots = p.slots.set i slot := by
  rw [slots, slots, setSlot, List.modify_eq_set_getElem?, h]
  simp

theorem Pool.countP_setSlot (P : Slot (Submission Job) → Bool) {i : Nat} {w : Worker Job}
    (h : p.workers[i]? = some w) (slot : Slot (Submission Job)) :
    (p.setSlot i slot).slots.countP P + (P w.slot).toNat = p.slots.countP P + (P slot).toNat := by
  have here : p.slots[i]? = some w.slot := by simp [slots, h]
  rw [slots_setSlot h, countP_set_getElem? P here]

theorem Pool.taken_setSlot {i : Nat} {w : Worker Job} (h : p.workers[i]? = some w)
    (slot : Slot (Submission Job)) :
    (p.setSlot i slot).taken + (decide (w.slot.status ≠ .idle)).toNat =
      p.taken + (decide (slot.status ≠ .idle)).toNat :=
  countP_setSlot (fun slot => slot.status ≠ .idle) h slot

theorem Pool.taken_congr {q : Pool} (h : q.slots = p.slots) : q.taken = p.taken := by
  rw [taken, taken, h]

theorem Pool.releaseOrKeep_meters (p : Pool) (id : String) :
    (p.releaseOrKeep id).1.meters = p.meters := by
  unfold releaseOrKeep release
  cases p.locks.release id <;> rfl

theorem Duty.perform_listeners (d : Duty) (p : Pool) :
    (d.perform p).1.listeners = p.listeners := by
  cases d with
  | release id => exact congrArg (·.2.2) (p.releaseOrKeep_meters id)
  | _ => rfl

/-- All that a deed can mean for the meters. -/
inductive MeterChange (p : Pool) (t : Thread) (x : Progressed) : Prop
  | counts (d : Duty) (ds : List Duty) (before : t.duties = d :: ds)
      (pool : x.pool = (d.perform p).1) (after : x.thread.duties = p.duties (d.decides p) ++ ds)
  | reserves (meters : x.pool.meters = p.meters) (taken : x.pool.taken = p.taken + 1)
      (before : t.duties = []) (after : x.thread.duties = Duty.afterReserving)
  | frees (meters : x.pool.meters = p.meters) (taken : x.pool.taken + 1 = p.taken)
      (before : t.duties = []) (after : x.thread.duties = Duty.afterFreeing)
  | keeps (meters : x.pool.meters = p.meters) (taken : x.pool.taken = p.taken)
      (before : t.duties = []) (after : ∀ d ∈ x.thread.duties, ∃ id, d = .release id)

theorem Duty.perform_decides (d : Duty) (p : Pool) :
    (d.perform p).2.1 = p.duties (d.decides p) := by
  cases d <;> rfl

theorem Deed.meterChange (h : Deed p turn t x) : MeterChange p t x := by
  cases h with
  | counts d ds role other => exact .counts d ds rfl rfl (by rw [d.perform_decides])
  | releases id ds role => exact .counts _ ds rfl rfl rfl
  | reserves s t i w worker idle =>
    have more := Pool.taken_setSlot worker { w.slot with status := .reserved }
    exact .reserves rfl (by simpa [idle] using more) rfl rfl
  | frees i w last worker running =>
    have less := Pool.taken_setSlot worker .empty
    exact .frees rfl (by simpa [running, Slot.empty] using less) rfl rfl
  | feeds s t i w worker reserved =>
    have same := Pool.taken_setSlot worker ⟨.running, some t⟩
    exact .keeps rfl (by simpa [reserved] using same) rfl (by simp)
  | takes i w s at_ last worker fed when_ =>
    have same := Pool.taken_setSlot worker { w.slot with value := none }
    exact .keeps rfl (Nat.add_right_cancel same) rfl (by simp)
  | givesUp s i sub none =>
    exact .keeps (p.releaseOrKeep_meters _)
      (Pool.taken_congr (Pool.slots_congr (p.releaseOrKeep_workers _))) rfl (by simp)
  | starts g g' q started workers locks meters fresh =>
    exact .keeps meters (Pool.taken_congr (Pool.slots_congr workers)) rfl (by simp)
  | stops g g' q slots locks meters => exact .keeps meters (Pool.taken_congr slots) rfl (by simp)
  | _ => exact .keeps rfl rfl rfl (by simp)

theorem Pool.count_duties (p : Pool) (status : Option PoolStatus) {d : Duty}
    (other : ∀ l s, d ≠ .tell l s) : (p.duties status).count d = 0 := by
  rw [List.count_eq_zero]
  intro hd
  cases status with
  | none => cases hd
  | some s =>
    obtain ⟨l, -, rfl⟩ := List.mem_map.mp hd
    exact other l s rfl

theorem Duty.perform_taken (d : Duty) (p : Pool) : (d.perform p).1.taken = p.taken :=
  Pool.taken_congr (Pool.slots_congr (d.perform_workers p))

/-- A number that a pool keeps in a word: one duty counts the slots that were reserved, and another
one those that were given back. -/
structure Tally (val : Pool → ℤ) (up down : Duty) : Prop where
  kept : ∀ {p q : Pool}, q.meters = p.meters → val q = val p
  climbs : ∀ p, val (up.perform p).1 ≡ val p + 1 [ZMOD 2 ^ 64]
  sinks : ∀ p, val (down.perform p).1 ≡ val p - 1 [ZMOD 2 ^ 64]
  stays : ∀ p d, d ≠ up → d ≠ down → val (d.perform p).1 = val p
  apart : up ≠ down
  plain : ∀ d, d = up ∨ d = down → (∀ id, d ≠ .release id) ∧ ∀ l s, d ≠ .tell l s
  reserving : Duty.afterReserving.count up = 1 ∧ Duty.afterReserving.count down = 0
  freeing : Duty.afterFreeing.count up = 0 ∧ Duty.afterFreeing.count down = 1

theorem tally_busy : Tally (fun p => p.busy.busy.toNat) .moreBusy .lessBusy where
  kept h := congrArg (fun m => (m.2.1.busy.toNat : ℤ)) h
  climbs p := by simp [Duty.perform, BusyMeter.more, Int.ModEq]
  sinks p := by
    simp only [Duty.perform, BusyMeter.less, Int.ModEq, UInt64.toNat_sub, UInt64.toNat_one]
    omega
  stays p d climbs sinks := by
    cases d with
    | release id => exact congrArg (fun m => (m.2.1.busy.toNat : ℤ)) (p.releaseOrKeep_meters id)
    | moreBusy => exact absurd rfl climbs
    | lessBusy => exact absurd rfl sinks
    | _ => rfl
  apart := by simp
  plain := by simp
  reserving := by decide
  freeing := by decide

/-- The idle meter counts downwards. -/
theorem tally_idle : Tally (fun p => -p.idle.idle.toNat) .lessIdle .moreIdle where
  kept h := congrArg (fun m => -(m.1.idle.toNat : ℤ)) h
  climbs p := by
    simp only [Duty.perform, IdleMeter.less, Int.ModEq, UInt64.toNat_sub, UInt64.toNat_one]
    omega
  sinks p := by
    simp only [Duty.perform, IdleMeter.more, Int.ModEq, UInt64.toNat_add, UInt64.toNat_one]
    omega
  stays p d climbs sinks := by
    cases d with
    | release id => exact congrArg (fun m => -(m.1.idle.toNat : ℤ)) (p.releaseOrKeep_meters id)
    | lessIdle => exact absurd rfl climbs
    | moreIdle => exact absurd rfl sinks
    | _ => rfl
  apart := by simp
  plain := by simp
  reserving := by decide
  freeing := by decide

/-- A deed changes a tally by the slots that it reserves or gives back, but for what the thread
owes then. -/
theorem MeterChange.tally (h : MeterChange p t x) {val : Pool → ℤ} {up down : Duty}
    (tally : Tally val up down) :
    val x.pool + x.thread.duties.count up - x.thread.duties.count down - x.pool.taken ≡
      val p + t.duties.count up - t.duties.count down - p.taken [ZMOD 2 ^ 64] := by
  have upPlain := tally.plain up (.inl rfl)
  have downPlain := tally.plain down (.inr rfl)
  cases h with
  | counts d ds before pool after =>
    rw [before, pool, after, d.perform_taken, List.count_append, List.count_append,
      p.count_duties _ upPlain.2, p.count_duties _ downPlain.2, Nat.zero_add, Nat.zero_add]
    by_cases isUp : d = up
    · subst isUp
      have climbs := tally.climbs p
      rw [List.count_cons_self, List.count_cons_of_ne tally.apart]
      rw [Int.ModEq] at climbs ⊢
      omega
    · by_cases isDown : d = down
      · subst isDown
        have sinks := tally.sinks p
        rw [List.count_cons_self, List.count_cons_of_ne isUp]
        rw [Int.ModEq] at sinks ⊢
        omega
      · rw [tally.stays p d isUp isDown, List.count_cons_of_ne isUp,
          List.count_cons_of_ne isDown]
  | reserves meters taken before after =>
    rw [tally.kept meters, before, after, tally.reserving.1, tally.reserving.2, taken]
    simp
  | frees meters taken before after =>
    rw [tally.kept meters, before, after, tally.freeing.1, tally.freeing.2, ← taken]
    simp [sub_sub, add_comm]
  | keeps meters taken before after =>
    have none {d : Duty} (plain : ∀ id, d ≠ .release id) : x.thread.duties.count d = 0 := by
      rw [List.count_eq_zero]
      intro hd
      obtain ⟨id, rfl⟩ := after d hd
      exact plain id rfl
    rw [tally.kept meters, before, taken, none upPlain.1, none downPlain.1]
    rfl

theorem Duty.perform_size (d : Duty) (p : Pool) : (d.perform p).1.busy.size = p.busy.size := by
  cases d with
  | release id => exact congrArg (fun m => m.2.1.size) (p.releaseOrKeep_meters id)
  | _ => rfl

theorem Deed.size (h : Deed p turn t x) :
    x.pool.slots.length = p.slots.length ∧ x.pool.busy.size = p.busy.size := by
  constructor
  · rcases h.slots_cases with same | ⟨i, w, slot, worker, pool, -, -⟩
    · rw [same]
    · rw [pool, Pool.slots_setSlot worker, List.length_set]
  · cases h.meterChange with
    | counts d ds before pool after => rw [pool, d.perform_size]
    | reserves meters | frees meters | keeps meters =>
      exact congrArg (fun m => m.2.1.size) meters

/-- What a thread has to count is a slot that it reserved and did not feed, or one that it worked
for. -/
def Thread.CountsOwn (t : Thread) : Prop :=
  t.duties.count .moreBusy ≤ t.role.isFeeding.toNat ∧
    t.duties.count .lessBusy ≤ t.role.isCrew.toNat

theorem Deed.countsOwn (h : Deed p turn t x) (own : t.CountsOwn) : x.thread.CountsOwn := by
  cases h with
  | counts d ds role other =>
    have fewer {d' : Duty} (plain : ∀ l s, d' ≠ .tell l s) :
        ((d.perform p).2.1 ++ ds).count d' ≤ (d :: ds).count d' := by
      rw [d.perform_decides, List.count_append, p.count_duties _ plain, Nat.zero_add]
      exact List.count_le_count_cons
    exact ⟨(fewer (by simp)).trans own.1, (fewer (by simp)).trans own.2⟩
  | releases id ds role =>
    exact ⟨List.count_le_count_cons.trans own.1, List.count_le_count_cons.trans own.2⟩
  | reserves s t i w worker idle => exact ⟨Nat.le_refl _, Nat.le_refl _⟩
  | frees i w last worker running => exact ⟨Nat.zero_le _, Nat.le_refl _⟩
  | _ => exact ⟨Nat.zero_le _, Nat.zero_le _⟩

/-- A thread that begins to feed reserved the slot. -/
theorem Deed.reserved (h : Deed p turn t x) :
    x.thread.role.isFeeding.toNat + p.reserved ≤ t.role.isFeeding.toNat + x.pool.reserved := by
  have same {q : Pool} (slots : q.slots = p.slots) {after before : Bool}
      (fewer : after.toNat ≤ before.toNat) :
      after.toNat + p.reserved ≤ before.toNat + q.reserved := by
    rw [Pool.reserved, Pool.reserved, slots]
    exact Nat.add_le_add_right fewer _
  have changed {i : Nat} {w : Worker Job} (worker : p.workers[i]? = some w)
      {slot : Slot (Submission Job)} {after before : Bool}
      (fewer : after.toNat + (decide (w.slot.status = .reserved)).toNat ≤
        before.toNat + (decide (slot.status = .reserved)).toNat) :
      after.toNat + p.reserved ≤ before.toNat + (p.setSlot i slot).reserved := by
    have count := Pool.countP_setSlot (fun slot => slot.status = .reserved) worker slot
    simp only [Pool.reserved]
    omega
  cases h with
  | counts d ds role other => exact same (Pool.slots_congr (d.perform_workers p)) (Nat.le_refl _)
  | releases id ds role =>
    exact same (Pool.slots_congr (p.releaseOrKeep_workers id)) (Nat.le_refl _)
  | givesUp s i sub none =>
    exact same (Pool.slots_congr (p.releaseOrKeep_workers _)) (Nat.zero_le _)
  | reserves s t i w worker idle =>
    exact changed worker (by simp [idle, Role.isFeeding, Submitter.isFeeding])
  | feeds s t i w worker reserved =>
    exact changed worker (by simp [reserved, Role.isFeeding, Submitter.isFeeding])
  | takes i w s at_ last worker => exact changed worker (Nat.le_refl _)
  | frees i w last worker running => exact changed worker (by simp [running, Role.isFeeding])
  | starts g g' q started workers locks meters =>
    exact same (Pool.slots_congr workers) (Nat.zero_le _)
  | stops g g' q slots locks meters => exact same slots (Nat.zero_le _)
  | _ => exact same rfl (Nat.zero_le _)

theorem Deed.started_fresh (h : Deed p turn t x) :
    ∀ y ∈ x.started, y.duties = [] ∧ y.role.isFeeding = false := by
  cases h with
  | starts g g' q started workers locks meters fresh =>
    intro y hy
    obtain ⟨i, rfl⟩ := fresh y hy
    exact ⟨rfl, rfl⟩
  | _ => exact fun y hy => absurd hy List.not_mem_nil

end

namespace Scene

variable {s : Scene} {k : Nat} {t : Thread}

theorem owed_set (hk : s.threads[k]? = some t) (q : Pool) (u : Thread) {started : List Thread}
    (fresh : ∀ y ∈ started, y.duties = []) (d : Duty) :
    (⟨q, s.threads.set k u ++ started⟩ : Scene).owed d + t.duties.count d =
      s.owed d + u.duties.count d := by
  have none : (started.map fun y => y.duties.count d).sum = 0 := by
    have few : (started.map fun y => y.duties.count d).sum ≤ started.countP fun _ => false :=
      sum_map_le_countP fun y hy => by simp [fresh y hy]
    simpa using few
  simp only [owed, List.map_append, List.sum_append, none, Nat.add_zero]
  exact sum_map_set_getElem? (fun y : Thread => y.duties.count d) hk u

/-- A step keeps the difference between a tally and the slots, if what the threads owe is taken into
account. -/
theorem tally_step {val : Pool → ℤ} {up down : Duty} (tally : Tally val up down)
    (hk : s.threads[k]? = some t) {turn : Turn} {x : Progressed} (d : Deed s.pool turn t x) :
    val x.pool + (⟨x.pool, s.threads.set k x.thread ++ x.started⟩ : Scene).owed up -
        (⟨x.pool, s.threads.set k x.thread ++ x.started⟩ : Scene).owed down - x.pool.taken ≡
      val s.pool + s.owed up - s.owed down - s.pool.taken [ZMOD 2 ^ 64] := by
  have owed := owed_set hk x.pool x.thread fun y hy => (d.started_fresh y hy).1
  have more := owed up
  have less := owed down
  have change := d.meterChange.tally tally
  rw [Int.ModEq] at change ⊢
  omega

/-- What is known of the meters of a scene with so many workers. -/
structure Metered (s : Scene) (workers : Nat) : Prop where
  slots : s.pool.slots.length = workers
  size : s.pool.busy.size = .ofNat workers
  busy : (s.pool.busy.busy.toNat : ℤ) + s.owed .moreBusy - s.owed .lessBusy - s.pool.taken ≡ 0
    [ZMOD 2 ^ 64]
  idle : -(s.pool.idle.idle.toNat : ℤ) + s.owed .lessIdle - s.owed .moreIdle - s.pool.taken ≡
    -workers [ZMOD 2 ^ 64]
  own : ∀ t ∈ s.threads, t.CountsOwn
  feeding : s.threads.countP (fun t => t.role.isFeeding) ≤ s.pool.reserved

theorem metered_start (workers : Nat) (listeners : List String) :
    (Course.start workers listeners).scene.Metered workers := by
  have taken : (Course.start workers listeners).scene.pool.taken = 0 := by
    rw [Pool.taken, Course.slots_start, List.countP_replicate]
    rfl
  refine ⟨by simp [Course.slots_start], rfl, ?_, ?_, by simp [Course.start],
    by simp [Course.start]⟩
  · rw [taken]
    rfl
  · rw [taken, Int.ModEq]
    simp only [Course.start, owed, Pool.ofSize, IdleMeter.ofSize, UInt64.toNat_ofNat',
      List.map_nil, List.sum_nil]
    omega

theorem Metered.enter {workers : Nat} (h : s.Metered workers) (e : Entrance) :
    (⟨s.pool, s.threads ++ [⟨[], e.role⟩]⟩ : Scene).Metered workers := by
  have owed (d : Duty) : (⟨s.pool, s.threads ++ [⟨[], e.role⟩]⟩ : Scene).owed d = s.owed d := by
    simp [Scene.owed]
  refine ⟨h.slots, h.size, ?_, ?_, ?_, ?_⟩
  · rw [owed, owed]
    exact h.busy
  · rw [owed, owed]
    exact h.idle
  · intro t ht
    rcases List.mem_append.mp ht with ht | ht
    · exact h.own t ht
    · rw [List.mem_singleton.mp ht]
      exact ⟨Nat.zero_le _, Nat.zero_le _⟩
  · have idle : e.role.isFeeding = false := by cases e <;> rfl
    simpa [idle] using h.feeding

theorem Metered.step {workers : Nat} (h : s.Metered workers) (hk : s.threads[k]? = some t)
    {turn : Turn} {x : Progressed} (d : Deed s.pool turn t x) :
    (⟨x.pool, s.threads.set k x.thread ++ x.started⟩ : Scene).Metered workers := by
  have size := d.size
  refine ⟨size.1.trans h.slots, size.2.trans h.size, ?_, ?_, ?_, ?_⟩
  · exact (tally_step tally_busy hk d).trans h.busy
  · exact (tally_step tally_idle hk d).trans h.idle
  · intro u hu
    rcases List.mem_append.mp hu with hu | hu
    · rcases List.mem_or_eq_of_mem_set hu with hu | rfl
      · exact h.own u hu
      · exact d.countsOwn (h.own t (List.mem_of_getElem? hk))
    · rw [Thread.CountsOwn, (d.started_fresh u hu).1]
      exact ⟨Nat.zero_le _, Nat.zero_le _⟩
  · have put := countP_set_getElem? (fun t : Thread => t.role.isFeeding) hk x.thread
    have none : x.started.countP (fun t => t.role.isFeeding) = 0 := by
      rw [List.countP_eq_zero]
      intro y hy
      simp [(d.started_fresh y hy).2]
    have reserved := d.reserved
    have before := h.feeding
    simp only [List.countP_append, none]
    omega

theorem Metered.reservations {workers : Nat} (h : s.Metered workers) :
    s.owed .moreBusy ≤ s.pool.taken := by
  have feeding : s.owed .moreBusy ≤ s.threads.countP fun t => t.role.isFeeding :=
    sum_map_le_countP fun t ht => (h.own t ht).1
  have taken : s.pool.reserved ≤ s.pool.taken :=
    List.countP_mono_left fun slot _ reserved => by
      simp only [decide_eq_true_eq] at reserved ⊢
      simp [reserved]
  exact feeding.trans (h.feeding.trans taken)

theorem Metered.completions {workers : Nat} (h : s.Metered workers) :
    s.owed .lessBusy ≤ s.crew :=
  sum_map_le_countP fun t ht => (h.own t ht).2

theorem Metered.taken_le {workers : Nat} (h : s.Metered workers) : s.pool.taken ≤ workers :=
  List.countP_le_length.trans h.slots.le

/-- The busy meter is exact as long as words can number the slots and the threads. -/
theorem Metered.busy_eq {workers : Nat} (h : s.Metered workers)
    (room : workers + s.crew < 2 ^ 64) :
    s.pool.busy.busy.toNat + s.owed .moreBusy = s.pool.taken + s.owed .lessBusy := by
  have reservations := h.reservations
  have completions := h.completions
  have taken := h.taken_le
  have word := s.pool.busy.busy.toNat_lt
  have busy := h.busy
  -- neither side reaches the end of the words, so that they are equal
  rw [Int.ModEq] at busy
  omega

theorem Metered.size_toNat {workers : Nat} (h : s.Metered workers)
    (room : workers + s.crew < 2 ^ 64) : s.pool.busy.size.toNat = workers := by
  rw [h.size, UInt64.toNat_ofNat']
  exact Nat.mod_eq_of_lt (by omega)

theorem Metered.idle_eq {workers : Nat} (h : s.Metered workers) :
    (s.pool.idle.idle.toNat : ℤ) ≡
      workers - (s.pool.taken + s.owed .moreIdle - s.owed .lessIdle) [ZMOD 2 ^ 64] := by
  have idle := h.idle
  rw [Int.ModEq] at idle ⊢
  omega

end Scene

namespace BusyMeter

variable {m : BusyMeter}

theorem status_eq (m : BusyMeter) :
    m.status = if m.size.toNat ≤ m.busy.toNat then .full else .accepting := by
  simp only [status, UInt64.le_iff_toNat_le]

/-- A status that is made known is a new one, and otherwise the status stays. -/
theorem more_status (room : m.busy.toNat + 1 < 2 ^ 64) :
    m.more.1.status = m.more.2.getD m.status ∧ ∀ status ∈ m.more.2, m.status ≠ status := by
  have count : (m.busy + 1).toNat = m.busy.toNat + 1 := by
    rw [UInt64.toNat_add, UInt64.toNat_one, Nat.mod_eq_of_lt room]
  have decided : m.more.2 = if m.busy.toNat + 1 = m.size.toNat then some .full else none := by
    simp only [more, ← UInt64.toNat_inj, count]
  rw [decided, status_eq, status_eq]
  simp only [more, count]
  split_ifs <;> simp <;> omega

theorem less_status (some : 0 < m.busy.toNat) :
    m.less.1.status = m.less.2.getD m.status ∧ ∀ status ∈ m.less.2, m.status ≠ status := by
  have word := m.busy.toNat_lt
  have count : (m.busy - 1).toNat = m.busy.toNat - 1 := by
    rw [UInt64.toNat_sub, UInt64.toNat_one]
    omega
  have decided :
      m.less.2 = if m.busy.toNat = m.size.toNat then Option.some .accepting else none := by
    simp only [less, ← UInt64.toNat_inj]
  rw [decided, status_eq, status_eq]
  simp only [less, count]
  split_ifs <;> simp <;> omega

end BusyMeter

theorem Pool.hasIdleWorker_eq_false_iff (p : Pool) :
    p.hasIdleWorker = false ↔ ∀ slot ∈ p.slots, slot.status ≠ .idle := by
  simp [hasIdleWorker, slots, Worker.isIdle, Slot.isIdle]

theorem Pool.taken_eq_length_iff (p : Pool) :
    p.taken = p.slots.length ↔ ∀ slot ∈ p.slots, slot.status ≠ .idle := by
  simp [taken, List.countP_eq_length]

theorem Duty.decides_status {d : Duty} {p : Pool}
    (more : d = .moreBusy → p.busy.busy.toNat + 1 < 2 ^ 64)
    (less : d = .lessBusy → 0 < p.busy.busy.toNat) :
    (d.perform p).1.status = (d.decides p).getD p.status ∧
      ∀ status ∈ d.decides p, p.status ≠ status := by
  cases d with
  | moreBusy => exact BusyMeter.more_status (more rfl)
  | lessBusy => exact BusyMeter.less_status (less rfl)
  | release id =>
    refine ⟨?_, by simp [decides]⟩
    exact congrArg (fun m => m.2.1.status) (p.releaseOrKeep_meters id)
  | _ => exact ⟨rfl, by simp [decides]⟩

namespace Course

variable {c : Course} {workers : Nat} {listeners : List String}

/-- A thread that owes something does it, whenever it has its turn. -/
theorem react_owing {k : Nat} {d : Duty} {ds : List Duty} {role : Role}
    (hk : c.scene.threads[k]? = some ⟨d :: ds, role⟩) (turn : Turn) :
    c.react (.moves k turn) = ⟨⟨(d.perform c.scene.pool).1,
      c.scene.threads.set k ⟨c.scene.pool.duties (d.decides c.scene.pool) ++ ds, role⟩⟩,
      c.log ++ (d.perform c.scene.pool).2.2.map fun e => (k, e)⟩ := by
  simp [react, Scene.step, hk, Scene.advance, d.perform_decides]

theorem owed_pos {s : Scene} {k : Nat} {d : Duty} {ds : List Duty} {role : Role}
    (hk : s.threads[k]? = some ⟨d :: ds, role⟩) : 0 < s.owed d := by
  have nobody : ∀ y ∈ ([] : List Thread), y.duties = [] := by simp
  have put := Scene.owed_set hk s.pool ⟨ds, role⟩ nobody d
  simp only [List.count_cons_self] at put
  omega

theorem metered_react (h : c.scene.Metered workers) (e : SceneEvent) :
    (c.react e).scene.Metered workers := by
  cases e with
  | enters e => exact h.enter e
  | moves k turn =>
    rcases c.react_moves k turn with same | ⟨t, x, hk, d, after⟩
    · rwa [same]
    · rw [after]
      exact h.step hk d

theorem metered_run (workers : Nat) (listeners : List String) (es : List SceneEvent) :
    (run workers listeners es).scene.Metered workers :=
  run_induction (P := fun c => c.scene.Metered workers)
    (Scene.metered_start workers listeners) (fun _ e h => metered_react h e) es

/-- Threads that worked for the pool are not forgotten. -/
theorem crew_react (c : Course) (e : SceneEvent) : c.scene.crew ≤ (c.react e).scene.crew := by
  cases e with
  | enters e =>
    rw [react, Scene.crew, Scene.crew, List.countP_append]
    exact Nat.le_add_right _ _
  | moves k turn =>
    rcases c.react_moves k turn with same | ⟨t, x, hk, d, after⟩
    · rw [same]
    · have put := countP_set_getElem? (fun t : Thread => t.role.isCrew) hk x.thread
      have crew : x.thread.role.isCrew = t.role.isCrew := by
        rw [Role.isCrew, Role.isCrew, d.worker?_eq]
      rw [crew] at put
      rw [after, Scene.crew, Scene.crew, List.countP_append]
      omega

/-- An event changes the status as it makes it known. -/
theorem react_status (h : c.scene.Metered workers) (room : workers + c.scene.crew < 2 ^ 64)
    (e : SceneEvent) :
    (c.react e).scene.pool.status = (c.decides e).getD c.scene.pool.status ∧
      ∀ status ∈ c.decides e, c.scene.pool.status ≠ status := by
  cases e with
  | enters e => exact ⟨rfl, by simp [decides]⟩
  | moves k turn =>
    cases hk : c.scene.threads[k]? with
    | none => simp [decides, react, Scene.step, hk]
    | some t =>
      obtain ⟨duties, role⟩ := t
      cases duties with
      | cons d ds =>
        have decided : c.decides (.moves k turn) = d.decides c.scene.pool := by
          simp only [decides, hk]
        rw [react_owing hk, decided]
        have busy := h.busy_eq room
        have owed := owed_pos hk
        refine Duty.decides_status ?_ ?_
        · -- the slot that it counts is taken, and not counted yet
          rintro rfl
          have completions := h.completions
          have taken := h.taken_le
          omega
        · rintro rfl
          have reservations := h.reservations
          omega
      | nil =>
        have decided : c.decides (.moves k turn) = none := by simp only [decides, hk]
        rw [decided]
        refine ⟨?_, by simp⟩
        rcases c.react_moves k turn with same | ⟨t, x, hk', d, after⟩
        · rw [same]
          rfl
        · obtain rfl := Option.some.inj (hk.symm.trans hk')
          rw [after]
          cases d.meterChange with
          | counts d ds before => cases before
          | reserves meters | frees meters | keeps meters =>
            exact congrArg (fun m => m.2.1.status) meters

theorem broadcasts_snoc (workers : Nat) (listeners : List String) (es : List SceneEvent)
    (e : SceneEvent) : broadcasts workers listeners (es ++ [e]) =
      broadcasts workers listeners es ++ ((run workers listeners es).decides e).toList := by
  unfold broadcasts run
  generalize start workers listeners = c
  induction es generalizing c with
  | nil => simp [broadcastsFrom]
  | cons d es ih => simp [broadcastsFrom, ih]

theorem status_start (pos : 0 < workers) (room : workers < 2 ^ 64) :
    (start workers listeners).scene.pool.status = .accepting := by
  have size : (start workers listeners).scene.pool.busy.size.toNat = workers := by
    change (UInt64.ofNat workers).toNat = workers
    rw [UInt64.toNat_ofNat']
    exact Nat.mod_eq_of_lt room
  have idle : (start workers listeners).scene.pool.busy.busy.toNat = 0 := rfl
  rw [Pool.status, BusyMeter.status_eq, size, idle, if_neg (by omega)]

/-- What is made known takes turns, and the pool does not have the status that comes next. -/
theorem broadcasts_takeTurns (pos : 0 < workers) (es : List SceneEvent)
    (room : workers + (run workers listeners es).scene.crew < 2 ^ 64) :
    PoolStatus.TakeTurns (broadcasts workers listeners es) ∧
      (run workers listeners es).scene.pool.status ≠
        .inTurn (broadcasts workers listeners es).length := by
  induction es using List.reverseRecOn with
  | nil =>
    refine ⟨fun i h => absurd h (Nat.not_lt_zero i), ?_⟩
    change (start workers listeners).scene.pool.status ≠ _
    rw [status_start pos (Nat.lt_of_add_right_lt room)]
    exact PoolStatus.inTurn_ne_succ 1
  | append_singleton es e ih =>
    rw [run_snoc] at room ⊢
    rw [broadcasts_snoc]
    have before := (Nat.add_le_add_left (crew_react _ e) workers).trans_lt room
    obtain ⟨turns, other⟩ := ih before
    obtain ⟨after, new⟩ := react_status (metered_run workers listeners es) before e
    rw [after]
    cases decided : (run workers listeners es).decides e with
    | none =>
      rw [Option.toList_none, List.append_nil]
      exact ⟨turns, other⟩
    | some status =>
      -- both differ from the status before, and there are only two
      obtain rfl := PoolStatus.eq_of_ne_of_ne (new status decided) other
      exact ⟨turns.snoc, by simpa using PoolStatus.inTurn_ne_succ _⟩

/-- What is promised of the meters of a pool with so many workers. -/
structure Accurate (workers : Nat) (c : Course) : Prop where
  busy : (c.scene.pool.busy.busy.toNat : ℤ) =
    c.scene.pool.taken + c.scene.owed .lessBusy - c.scene.owed .moreBusy
  idle : (c.scene.pool.idle.idle.toNat : ℤ) ≡
    workers - (c.scene.pool.taken + c.scene.owed .moreIdle - c.scene.owed .lessIdle)
      [ZMOD 2 ^ 64]
  /-- when everything is counted the status tells of the slots -/
  full : c.scene.owed .moreBusy = 0 → c.scene.owed .lessBusy = 0 →
    (c.scene.pool.status = .full ↔ ∀ w ∈ c.scene.pool.workers, w.isIdle = false) ∧
      (c.scene.pool.status = .full ↔ c.scene.pool.hasIdleWorker = false)

/-- The meters are accurate, whatever the threads do, and full and accepting take turns, if words
can number the workers and the threads that work for them. -/
theorem accurate_run (pos : 0 < workers) (es : List SceneEvent)
    (room : workers + (run workers listeners es).scene.crew < 2 ^ 64) :
    (run workers listeners es).Accurate workers ∧
      PoolStatus.TakeTurns (broadcasts workers listeners es) := by
  have h := metered_run workers listeners es
  have busy := h.busy_eq room
  refine ⟨⟨by omega, h.idle_eq, ?_⟩, (broadcasts_takeTurns pos es room).1⟩
  intro reservations completions
  generalize run workers listeners es = c at *
  have idle :
      c.scene.pool.hasIdleWorker = false ↔ ∀ w ∈ c.scene.pool.workers, w.isIdle = false := by
    simp [Pool.hasIdleWorker]
  have full : c.scene.pool.status = .full ↔ c.scene.pool.hasIdleWorker = false := by
    have taken := h.taken_le
    rw [Pool.hasIdleWorker_eq_false_iff, ← Pool.taken_eq_length_iff, h.slots, Pool.status,
      BusyMeter.status_eq, h.size_toNat room]
    split_ifs <;> simp <;> omega
  exact ⟨full.trans idle, full⟩

/-- The only worker of a pool gives its slot back, which is reserved anew and counted before the
worker counts anything. -/
def overlapping : List SceneEvent :=
  [.enters .starts, .moves 0 .go, .moves 0 .go, .moves 0 .go, .moves 0 .go, .moves 0 .go,
    .enters (.gives ⟨⟨"J1", 1, .blank⟩, "first"⟩), .moves 2 .go, .moves 2 .go, .moves 2 .go,
    .moves 2 .go, .moves 2 .go, .moves 2 .go, .moves 2 .go,
    .moves 1 .go, .moves 1 .go, .moves 1 (.processed .panicked), .moves 1 .go, .moves 1 .go,
    .enters (.gives ⟨⟨"J2", 1, .blank⟩, "second"⟩), .moves 3 .go, .moves 3 .go, .moves 3 .go,
    .moves 3 .go, .moves 3 .go]

theorem accurate_overlapping :
    1 + (run 1 ["desk"] overlapping).scene.crew < 2 ^ 64 ∧
      (run 1 ["desk"] overlapping).scene.pool.idle.idle.toNat = 2 ^ 64 - 1 ∧
      (run 1 ["desk"] overlapping).scene.pool.busy.busy.toNat = 2 ∧
      (run 1 ["desk"] overlapping).Accurate 1 ∧
      PoolStatus.TakeTurns (broadcasts 1 ["desk"] overlapping) := by
  have room : 1 + (run 1 ["desk"] overlapping).scene.crew < 2 ^ 64 := by decide +kernel
  exact ⟨room, by decide +kernel, by decide +kernel, accurate_run (by decide) overlapping room⟩

end Course

end JobDispatch

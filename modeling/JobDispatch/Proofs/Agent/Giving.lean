import JobDispatch.Proofs.Agent.Lockset
import JobDispatch.Proofs.Agent.Metering

/-!
Calls that give a job to a pool. A call returns after a number of steps of its own, whatever the
others do; and it is accepted if the pool runs, the job is not locked and a worker is idle, as
long as nobody else gives a job meanwhile.
-/

namespace JobDispatch

/-- Whether a worker at the index or behind it is idle. -/
def Pool.IdleFrom (p : Pool) (i : Nat) : Prop :=
  ∃ j, i ≤ j ∧ j < p.slots.length ∧ (p.slotAt j).status = .idle

/-- What a call that gives a job needs, as far as it has come, to be accepted in the end. -/
def Giving.Welcome (p : Pool) (s : Submission Job) : Giving → Prop
  | entering | locking => s.item.id ∉ p.locks.ids ∧ p.IdleFrom 0
  | offering i (.reserving _) => p.IdleFrom i
  | offering i (.feeding _) => (p.slotAt i).status = .reserved
  | offering _ _ => False
  | returned r => r = .ok ()

/-- The most steps that a duty takes, with all that come of it. -/
def Duty.weight (listeners : Nat) : Duty → Nat
  | moreBusy | lessBusy => listeners + 1
  | _ => 1

/-- The most steps that a call is away from its end, but for its duties. -/
def Giving.weight (size listeners : Nat) : Giving → Nat
  | entering => size * (listeners + 4) + 3
  | locking => size * (listeners + 4) + 2
  | offering i (.feeding _) => (size - (i + 1)) * (listeners + 4) + 2
  | offering i _ => (size - i) * (listeners + 4) + 1
  | returned _ => 0

/-- The most steps that a thread is away from the end of its call. -/
def Thread.left (p : Pool) (t : Thread) : Nat :=
  (t.duties.map (Duty.weight p.listeners.length)).sum +
    match t.role with
    | .give _ g => g.weight p.slots.length p.listeners.length
    | _ => 0

section

variable {p : Pool} {turn : Turn} {t : Thread} {x : Progressed}

/-- A slot that does not run keeps its status, unless a thread does something that gives a job. -/
theorem Deed.status_eq (h : Deed p turn t x) (other : t.role.gives = false) (i : Nat)
    (still : (p.slotAt i).status ≠ .running) : (x.pool.slotAt i).status = (p.slotAt i).status := by
  rcases h.slotAt_cases i with same | ⟨change, -⟩
  · rw [same]
  · generalize x.thread = after at change
    generalize x.pool.slotAt i = slot at change ⊢
    cases change with
    | reserves s t idle => cases other
    | feeds s t reserved => cases other
    | takes s last fed => rfl
    | frees last running => exact absurd running still

theorem Pool.releaseOrKeep_locks_subset (p : Pool) (id : String) :
    (p.releaseOrKeep id).1.locks.ids ⊆ p.locks.ids := by
  by_cases held : id ∈ p.locks.ids
  · rw [p.releaseOrKeep_of_mem held]
    exact List.erase_subset
  · rw [p.releaseOrKeep_of_not_mem held]
    exact List.Subset.refl _

/-- Only threads that give a job take locks. -/
theorem Deed.locks_subset (h : Deed p turn t x) (other : t.role.gives = false) :
    x.pool.locks.ids ⊆ p.locks.ids := by
  cases h with
  | counts d ds role noRelease =>
    rw [(d.perform_counts noRelease p).2.1]
    exact List.Subset.refl _
  | releases id ds role => exact p.releaseOrKeep_locks_subset id
  | locks s locks lock => cases other
  | givesUp s i sub none => cases other
  | starts g g' q started workers locks =>
    rw [locks]
    exact List.Subset.refl _
  | stops g g' q slots locks =>
    rw [locks]
    exact List.Subset.refl _
  | _ => exact List.Subset.refl _

theorem Pool.IdleFrom.congr {q : Pool} {i : Nat} (h : p.IdleFrom i)
    (length : q.slots.length = p.slots.length)
    (same : ∀ j, (p.slotAt j).status = .idle → (q.slotAt j).status = .idle) : q.IdleFrom i := by
  obtain ⟨j, from_, inside, idle⟩ := h
  exact ⟨j, from_, length ▸ inside, same j idle⟩

theorem Giving.Welcome.congr {q : Pool} {s : Submission Job} {g : Giving} (h : g.Welcome p s)
    (length : q.slots.length = p.slots.length)
    (same : ∀ i, (p.slotAt i).status ≠ .running → (q.slotAt i).status = (p.slotAt i).status)
    (locks : q.locks.ids ⊆ p.locks.ids) : g.Welcome q s := by
  have idle (i : Nat) (here : (p.slotAt i).status = .idle) : (q.slotAt i).status = .idle := by
    rw [same i (by simp [here]), here]
  cases g with
  | entering => exact ⟨fun held => h.1 (locks held), h.2.congr length idle⟩
  | locking => exact ⟨fun held => h.1 (locks held), h.2.congr length idle⟩
  | returned r => exact h
  | offering i sub =>
    cases sub with
    | reserving t => exact Pool.IdleFrom.congr h length idle
    | feeding t =>
      have reserved : (p.slotAt i).status = .reserved := h
      exact (same i (by simp [reserved])).trans reserved
    | accepted => exact h
    | refused a => exact h

/-- What others do leaves a call as welcome as it was. -/
theorem Deed.welcome_other (h : Deed p turn t x) (other : t.role.gives = false)
    {s : Submission Job} {g : Giving} (welcome : g.Welcome p s) : g.Welcome x.pool s :=
  welcome.congr h.size.1 (h.status_eq other) (h.locks_subset other)

theorem Pool.slotAt_of_length_le {i : Nat} (h : p.slots.length ≤ i) : p.slotAt i = .empty := by
  simp [slotAt, h]

theorem Pool.length_le_of_none {i : Nat} (h : p.workers[i]? = none) : p.slots.length ≤ i := by
  simpa [slots] using h

/-- A call that is welcome stays so with each of its steps, if the pool runs. -/
theorem Deed.welcome {ds : List Duty} {s : Submission Job} {g : Giving}
    (h : Deed p turn ⟨ds, .give s g⟩ x) (running : p.running = true) (welcome : g.Welcome p s) :
    ∃ ds g', x.thread = ⟨ds, .give s g'⟩ ∧ g'.Welcome x.pool s := by
  cases h with
  | counts d ds role other =>
    obtain ⟨workers, locks, -⟩ := d.perform_counts other p
    have slots := Pool.slots_congr workers
    refine ⟨_, g, rfl, welcome.congr (congrArg _ slots) ?_ ?_⟩
    · intro i _
      rw [Pool.slotAt_congr slots]
    · rw [locks]
      exact List.Subset.refl _
  | releases id ds role =>
    have slots := Pool.slots_congr (p.releaseOrKeep_workers id)
    refine ⟨_, g, rfl, welcome.congr (congrArg _ slots) ?_ (p.releaseOrKeep_locks_subset id)⟩
    intro i _
    rw [Pool.slotAt_congr slots]
  | enters s running => exact ⟨_, _, rfl, welcome⟩
  | turnedAway s off =>
    rw [running] at off
    cases off
  | locks s locks lock => exact ⟨_, _, rfl, welcome.2⟩
  | lockedOut s e lock =>
    have free : p.locks.isLocked s.item.id = false := by simpa [Locks.isLocked] using welcome.1
    rw [Locks.lock, if_neg (by simp [free])] at lock
    cases lock
  | reserves s t i w worker idle =>
    refine ⟨_, _, rfl, ?_⟩
    change (Pool.slotAt _ i).status = .reserved
    rw [Pool.slotAt_setSlot worker, if_pos rfl]
  | feeds s t i w worker reserved => exact ⟨_, _, rfl, rfl⟩
  | refused s t i sub w worker why =>
    rcases why with ⟨rfl, taken⟩ | ⟨rfl, other⟩
    · obtain ⟨j, from_, inside, idle⟩ := welcome
      have further : j ≠ i := by
        rintro rfl
        rw [Pool.slotAt_eq worker] at idle
        exact taken idle
      exact ⟨_, _, rfl, j, by omega, inside, idle⟩
    · have reserved : (p.slotAt i).status = .reserved := welcome
      rw [Pool.slotAt_eq worker] at reserved
      exact absurd reserved other
  | givesUp s i sub none =>
    have outside := Pool.length_le_of_none none
    cases sub with
    | reserving t =>
      obtain ⟨j, from_, inside, -⟩ := welcome
      omega
    | feeding t =>
      have reserved : (p.slotAt i).status = .reserved := welcome
      rw [Pool.slotAt_of_length_le outside] at reserved
      cases reserved
    | accepted => exact welcome.elim
    | refused a => exact welcome.elim

theorem Deed.give_eq {ds : List Duty} {s : Submission Job} {g : Giving}
    (h : Deed p turn ⟨ds, .give s g⟩ x) : ∃ ds g', x.thread = ⟨ds, .give s g'⟩ := by
  cases h <;> exact ⟨_, _, rfl⟩

/-- A call that has not returned can make its next step. -/
theorem Scene.advance_isSome {s : Scene} {ds : List Duty} {sub : Submission Job} {g : Giving}
    (sound : Thread.Sound ⟨ds, .give sub g⟩) (on : ∀ r, ds = [] → g ≠ .returned r) :
    ∃ x, s.advance .go ⟨ds, .give sub g⟩ = some x := by
  cases ds with
  | cons d ds => exact ⟨_, rfl⟩
  | nil =>
    cases g with
    | entering => exact ⟨_, rfl⟩
    | locking =>
      simp only [advance, act, Giving.step]
      split <;> exact ⟨_, rfl⟩
    | returned r => exact absurd rfl (on r rfl)
    | offering i sub =>
      simp only [advance, act, Giving.step]
      cases s.pool.workers[i]? with
      | none => exact ⟨_, rfl⟩
      | some w =>
        rcases sound.own _ i sub rfl with rfl | rfl
        · by_cases idle : w.slot.status = .idle
          · exact ⟨_, by simp [Submitter.step, Slot.reserve, idle]; rfl⟩
          · exact ⟨_, by simp [Submitter.step, Slot.reserve, idle]; rfl⟩
        · by_cases reserved : w.slot.status = .reserved
          · exact ⟨_, by simp [Submitter.step, Slot.feed, reserved]; rfl⟩
          · exact ⟨_, by simp [Submitter.step, Slot.feed, reserved]; rfl⟩

theorem Deed.listeners (h : Deed p turn t x) : x.pool.listeners = p.listeners := by
  cases h.meterChange with
  | counts d ds before pool => rw [pool, d.perform_listeners]
  | reserves meters | frees meters | keeps meters => exact congrArg (·.2.2) meters

/-- What comes of a duty takes fewer steps than the duty. -/
theorem Duty.perform_weight (d : Duty) (p : Pool) :
    ((d.perform p).2.1.map (Duty.weight p.listeners.length)).sum < d.weight p.listeners.length := by
  have telling (status : Option PoolStatus) :
      ((p.duties status).map (Duty.weight p.listeners.length)).sum ≤ p.listeners.length := by
    cases status with
    | none => exact Nat.zero_le _
    | some status => simp [Pool.duties, Function.comp_def, weight]
  cases d with
  | moreBusy => exact Nat.lt_succ_of_le (telling _)
  | lessBusy => exact Nat.lt_succ_of_le (telling _)
  | _ => exact Nat.one_pos

theorem Duty.weight_pos (d : Duty) (listeners : Nat) : 0 < d.weight listeners := by
  cases d <;> exact Nat.succ_pos _

/-- Each step brings a call nearer to its end. -/
theorem Deed.left_lt (h : Deed p turn t x) (gives : t.role.gives = true) :
    x.thread.left x.pool < t.left p := by
  unfold Thread.left
  rw [h.listeners, h.size.1]
  have nearer {size n i : Nat} (inside : i < size) :
      (size - (i + 1)) * n + n = (size - i) * n := by
    have one : size - i = size - (i + 1) + 1 := by omega
    rw [one, Nat.succ_mul]
  cases h with
  | counts d ds role other =>
    have fewer := d.perform_weight p
    simp only [List.map_append, List.map_cons, List.sum_append, List.sum_cons]
    omega
  | releases id ds role =>
    have one := (Duty.release id).weight_pos p.listeners.length
    simp only [List.map_cons, List.sum_cons]
    omega
  | enters s running => simp [Giving.weight]
  | turnedAway s off => simp [Giving.weight]
  | locks s locks lock => simp [Giving.weight]
  | lockedOut s e lock => simp [Giving.weight]
  | reserves s t i w worker idle =>
    have inside : i < p.slots.length := by
      simpa [Pool.slots] using (List.getElem?_eq_some_iff.mp worker).1
    have closer := nearer (n := p.listeners.length + 4) inside
    simp only [Duty.afterReserving, Duty.weight, Giving.weight, List.map_cons, List.map_nil,
      List.sum_cons, List.sum_nil]
    omega
  | feeds s t i w worker reserved => simp [Giving.weight]
  | refused s t i sub w worker why =>
    have inside : i < p.slots.length := by
      simpa [Pool.slots] using (List.getElem?_eq_some_iff.mp worker).1
    have closer := nearer (n := p.listeners.length + 4) inside
    rcases why with ⟨rfl, -⟩ | ⟨rfl, -⟩ <;> simp only [Giving.weight] <;> omega
  | givesUp s i sub none => cases sub <;> simp [Giving.weight]
  | looks | rests | takes | leaves | processes | frees | keeps => cases gives
  | starts | stops => cases gives

end

/-- A step that can be made is made. -/
theorem Scene.step_of_advance {s : Scene} {k : Nat} {turn : Turn} {t : Thread} {x : Progressed}
    (hk : s.threads[k]? = some t) (h : s.advance turn t = some x) :
    s.step k turn = some (⟨x.pool, s.threads.set k x.thread ++ x.started⟩, x.events) := by
  simp [step, hk, h]

/-- A call that gives a job returns by itself. -/
theorem Course.give_returns (c : Course) {k : Nat} {ds : List Duty} {s : Submission Job}
    {g : Giving} (hk : c.scene.threads[k]? = some ⟨ds, .give s g⟩)
    (sound : Thread.Sound ⟨ds, .give s g⟩) :
    ∃ n r, ((fun c => c.react (.moves k .go))^[n] c).scene.threads[k]? =
      some ⟨[], .give s (.returned r)⟩ := by
  generalize hn : Thread.left c.scene.pool ⟨ds, .give s g⟩ = n
  induction n using Nat.strongRecOn generalizing c ds g with
  | _ n ih =>
    by_cases done : ds = [] ∧ ∃ r, g = .returned r
    · obtain ⟨rfl, r, rfl⟩ := done
      exact ⟨0, r, hk⟩
    · have on (r : Except PoolError Unit) (none : ds = []) : g ≠ .returned r := by
        rintro rfl
        exact done ⟨none, r, rfl⟩
      obtain ⟨x, advance⟩ := Scene.advance_isSome sound on
      have deed := Scene.advance_deed advance
      have moved := Scene.step_of_advance hk advance
      have after : (c.react (.moves k .go)).scene =
          ⟨x.pool, c.scene.threads.set k x.thread ++ x.started⟩ := by simp only [react, moved]
      have known := (List.getElem?_eq_some_iff.mp hk).1
      have here : (c.react (.moves k .go)).scene.threads[k]? = some x.thread := by
        rw [after, List.getElem?_append_left (by simpa using known)]
        exact List.getElem?_set_self known
      obtain ⟨ds', g', thread⟩ := deed.give_eq
      rw [thread] at here
      have pool : (c.react (.moves k .go)).scene.pool = x.pool := by rw [after]
      have closer := deed.left_lt rfl
      rw [thread, hn, ← pool] at closer
      have sound' := (deed.sound sound).1
      rw [thread] at sound'
      obtain ⟨m, r, returned⟩ := ih _ closer (c.react (.moves k .go)) here sound' rfl
      exact ⟨m + 1, r, returned⟩

end JobDispatch

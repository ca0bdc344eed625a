import JobDispatch.Proofs.Agent.Lockset
import Mathlib.Data.List.Count

/-!
Who has the locks of a pool while threads enter it and make their steps in any order.
-/

namespace JobDispatch

namespace Course

variable {c : Course}

/-- What is known of a course: no release failed, and a call that gives a job released what it
locked, unless the job stays locked. -/
structure Kept (c : Course) : Prop where
  scene : c.scene.Kept
  known : ∀ k e, (k, e) ∈ c.log → k < c.scene.threads.length
  released : ∀ k e, (k, .releaseFailed e) ∉ c.log
  settled : ∀ k t, c.scene.threads[k]? = some t → t.role.gives = true → ∀ id,
    c.log.count (k, .locked id) = c.log.count (k, .released id) + (t.role.keeps id).toNat

theorem kept_start (workers : Nat) (listeners : List String) : (start workers listeners).Kept where
  scene := Scene.kept_start workers listeners
  known := by simp [start]
  released := by simp [start]
  settled := by simp [start]

theorem Kept.unseen (h : c.Kept) {k : Nat} (hk : c.scene.threads.length ≤ k) (e : PoolEvent) :
    c.log.count (k, e) = 0 := by
  rw [List.count_eq_zero]
  intro he
  have old := h.known k e he
  omega

theorem Kept.enter (h : c.Kept) (e : Entrance) : (c.react (.enters e)).Kept where
  scene := h.scene.enter e
  known k e' he := by
    have old := h.known k e' he
    simp only [react, List.length_append]
    omega
  released := h.released
  settled k t ht gives id := by
    simp only [react, List.getElem?_append] at ht
    split_ifs at ht with hk
    · exact h.settled k t ht gives id
    · have new : t = ⟨[], e.role⟩ := List.mem_singleton.mp (List.mem_of_getElem? ht)
      have nothing : t.role.keeps id = false := by
        rw [new]
        cases e <;> rfl
      have unseen := h.unseen (Nat.le_of_not_lt hk)
      simp only [react, unseen, nothing, Bool.toNat_false]

theorem Kept.step (h : c.Kept) {k : Nat} {turn : Turn} {t : Thread} {x : Progressed}
    (hk : c.scene.threads[k]? = some t) (d : Deed c.scene.pool turn t x) :
    (⟨⟨x.pool, c.scene.threads.set k x.thread ++ x.started⟩,
      c.log ++ x.events.map fun e => (k, e)⟩ : Course).Kept := by
  have ht := List.mem_of_getElem? hk
  have sound := h.scene.sound t ht
  have held (id : String) (hid : id ∈ t.locked) := h.scene.held ht hid
  have count (j : Nat) (e : PoolEvent) : (x.events.map fun e => (k, e)).count (j, e) =
      if j = k then x.events.count e else 0 := by
    by_cases hj : j = k
    · subst hj
      rw [if_pos rfl]
      exact List.count_map_of_injective _ _ (fun _ _ same => (Prod.mk.inj same).2) e
    · rw [if_neg hj, List.count_eq_zero]
      intro he
      obtain ⟨e', -, he⟩ := List.mem_map.mp he
      exact hj (congrArg Prod.fst he).symm
  have size : c.scene.threads.length ≤ (c.scene.threads.set k x.thread ++ x.started).length := by
    rw [List.length_append, List.length_set]
    exact Nat.le_add_right _ _
  refine ⟨h.scene.step hk d, ?_, ?_, ?_⟩
  · intro j e he
    rcases List.mem_append.mp he with he | he
    · exact Nat.lt_of_lt_of_le (h.known j e he) size
    · obtain ⟨e', -, he⟩ := List.mem_map.mp he
      obtain rfl := congrArg Prod.fst he
      exact Nat.lt_of_lt_of_le (List.getElem?_eq_some_iff.mp hk).1 size
  · intro j e he
    rcases List.mem_append.mp he with he | he
    · exact h.released j e he
    · obtain ⟨e', he', he⟩ := List.mem_map.mp he
      obtain rfl := congrArg Prod.snd he
      exact d.releases_held held e he'
  · intro j u hu gives id
    simp only [List.count_append, count]
    simp only [List.getElem?_append, List.length_set] at hu
    split_ifs at hu with hj
    · by_cases same : j = k
      · subst same
        obtain rfl : x.thread = u := by simpa [hj] using hu
        rw [d.gives_eq] at gives
        have before := h.settled j t hk gives id
        have settled := d.settled sound gives held id
        simp only [if_true]
        omega
      · rw [List.getElem?_set_ne (Ne.symm same)] at hu
        have before := h.settled j u hu gives id
        simp only [if_neg same]
        omega
    · have started := (d.started_empty u (List.mem_of_getElem? hu)).2.1
      rw [started] at gives
      cases gives

theorem kept_run (workers : Nat) (listeners : List String) (es : List SceneEvent) :
    (run workers listeners es).Kept := by
  apply run_induction (kept_start workers listeners)
  intro c e h
  cases e with
  | enters e => exact h.enter e
  | moves k turn =>
    rcases c.react_moves k turn with none | ⟨t, x, hk, d, moved⟩
    · rw [none]
      exact h
    · rw [moved]
      exact h.step hk d

/-- What the users of a pool rely on: locked are just the jobs in flight, each once, so that no
two threads process the same job; no release fails; a call that gives a job and returns an error
leaves no lock behind; and when nobody has a job, nothing is locked. -/
structure Custody (c : Course) : Prop where
  exact : c.scene.pool.locks.ids.Perm c.scene.inFlight
  once : c.scene.inFlight.Nodup
  apart : ∀ (j k i i' : Nat) (s s' : Submission Job) (last last' : Bool) (ds ds' : List Duty),
    c.scene.threads[j]? = some ⟨ds, .work i (.holding s last)⟩ →
    c.scene.threads[k]? = some ⟨ds', .work i' (.holding s' last')⟩ → s.item.id = s'.item.id → j = k
  released : ∀ k e, (k, .releaseFailed e) ∉ c.log
  settled : ∀ k ds s e, c.scene.threads[k]? = some ⟨ds, .give s (.returned (.error e))⟩ → ∀ id,
    c.log.count (k, .locked id) = c.log.count (k, .released id)
  free : (∀ w ∈ c.scene.pool.workers, w.isIdle = true) →
    (∀ t ∈ c.scene.threads, ∀ s g, t.role = .give s g → ∃ r, g = .returned r) →
    c.scene.pool.locks.ids = []

theorem Kept.exact (h : c.Kept) : c.scene.pool.locks.ids.Perm c.scene.inFlight :=
  List.perm_iff_count.mpr h.scene.counted

/-- Two threads do not have the same job in their hands. -/
theorem Kept.apart (h : c.Kept) {j k : Nat} {t u : Thread} (hj : c.scene.threads[j]? = some t)
    (hk : c.scene.threads[k]? = some u) {id : String} (ht : id ∈ t.locked) (hu : id ∈ u.locked) :
    j = k := by
  have nodup := (h.exact.nodup_iff.mp h.scene.nodup).of_append_right
  have disjoint := List.pairwise_iff_getElem.mp (List.nodup_flatMap.mp nodup).2
  obtain ⟨hjlt, rfl⟩ := List.getElem?_eq_some_iff.mp hj
  obtain ⟨hklt, rfl⟩ := List.getElem?_eq_some_iff.mp hk
  rcases Nat.lt_trichotomy j k with less | same | more
  · exact absurd hu (disjoint j k hjlt hklt less ht)
  · exact same
  · exact absurd ht (disjoint k j hklt hjlt more hu)

/-- When the slots are idle and all calls have returned, nothing is in flight. -/
theorem Kept.free (h : c.Kept) (idle : ∀ w ∈ c.scene.pool.workers, w.isIdle = true)
    (returned : ∀ t ∈ c.scene.threads, ∀ s g, t.role = .give s g → ∃ r, g = .returned r) :
    c.scene.inFlight = [] := by
  have status (i : Nat) : (c.scene.pool.slotAt i).status ≠ .running := by
    cases hw : c.scene.pool.workers[i]? with
    | none =>
      have empty : c.scene.pool.slotAt i = .empty := by simp [Pool.slotAt, Pool.slots, hw]
      simp [empty, Slot.empty]
    | some w =>
      have idle : w.slot.status = .idle := by
        simpa [Worker.isIdle, Slot.isIdle] using idle w (List.mem_of_getElem? hw)
      simp [Pool.slotAt_eq hw, idle]
  have taken (i : Nat) : c.scene.threads.countP (fun t => t.role.worksAt i) = 0 ∧
      (c.scene.pool.slotAt i).value = none := by
    have taken := h.scene.taken i
    rw [if_neg (status i)] at taken
    have nothing : (c.scene.pool.slotAt i).value.toList.length = 0 := by omega
    exact ⟨by omega, by simpa using List.eq_nil_of_length_eq_zero nothing⟩
  have slots : c.scene.pool.slots.flatMap Slot.locked = [] := by
    rw [List.flatMap_eq_nil_iff]
    intro slot hslot
    obtain ⟨i, hi⟩ := List.mem_iff_getElem?.mp hslot
    have value : slot.value = none := by simpa [Pool.slotAt, hi] using (taken i).2
    simp [Slot.locked, value]
  have threads : c.scene.threads.flatMap Thread.locked = [] := by
    rw [List.flatMap_eq_nil_iff]
    intro t ht
    have away (i : Nat) : t.role.worksAt i = false := by
      simpa using List.countP_eq_zero.mp (taken i).1 t ht
    have duties : t.duties.flatMap Duty.locked = [] := by
      apply Duty.flatMap_locked
      intro id hid
      obtain ⟨i, last, role⟩ := (h.scene.sound t ht).owes id hid
      have here := away i
      simp [role, Role.worksAt] at here
    have hands : t.role.locked = [] := by
      cases role : t.role with
      | give s g =>
        obtain ⟨r, rfl⟩ := returned t ht s g role
        rfl
      | work i w =>
        have here := away i
        rw [role] at here
        cases w <;> first | rfl | simp [Role.worksAt] at here
      | _ => rfl
    rw [Thread.locked, duties, hands, List.append_nil]
  rw [Scene.inFlight, slots, threads, List.append_nil]

/-- Whatever the threads around a pool do, its locks are in good custody. -/
theorem custody_run (workers : Nat) (listeners : List String) (es : List SceneEvent) :
    (run workers listeners es).Custody := by
  have kept := kept_run workers listeners es
  refine ⟨kept.exact, kept.exact.nodup_iff.mp kept.scene.nodup, ?_, kept.released, ?_, ?_⟩
  · intro j k i i' s s' last last' ds ds' hj hk same
    have mine : s.item.id ∈ Thread.locked ⟨ds, .work i (.holding s last)⟩ := by
      simp [Thread.locked, Role.locked]
    have other : s.item.id ∈ Thread.locked ⟨ds', .work i' (.holding s' last')⟩ := by
      simp [Thread.locked, Role.locked, same]
    exact kept.apart hj hk mine other
  · intro k ds s e hk id
    exact kept.settled k _ hk rfl id
  · intro idle returned
    have exact := kept.exact
    rw [kept.free idle returned] at exact
    exact exact.eq_nil

end Course

end JobDispatch

import JobDispatch.Proofs.Agent.Custody
import Mathlib.Data.List.Induction

/-!
Jobs that a pool accepted and that nobody will process. A worker looks into its slot for a last
time when it was told to stop; what is fed to it afterwards stays where it is.
-/

namespace JobDispatch

/-- Whether a thread had its last look into the slot of its worker and is done. -/
def Role.isThrough : Role → Bool
  | work _ .ended => true
  | _ => false

/-- Whether a thread works on in the pool, or is about to start threads that do. -/
def Thread.worksOn (t : Thread) : Bool :=
  match t.role with
  | .work _ _ => !t.hasEnded
  | .start (.returned _) => false
  | .start _ => true
  | _ => false

section

variable {p : Pool} {turn : Turn} {t : Thread} {x : Progressed} {i : Nat}

theorem Deed.isThrough (h : Deed p turn t x) (through : t.role.isThrough = true) :
    x.thread.role.isThrough = true := by
  cases h with
  | counts d ds role other => exact through
  | releases id ds role => exact through
  | takes i w s at_ last worker fed when_ =>
    subst when_
    cases last <;> cases through
  | _ => cases through

/-- The threads that start are not through. -/
theorem Deed.started_through (h : Deed p turn t x) :
    ∀ y ∈ x.started, y.role.isThrough = false := by
  cases h with
  | starts g g' q started workers locks meters fresh =>
    intro y hy
    obtain ⟨i, rfl⟩ := fresh y hy
    rfl
  | _ => exact fun y hy => absurd hy List.not_mem_nil

/-- Nothing comes of a thread whose call has returned. -/
theorem not_deed_of_returned {s : Submission Job} {r : Except PoolError Unit}
    (h : Deed p turn ⟨[], .give s (.returned r)⟩ x) : False := by
  cases h

/-- A slot that holds a job for its worker is left alone by all threads but those of the worker
that are not through. -/
theorem Deed.slotAt_eq (h : Deed p turn t x) (running : (p.slotAt i).status = .running)
    (away : t.role.worker? = some i → t.role.isThrough = true) :
    x.pool.slotAt i = p.slotAt i := by
  rcases h.slotAt_cases i with same | ⟨change, -⟩
  · exact same
  · generalize ha : x.thread = after at change
    generalize hs : x.pool.slotAt i = slot at change
    cases change with
    | reserves s t idle =>
      rw [idle] at running
      cases running
    | feeds s t reserved =>
      rw [reserved] at running
      cases running
    | takes s last fed =>
      have through := away rfl
      cases last <;> cases through
    | frees last running => cases away rfl

/-- A job in a slot was there before, or was put there by a call that accepted it. -/
theorem Deed.fed_cases (h : Deed p turn t x) {s : Submission Job}
    (fed : (x.pool.slotAt i).value = some s) :
    (p.slotAt i).value = some s ∨ ∃ s', t = ⟨[], .give s' (.offering i (.feeding s))⟩ ∧
      x.thread = ⟨[], .give s' (.returned (.ok ()))⟩ ∧ x.started = [] := by
  rcases h.slotAt_cases i with same | ⟨change, started⟩
  · rw [same] at fed
    exact .inl fed
  · generalize ha : x.thread = after at change
    generalize hs : x.pool.slotAt i = slot at change fed
    cases change with
    | reserves s' t idle => exact .inl fed
    | feeds s' t reserved =>
      obtain rfl : t = s := Option.some.inj fed
      exact .inr ⟨s', rfl, rfl, started⟩
    | takes s' last fed' => cases fed
    | frees last running => cases fed

/-- A thread of a worker is not through as long as a job lies in the slot. -/
theorem Deed.not_isThrough (h : Deed p turn t x) (here : t.role.worker? = some i)
    (on : t.role.isThrough = false) {s : Submission Job}
    (fed : (x.pool.slotAt i).value = some s) (running : (x.pool.slotAt i).status = .running) :
    x.thread.role.isThrough = false := by
  cases h with
  | counts d ds role other => exact on
  | releases id ds role => exact on
  | looks j w worker => cases w.keepsOn <;> rfl
  | leaves j w worker nothing =>
    obtain rfl : j = i := Option.some.inj here
    rw [Pool.slotAt_eq worker, nothing] at fed
    cases fed
  | frees j w last worker running =>
    obtain rfl : j = i := Option.some.inj here
    rw [Pool.slotAt_setSlot worker, if_pos rfl] at fed
    cases fed
  | keeps j w last worker other =>
    obtain rfl : j = i := Option.some.inj here
    rw [Pool.slotAt_eq worker] at running
    exact absurd running other
  | _ => rfl

end

namespace Course

/-- A call that gives a job puts it into the slot of a worker, and returns. -/
def Feeds (c : Course) (e : SceneEvent) (k i : Nat) (s : Submission Job) : Prop :=
  c.scene.threads[k]? = some ⟨[], .give s (.offering i (.feeding s))⟩ ∧
    (c.react e).scene.threads[k]? = some ⟨[], .give s (.returned (.ok ()))⟩

/-- All threads that a worker has had by now were through back then. -/
def WereThrough (back now : Course) (i : Nat) : Prop :=
  ∀ (k : Nat) (t : Thread), now.scene.threads[k]? = some t → t.role.worker? = some i →
    ∃ u : Thread, back.scene.threads[k]? = some u ∧ u.role.isThrough = true

/-- A job was fed too late in a run: none of the threads of its worker was still to have a look
into the slot. -/
def FedLate (workers : Nat) (listeners : List String) (es : List SceneEvent) (k i : Nat)
    (s : Submission Job) : Prop :=
  ∃ es₁ e es₂, es = es₁ ++ e :: es₂ ∧ (run workers listeners es₁).Feeds e k i s ∧
    (run workers listeners es₁).WereThrough (run workers listeners es) i

/-- All threads of the workers have ended, and none is about to be started. -/
def Over (c : Course) : Prop := ∀ t ∈ c.scene.threads, t.worksOn = false

/-- A job that was accepted lies in a slot, locked, and no thread is left to process it. -/
def Stranded (c : Course) : Prop :=
  c.Over ∧ ∃ (k i : Nat) (s : Submission Job),
    c.scene.threads[k]? = some ⟨[], .give s (.returned (.ok ()))⟩ ∧
      (c.scene.pool.slotAt i).value = some s ∧ s.item.id ∈ c.scene.pool.locks.ids

/-- Threads stay what they are: each works for its worker, and those that are through or have
returned stay so. -/
structure Onward (t u : Thread) : Prop where
  worker : u.role.worker? = t.role.worker?
  through : t.role.isThrough = true → u.role.isThrough = true
  returned : ∀ s r, t = ⟨[], .give s (.returned r)⟩ → u = t

theorem Onward.refl (t : Thread) : Onward t t := ⟨rfl, id, fun _ _ _ => rfl⟩

theorem Onward.trans {t u v : Thread} (h : Onward t u) (h' : Onward u v) : Onward t v where
  worker := h'.worker.trans h.worker
  through through := h'.through (h.through through)
  returned s r ht := by
    obtain rfl := h.returned s r ht
    exact h'.returned s r ht

variable {c : Course} {workers : Nat} {listeners : List String} {k i : Nat} {s : Submission Job}

theorem onward_react (e : SceneEvent) {k : Nat} {t : Thread} (hk : c.scene.threads[k]? = some t) :
    ∃ u, (c.react e).scene.threads[k]? = some u ∧ Onward t u := by
  cases e with
  | enters e =>
    refine ⟨t, ?_, .refl t⟩
    rw [react, List.getElem?_append_left (List.getElem?_eq_some_iff.mp hk).1]
    exact hk
  | moves j turn =>
    rcases c.react_moves j turn with none | ⟨v, x, hj, d, moved⟩
    · rw [none]
      exact ⟨t, hk, .refl t⟩
    · have hlt := (List.getElem?_eq_some_iff.mp hk).1
      rw [moved]
      simp only
      rw [List.getElem?_append_left (by simpa using hlt)]
      by_cases same : j = k
      · subst same
        obtain rfl := Option.some.inj (hj.symm.trans hk)
        refine ⟨x.thread, by simp [hlt], d.worker?_eq, d.isThrough, ?_⟩
        rintro s r rfl
        exact (not_deed_of_returned d).elim
      · exact ⟨t, by rw [List.getElem?_set_ne same, hk], .refl t⟩

theorem onward_run (es es' : List SceneEvent) {k : Nat} {t : Thread}
    (hk : (run workers listeners es).scene.threads[k]? = some t) :
    ∃ u, (run workers listeners (es ++ es')).scene.threads[k]? = some u ∧ Onward t u := by
  induction es' using List.reverseRecOn with
  | nil => exact ⟨t, by simpa using hk, .refl t⟩
  | append_singleton es' e ih =>
    obtain ⟨u, hu, onward⟩ := ih
    obtain ⟨v, hv, onward'⟩ := onward_react e hu
    rw [← List.append_assoc, run_snoc]
    exact ⟨v, hv, onward.trans onward'⟩

/-- A slot with a job in it runs. -/
theorem Kept.running (h : c.Kept) {i : Nat} {s : Submission Job}
    (fed : (c.scene.pool.slotAt i).value = some s) :
    (c.scene.pool.slotAt i).status = .running := by
  have taken := h.scene.taken i
  by_contra other
  rw [if_neg other, fed] at taken
  simp at taken

/-- What is fed lies in the slot. -/
theorem Feeds.fed {e : SceneEvent} {k i : Nat} {s : Submission Job} (h : c.Feeds e k i s) :
    ((c.react e).scene.pool.slotAt i).value = some s := by
  obtain ⟨before, after⟩ := h
  have hlt := (List.getElem?_eq_some_iff.mp before).1
  have moved (unmoved : (c.react e).scene.threads[k]? = c.scene.threads[k]?) : False := by
    rw [unmoved, before] at after
    cases after
  cases e with
  | enters e =>
    refine (moved ?_).elim
    simp only [react]
    exact List.getElem?_append_left hlt
  | moves j turn =>
    rcases c.react_moves j turn with none | ⟨t, x, hj, d, step⟩
    · refine (moved ?_).elim
      rw [none]
    · rw [step] at after moved ⊢
      simp only at after moved ⊢
      rw [List.getElem?_append_left (by simpa using hlt)] at after moved
      by_cases same : j = k
      · subst same
        obtain rfl := Option.some.inj (before.symm.trans hj)
        rw [List.getElem?_set_self hlt] at after
        cases d with
        | feeds s t j w worker reserved => rw [Pool.slotAt_setSlot worker, if_pos rfl]
        | refused s t j sub w worker why => cases after
        | givesUp s j sub none => cases after
      · exact (moved (List.getElem?_set_ne same)).elim

/-- After it was fed, a slot holds its job until a thread of its worker that is not through has
a look. -/
theorem fed_of_wereThrough {es₁ : List SceneEvent} {e : SceneEvent} {k i : Nat}
    {s : Submission Job} (feeds : (run workers listeners es₁).Feeds e k i s)
    (es₂ : List SceneEvent) (through : (run workers listeners es₁).WereThrough
      (run workers listeners (es₁ ++ [e] ++ es₂)) i) :
    ((run workers listeners (es₁ ++ [e] ++ es₂)).scene.pool.slotAt i).value = some s := by
  induction es₂ using List.reverseRecOn with
  | nil =>
    rw [List.append_nil, run_snoc]
    exact feeds.fed
  | append_singleton es₂ e' ih =>
    rw [← List.append_assoc] at through ⊢
    have kept := kept_run workers listeners (es₁ ++ [e] ++ es₂)
    have back (j : Nat) (t : Thread)
        (hj : (run workers listeners (es₁ ++ [e] ++ es₂)).scene.threads[j]? = some t)
        (works : t.role.worker? = some i) :
        ∃ u, (run workers listeners es₁).scene.threads[j]? = some u ∧ u.role.isThrough = true := by
      obtain ⟨v, hv, onward⟩ := onward_run _ [e'] hj
      exact through j v hv (onward.worker.trans works)
    have fed := ih back
    rw [run_snoc]
    cases e' with
    | enters e' => exact fed
    | moves j turn =>
      rcases (run workers listeners (es₁ ++ [e] ++ es₂)).react_moves j turn with
        none | ⟨t, x, hj, d, step⟩
      · rw [none]
        exact fed
      · rw [step]
        simp only
        rw [d.slotAt_eq (kept.running fed), fed]
        intro works
        -- the thread was through when the job was fed, and has been so since
        obtain ⟨u, hu, wasThrough⟩ := back j t hj works
        rw [List.append_assoc] at hj
        obtain ⟨v, hv, onward⟩ := onward_run es₁ ([e] ++ es₂) hu
        obtain rfl := Option.some.inj (hv.symm.trans hj)
        exact onward.through wasThrough

/-- Whether a thread of a worker is still to look into the slot. -/
def Awaited (c : Course) (i : Nat) : Prop :=
  ∃ (k : Nat) (t : Thread), c.scene.threads[k]? = some t ∧ t.role.worker? = some i ∧
    t.role.isThrough = false

theorem through_of_not_awaited {t : Thread} (h : ¬ c.Awaited i)
    (hk : c.scene.threads[k]? = some t) (works : t.role.worker? = some i) :
    t.role.isThrough = true := by
  by_contra on
  exact h ⟨k, t, hk, works, Bool.eq_false_of_not_eq_true on⟩

/-- A thread that is through was there before the last event. -/
theorem known_of_isThrough (e : SceneEvent) {k : Nat} {u : Thread}
    (hk : (c.react e).scene.threads[k]? = some u) (through : u.role.isThrough = true) :
    ∃ t, c.scene.threads[k]? = some t := by
  by_cases hlt : k < c.scene.threads.length
  · exact ⟨_, List.getElem?_eq_getElem hlt⟩
  · exfalso
    cases e with
    | enters e =>
      simp only [react] at hk
      rw [List.getElem?_append_right (Nat.le_of_not_lt hlt)] at hk
      rw [List.mem_singleton.mp (List.mem_of_getElem? hk)] at through
      cases e <;> cases through
    | moves j turn =>
      rcases c.react_moves j turn with none | ⟨t, x, hj, d, step⟩
      · rw [none] at hk
        exact hlt (List.getElem?_eq_some_iff.mp hk).1
      · rw [step] at hk
        simp only at hk
        rw [List.getElem?_append_right (by simpa using hlt)] at hk
        have fresh := d.started_through u (List.mem_of_getElem? hk)
        rw [fresh] at through
        cases through

/-- A worker that still has a job in its slot is awaited as long as it was. -/
theorem Awaited.react (h : c.Awaited i) (e : SceneEvent) (kept : (c.react e).Kept)
    (fed : ((c.react e).scene.pool.slotAt i).value = some s) : (c.react e).Awaited i := by
  have running := kept.running fed
  obtain ⟨k, t, hk, works, on⟩ := h
  have hlt := (List.getElem?_eq_some_iff.mp hk).1
  cases e with
  | enters e =>
    refine ⟨k, t, ?_, works, on⟩
    rw [Course.react, List.getElem?_append_left hlt]
    exact hk
  | moves j turn =>
    rcases c.react_moves j turn with none | ⟨u, x, hj, d, step⟩
    · rw [none]
      exact ⟨k, t, hk, works, on⟩
    · rw [step] at fed running ⊢
      by_cases same : j = k
      · subst same
        obtain rfl := Option.some.inj (hj.symm.trans hk)
        refine ⟨j, x.thread, ?_, d.worker?_eq.trans works, d.not_isThrough works on fed running⟩
        simp [List.getElem?_append, hlt]
      · refine ⟨k, t, ?_, works, on⟩
        simp only
        rw [List.getElem?_append_left (by simpa using hlt), List.getElem?_set_ne same]
        exact hk

/-- A job in a slot was there before the last event, or is fed by it, and then no other thread
changes. -/
theorem fed_cases (kept : c.Kept) (e : SceneEvent)
    (fed : ((c.react e).scene.pool.slotAt i).value = some s) :
    (c.scene.pool.slotAt i).value = some s ∨ ∃ k, c.Feeds e k i s ∧ ∀ j u, j ≠ k →
      (c.react e).scene.threads[j]? = some u → c.scene.threads[j]? = some u := by
  cases e with
  | enters e => exact .inl fed
  | moves k turn =>
    rcases c.react_moves k turn with none | ⟨t, x, hk, d, step⟩
    · rw [none] at fed
      exact .inl fed
    · rw [step] at fed
      rcases d.fed_cases fed with old | ⟨s', rfl, after, started⟩
      · exact .inl old
      · have hlt := (List.getElem?_eq_some_iff.mp hk).1
        rcases (kept.scene.sound _ (List.mem_of_getElem? hk)).own s' i _ rfl with own | own <;>
          cases own
        refine .inr ⟨k, ⟨hk, ?_⟩, ?_⟩
        · simp [step, started, after, hlt]
        · intro j u other hj
          simpa [step, started, List.getElem?_set_ne (Ne.symm other)] using hj

variable {es : List SceneEvent}

theorem FedLate.react (h : FedLate workers listeners es k i s) (e : SceneEvent)
    (forsaken : ¬ (run workers listeners (es ++ [e])).Awaited i) :
    FedLate workers listeners (es ++ [e]) k i s := by
  obtain ⟨es₁, e', es₂, rfl, feeds, through⟩ := h
  refine ⟨es₁, e', es₂ ++ [e], by simp, feeds, ?_⟩
  intro j u hj works
  have now := through_of_not_awaited forsaken hj works
  rw [run_snoc] at hj
  obtain ⟨t, ht⟩ := known_of_isThrough e hj now
  obtain ⟨v, hv, onward⟩ := onward_react e ht
  obtain rfl := Option.some.inj (hv.symm.trans hj)
  exact through j t ht (onward.worker.symm.trans works)

theorem Feeds.late {e : SceneEvent} (h : (run workers listeners es).Feeds e k i s)
    (others : ∀ j u, j ≠ k → (run workers listeners (es ++ [e])).scene.threads[j]? = some u →
      (run workers listeners es).scene.threads[j]? = some u)
    (forsaken : ¬ (run workers listeners (es ++ [e])).Awaited i) :
    FedLate workers listeners (es ++ [e]) k i s := by
  refine ⟨es, e, [], rfl, h, ?_⟩
  intro j u hj works
  have through := through_of_not_awaited forsaken hj works
  by_cases same : j = k
  · subst same
    rw [run_snoc, h.2] at hj
    obtain rfl := Option.some.inj hj
    cases works
  · exact ⟨u, others j u same hj, through⟩

/-- A job in a slot was fed too late, or a thread of the worker is still to look. -/
theorem late_or_awaited (es : List SceneEvent)
    (fed : ((run workers listeners es).scene.pool.slotAt i).value = some s) :
    (∃ k, FedLate workers listeners es k i s) ∨ (run workers listeners es).Awaited i := by
  induction es using List.reverseRecOn with
  | nil =>
    rw [run, List.foldl_nil, slotAt_start] at fed
    cases fed
  | append_singleton es e ih =>
    by_cases forsaken : (run workers listeners (es ++ [e])).Awaited i
    · exact .inr forsaken
    left
    have kept := kept_run workers listeners (es ++ [e])
    rw [run_snoc] at fed kept
    rcases fed_cases (kept_run workers listeners es) e fed with old | ⟨k, feeds, others⟩
    · rcases ih old with ⟨k, late⟩ | awaited
      · exact ⟨k, late.react e forsaken⟩
      · have still := awaited.react e kept fed
        rw [← run_snoc] at still
        exact absurd still forsaken
    · rw [← run_snoc] at others
      exact ⟨k, feeds.late others forsaken⟩

theorem Over.through {t : Thread} (h : c.Over) (hk : c.scene.threads[k]? = some t)
    (works : t.role.worker? = some i) : t.role.isThrough = true := by
  have done := h t (List.mem_of_getElem? hk)
  obtain ⟨ds, role⟩ := t
  cases role with
  | work j w => cases w <;> first | rfl | cases done
  | _ => cases works

/-- A job in a slot is locked. -/
theorem Kept.locked (h : c.Kept) (fed : (c.scene.pool.slotAt i).value = some s) :
    s.item.id ∈ c.scene.pool.locks.ids := by
  rw [h.exact.mem_iff, Scene.inFlight, List.mem_append]
  left
  cases hi : c.scene.pool.slots[i]? with
  | none =>
    rw [Pool.slotAt, hi] at fed
    cases fed
  | some slot =>
    rw [Pool.slotAt, hi, Option.getD_some] at fed
    refine List.mem_flatMap.mpr ⟨slot, List.mem_of_getElem? hi, ?_⟩
    simp [Slot.locked, fed]

/-- A job that was accepted is stranded exactly if all threads of the workers have ended and a job
was fed too late. -/
theorem stranded_iff (workers : Nat) (listeners : List String) (es : List SceneEvent) :
    (run workers listeners es).Stranded ↔ (run workers listeners es).Over ∧
      ∃ k i s, FedLate workers listeners es k i s := by
  constructor
  · rintro ⟨gone, -, i, s, -, fed, -⟩
    refine ⟨gone, ?_⟩
    rcases late_or_awaited es fed with ⟨k, late⟩ | ⟨k, t, hk, works, on⟩
    · exact ⟨k, i, s, late⟩
    · have through := gone.through hk works
      rw [through] at on
      cases on
  · rintro ⟨gone, k, i, s, es₁, e, es₂, rfl, feeds, through⟩
    have shape : es₁ ++ e :: es₂ = es₁ ++ [e] ++ es₂ := List.append_cons es₁ e es₂
    rw [shape] at gone through ⊢
    have fed := fed_of_wereThrough feeds es₂ through
    have accepted := feeds.2
    rw [← run_snoc] at accepted
    obtain ⟨u, hu, onward⟩ := onward_run (es₁ ++ [e]) es₂ accepted
    rw [onward.returned s _ rfl] at hu
    exact ⟨gone, k, i, s, hu, fed, (kept_run workers listeners _).locked fed⟩

/-- A call finds the pool running. Then the pool is stopped, its only worker looks into its slot
for a last time and ends, and only now the call goes on: it locks its job and puts it there. -/
theorem stranded_overtaken :
    (run 1 [] [.enters .starts, .moves 0 .go, .moves 0 .go, .moves 0 .go, .moves 0 .go,
      .moves 0 .go, .enters (.gives ⟨⟨"J1", 2, .blank⟩, "reserved"⟩), .moves 2 .go,
      .enters .stops, .moves 3 .go, .moves 3 .go, .moves 3 .go, .moves 1 .go, .moves 1 .go,
      .moves 3 .go, .moves 3 .go, .moves 3 .go,
      .moves 2 .go, .moves 2 .go, .moves 2 .go, .moves 2 .go, .moves 2 .go]).Stranded := by
  generalize hc : run 1 [] _ = c
  have gone : (c.scene.threads.all fun t => !t.worksOn) = true := by
    rw [← hc]
    decide +kernel
  refine ⟨?_, 2, 0, ⟨⟨"J1", 2, .blank⟩, "reserved"⟩, ?_, ?_, ?_⟩
  · intro t ht
    simpa using List.all_eq_true.mp gone t ht
  · rw [← hc]
    rfl
  · rw [← hc]
    decide +kernel
  · rw [← hc]
    decide +kernel

end Course

end JobDispatch

import JobDispatch.Proofs.Agent.Course
import Mathlib.Data.List.Induction

/-!
Calls that stop a pool. A call that took the threads of the pool and returns true has seen all of
them end. It knows nothing of the threads that it did not take itself: an earlier call may have
given them up, another call may still wait for them, or nobody has taken them yet.
-/

namespace JobDispatch

/-- The threads that a call to stop the pool has taken and waits for. -/
def Role.awaited : Role → List Nat
  | stop (.joining ts) => ts
  | _ => []

/-- All that a step of a thread can be for the threads that were started and not taken by a call to
stop the pool, and for those that such a call waits for. -/
inductive Keeping (s : Scene) : Thread → Progressed → Prop
  | stays (t : Thread) (x : Progressed) (handles : x.pool.handles = s.pool.handles)
      (nobody : x.started = []) (awaited : x.thread.role.awaited = t.role.awaited)
      (returned : ∀ all, t.role = .stop (.returned all) → x.thread.role = t.role) : Keeping s t x
  | spawns (t : Thread) (x : Progressed) (i : Nat)
      (handles : x.pool.handles = s.pool.handles ++ [s.threads.length])
      (one : x.started = [⟨[], .work i .looking⟩]) (before : t.role.worker? = none)
      (awaited : x.thread.role.awaited = t.role.awaited)
      (returned : ∀ all, t.role ≠ .stop (.returned all)) : Keeping s t x
  | takes (x : Progressed) (handles : x.pool.handles = []) (nobody : x.started = [])
      (thread : x.thread = ⟨[], .stop (.joining s.pool.handles)⟩) :
      Keeping s ⟨[], .stop .collecting⟩ x
  | leaves (x : Progressed) (ts : List Nat) (all : Bool) (handles : x.pool.handles = s.pool.handles)
      (nobody : x.started = []) (thread : x.thread = ⟨[], .stop (.returned all)⟩)
      (ended : all = true → ∀ j ∈ ts, s.threads[j]?.any Thread.hasEnded = true) :
      Keeping s ⟨[], .stop (.joining ts)⟩ x

section

variable {s : Scene} {turn : Turn} {t : Thread} {x : Progressed}

theorem Pool.releaseOrKeep_handles (p : Pool) (id : String) :
    (p.releaseOrKeep id).1.handles = p.handles := by
  unfold releaseOrKeep release
  cases p.locks.release id <;> rfl

theorem Duty.perform_handles (d : Duty) (p : Pool) : (d.perform p).1.handles = p.handles := by
  cases d with
  | release id => exact p.releaseOrKeep_handles id
  | _ => rfl

theorem Giving.step_handles {p q : Pool} {sub : Submission Job} {g g' : Giving}
    {duties : List Duty} {events : List PoolEvent}
    (h : g.step p sub = some (q, g', duties, events)) : q.handles = p.handles := by
  have deed : Deed p .go ⟨[], .give sub g⟩ ⟨q, ⟨duties, .give sub g'⟩, [], events⟩ := step_deed h
  cases deed with
  | givesUp => exact p.releaseOrKeep_handles _
  | _ => rfl

theorem Starting.step_keeping {g g' : Starting} {q : Pool} {started : List Thread}
    (h : g.step s.pool s.threads.length turn = some (q, g', started)) :
    Keeping s ⟨[], .start g⟩ ⟨q, ⟨[], .start g'⟩, started, []⟩ := by
  have still {q : Pool} {g' : Starting} (handles : q.handles = s.pool.handles) :
      Keeping s ⟨[], .start g⟩ ⟨q, ⟨[], .start g'⟩, [], []⟩ :=
    .stays _ _ handles rfl rfl (by rintro all ⟨⟩)
  cases g with
  | checking =>
    cases h
    exact still rfl
  | claiming =>
    simp only [step] at h
    split_ifs at h <;> cases h <;> exact still rfl
  | opening =>
    simp only [step] at h
    split_ifs at h
    cases h
    exact still rfl
  | spawning i =>
    simp only [step] at h
    split_ifs at h
    · cases h
      exact still rfl
    · cases turn <;> cases h
      all_goals first
        | exact still rfl
        | exact .spawns _ _ i rfl rfl rfl rfl (by rintro all ⟨⟩)
  | returned r => cases h

theorem Stopping.step_keeping {g g' : Stopping} {q : Pool}
    (h : g.step s.pool s.threads turn = some (q, g')) :
    Keeping s ⟨[], .stop g⟩ ⟨q, ⟨[], .stop g'⟩, [], []⟩ := by
  cases g with
  | claiming =>
    simp only [step] at h
    split_ifs at h <;> cases h <;> exact .stays _ _ rfl rfl rfl (by rintro all ⟨⟩)
  | marking =>
    cases h
    exact .stays _ _ rfl rfl rfl (by rintro all ⟨⟩)
  | telling i =>
    simp only [step] at h
    split_ifs at h <;> cases h <;> exact .stays _ _ rfl rfl rfl (by rintro all ⟨⟩)
  | collecting =>
    simp only [step] at h
    split_ifs at h
    cases h
    exact .takes _ rfl rfl rfl
  | joining ts =>
    simp only [step] at h
    split_ifs at h with ended
    · cases h
      exact .leaves _ ts true rfl rfl rfl fun _ => List.all_eq_true.mp ended
    · cases h
      exact .leaves _ ts false rfl rfl rfl (by rintro ⟨⟩)
  | returned all => cases h

theorem Scene.advance_keeping (h : s.advance turn t = some x) : Keeping s t x := by
  obtain ⟨duties, role⟩ := t
  cases duties with
  | cons d ds =>
    simp only [advance, Option.some.injEq] at h
    subst h
    exact .stays _ _ (d.perform_handles s.pool) rfl rfl fun _ _ => rfl
  | nil =>
    simp only [advance] at h
    cases role with
    | give sub g =>
      obtain ⟨⟨pool, g', duties, events⟩, hg, rfl⟩ := Option.map_eq_some_iff.mp h
      exact .stays _ _ (Giving.step_handles hg) rfl rfl (by rintro all ⟨⟩)
    | work i w =>
      simp only [act] at h
      cases hw : s.pool.workers[i]? with
      | none => simp [hw] at h
      | some worker =>
        rw [hw] at h
        obtain ⟨⟨slot, w'⟩, -, rfl⟩ := Option.map_eq_some_iff.mp h
        exact .stays _ _ rfl rfl rfl (by rintro all ⟨⟩)
    | start g =>
      obtain ⟨⟨pool, g', started⟩, hg, rfl⟩ := Option.map_eq_some_iff.mp h
      exact Starting.step_keeping hg
    | stop g =>
      obtain ⟨⟨pool, g'⟩, hg, rfl⟩ := Option.map_eq_some_iff.mp h
      exact Stopping.step_keeping hg

/-- A thread that has ended makes no step. -/
theorem Scene.not_advance_of_hasEnded (ended : t.hasEnded = true) : s.advance turn t ≠ some x := by
  intro h
  have deed := advance_deed h
  obtain ⟨duties, role⟩ := t
  cases role with
  | work i w =>
    cases w with
    | ended =>
      obtain rfl : duties = [] := List.isEmpty_iff.mp ended
      cases deed with
      | takes j w sub at_ last worker fed when_ => cases last <;> cases when_
    | _ => cases ended
  | _ => cases ended

end

namespace Course

/-- A thread of a worker that has not ended. -/
def On (c : Course) (j : Nat) : Prop :=
  ∃ t, c.scene.threads[j]? = some t ∧ t.role.worker? ≠ none ∧ t.hasEnded = false

def HasEnded (c : Course) (j : Nat) : Prop :=
  ∃ t, c.scene.threads[j]? = some t ∧ t.hasEnded = true

/-- No thread of a worker is on, and none processes a job that was accepted. -/
structure AtRest (c : Course) : Prop where
  ended : ∀ j, ¬ c.On j
  processed : ∀ t ∈ c.scene.threads, ∀ i s last, t.role ≠ .work i (.holding s last)

/-- With an event a call to stop the pool returns, and says that all threads have ended. -/
def Closes (c : Course) (e : SceneEvent) (k : Nat) : Prop :=
  (∃ t, c.scene.threads[k]? = some t ∧ t.role ≠ .stop (.returned true)) ∧
    (c.react e).scene.threads[k]? = some ⟨[], .stop (.returned true)⟩

/-- The call at a position waits for a thread. -/
def Awaits (c : Course) (k j : Nat) : Prop :=
  ∃ t, c.scene.threads[k]? = some t ∧ j ∈ t.role.awaited

/-- The call at a position has returned, and said that not all threads have ended. -/
def HasGivenUp (c : Course) (k : Nat) : Prop :=
  ∃ t, c.scene.threads[k]? = some t ∧ t.role = .stop (.returned false)

section

variable (workers : Nat) (listeners : List String)

/-- Whenever a call to stop the pool says that all threads have ended, the pool is at rest. -/
def Truthful (es : List SceneEvent) : Prop :=
  ∀ es₁ e es₂ k, es = es₁ ++ e :: es₂ → (run workers listeners es₁).Closes e k →
    (run workers listeners (es₁ ++ [e])).AtRest

/-- A thread that no call to stop the pool has seen end: it was started and nobody has taken it
yet, or a call waits for it still, or a call waited for it until its time was over. -/
inductive Loose (es : List SceneEvent) (j : Nat) : Prop
  | untaken (started : j ∈ (run workers listeners es).scene.pool.handles)
  | awaited (k : Nat) (waits : (run workers listeners es).Awaits k j)
  | givenUp (k : Nat) (es₁ es₂ : List SceneEvent) (earlier : es = es₁ ++ es₂)
      (waited : (run workers listeners es₁).Awaits k j)
      (passed : (run workers listeners es).HasGivenUp k)

end

/-- What a step of a thread makes of a course. -/
structure Stepped (c d : Course) (k : Nat) (t : Thread) (x : Progressed) : Prop where
  there : c.scene.threads[k]? = some t
  keeping : Keeping c.scene t x
  on : t.hasEnded = false
  worker : x.thread.role.worker? = t.role.worker?
  pool : d.scene.pool = x.pool
  threads : d.scene.threads = c.scene.threads.set k x.thread ++ x.started

variable {c d : Course} {workers : Nat} {listeners : List String} {es : List SceneEvent} {j k : Nat}
  {t u : Thread} {x : Progressed}

/-- A thread that moves makes a step, or nothing happens. -/
theorem react_stepped (c : Course) (k : Nat) (turn : Turn) : c.react (.moves k turn) = c ∨
    ∃ t x, Stepped c (c.react (.moves k turn)) k t x := by
  cases h : c.scene.step k turn with
  | none => exact .inl (by simp [react, h])
  | some r =>
    have moved := h
    simp only [Scene.step, Option.bind_eq_bind, Option.bind_eq_some_iff] at h
    obtain ⟨t, there, x, step, h⟩ := h
    obtain rfl := Option.some.inj h
    have on : t.hasEnded = false := by
      by_contra ended
      exact Scene.not_advance_of_hasEnded (Bool.eq_true_of_not_eq_false ended) step
    have worker := (Scene.advance_deed step).worker?_eq
    refine .inr ⟨t, x, there, Scene.advance_keeping step, on, worker, ?_, ?_⟩
    · simp only [react, moved]
    · simp only [react, moved]

namespace Stepped

theorem self (h : Stepped c d k t x) : d.scene.threads[k]? = some x.thread := by
  rw [h.threads]
  exact getElem?_set_append_self h.there _

theorem other (h : Stepped c d k t x) (hj : c.scene.threads[j]? = some u) (ne : j ≠ k) :
    d.scene.threads[j]? = some u := by
  rw [h.threads]
  exact getElem?_set_append_of_ne hj ne _

/-- A thread that is there after a step was there before, or is the one that made it, or was
started by it and is to be taken. -/
theorem cases_thread (h : Stepped c d k t x) (hj : d.scene.threads[j]? = some u) :
    c.scene.threads[j]? = some u ∨ j = k ∧ u = x.thread ∨ j ∈ d.scene.pool.handles := by
  rw [h.threads] at hj
  by_cases known : j < c.scene.threads.length
  · rw [List.getElem?_append_left (by simpa using known)] at hj
    by_cases same : j = k
    · subst same
      rw [List.getElem?_set_self known] at hj
      exact .inr (.inl ⟨rfl, (Option.some.inj hj).symm⟩)
    · rw [List.getElem?_set_ne (Ne.symm same)] at hj
      exact .inl hj
  · rw [List.getElem?_append_right (by simpa using known), List.length_set] at hj
    have nobody (none : x.started = []) : False := by
      rw [none] at hj
      cases hj
    right
    right
    cases h.keeping with
    | spawns t x i handles one before awaited returned =>
      have first : j - c.scene.threads.length < 1 := by
        have inside := (List.getElem?_eq_some_iff.mp hj).1
        rw [one] at inside
        exact inside
      have position : j = c.scene.threads.length := by omega
      rw [h.pool, handles, position]
      exact List.mem_append_right _ (List.mem_singleton_self _)
    | stays t x handles none awaited returned => exact (nobody none).elim
    | takes x handles none thread => exact (nobody none).elim
    | leaves x ts all handles none thread ended => exact (nobody none).elim

end Stepped

theorem threads_enter (e : Entrance) (hk : c.scene.threads[k]? = some t) :
    (c.react (.enters e)).scene.threads[k]? = some t := by
  have known := (List.getElem?_eq_some_iff.mp hk).1
  rw [react, List.getElem?_append_left known]
  exact hk

/-- A thread that has ended stays so. -/
theorem HasEnded.react (h : c.HasEnded j) (e : SceneEvent) : (c.react e).HasEnded j := by
  obtain ⟨t, hj, ended⟩ := h
  cases e with
  | enters e => exact ⟨t, threads_enter e hj, ended⟩
  | moves k turn =>
    rcases c.react_stepped k turn with none | ⟨u, x, step⟩
    · rw [none]
      exact ⟨t, hj, ended⟩
    · refine ⟨t, step.other hj ?_, ended⟩
      rintro rfl
      obtain rfl := Option.some.inj (hj.symm.trans step.there)
      have on := step.on
      rw [ended] at on
      cases on

/-- A call that has given up does nothing more. -/
theorem HasGivenUp.react (h : c.HasGivenUp k) (e : SceneEvent) : (c.react e).HasGivenUp k := by
  obtain ⟨t, hk, passed⟩ := h
  cases e with
  | enters e => exact ⟨t, threads_enter e hk, passed⟩
  | moves j turn =>
    rcases c.react_stepped j turn with none | ⟨u, x, step⟩
    · rw [none]
      exact ⟨t, hk, passed⟩
    · by_cases same : k = j
      · subst same
        obtain rfl := Option.some.inj (hk.symm.trans step.there)
        refine ⟨x.thread, step.self, ?_⟩
        cases step.keeping with
        | stays t x handles nobody awaited returned => exact (returned false passed).trans passed
        | spawns t x i handles one before awaited returned => exact absurd passed (returned false)
        | takes => cases passed
        | leaves => cases passed
      · exact ⟨t, step.other hk same, passed⟩

/-- A thread that was started stays with the pool until a call to stop it takes the thread. -/
theorem untaken_react (h : j ∈ c.scene.pool.handles) (e : SceneEvent) :
    j ∈ (c.react e).scene.pool.handles ∨ ∃ k, (c.react e).Awaits k j := by
  cases e with
  | enters e => exact .inl h
  | moves k turn =>
    rcases c.react_stepped k turn with none | ⟨t, x, step⟩
    · rw [none]
      exact .inl h
    · have self := step.self
      rw [step.pool]
      cases step.keeping with
      | stays t x handles nobody awaited returned =>
        left
        rw [handles]
        exact h
      | spawns t x i handles one before awaited returned =>
        left
        rw [handles]
        exact List.mem_append_left _ h
      | takes x handles nobody thread =>
        refine .inr ⟨k, x.thread, self, ?_⟩
        rw [thread]
        exact h
      | leaves x ts all handles nobody thread ended =>
        left
        rw [handles]
        exact h

/-- A call waits for a thread until it has seen the thread end, or its time is over. -/
theorem Awaits.react (h : c.Awaits k j) (e : SceneEvent) :
    (c.react e).Awaits k j ∨ (c.react e).HasGivenUp k ∨ (c.react e).HasEnded j := by
  obtain ⟨t, hk, mine⟩ := h
  cases e with
  | enters e => exact .inl ⟨t, threads_enter e hk, mine⟩
  | moves i turn =>
    rcases c.react_stepped i turn with none | ⟨u, x, step⟩
    · rw [none]
      exact .inl ⟨t, hk, mine⟩
    · by_cases same : k = i
      · subst same
        obtain rfl := Option.some.inj (hk.symm.trans step.there)
        have self := step.self
        cases step.keeping with
        | stays t x handles nobody awaited returned =>
          exact .inl ⟨x.thread, self, by rw [awaited]; exact mine⟩
        | spawns t x n handles one before awaited returned =>
          exact .inl ⟨x.thread, self, by rw [awaited]; exact mine⟩
        | takes x handles nobody thread => cases mine
        | leaves x ts all handles nobody thread ended =>
          right
          cases all with
          | false => exact .inl ⟨x.thread, self, by rw [thread]⟩
          | true =>
            have seen := ended rfl j mine
            cases hv : c.scene.threads[j]? with
            | none =>
              rw [hv] at seen
              cases seen
            | some v =>
              rw [hv] at seen
              have before : c.HasEnded j := ⟨v, hv, seen⟩
              exact .inr (before.react _)
      · exact .inl ⟨t, step.other hk same, mine⟩

/-- A thread that nobody has seen end stays so, unless it is seen to have ended. -/
theorem Loose.snoc (h : Loose workers listeners es j) (e : SceneEvent) :
    Loose workers listeners (es ++ [e]) j ∨ (run workers listeners (es ++ [e])).HasEnded j := by
  have last := run_snoc workers listeners es e
  cases h with
  | untaken started =>
    left
    rcases untaken_react started e with still | ⟨k, waits⟩
    · exact .untaken (by rw [last]; exact still)
    · exact .awaited k (by rw [last]; exact waits)
  | awaited k waits =>
    rcases waits.react e with still | passed | ended
    · exact .inl (.awaited k (by rw [last]; exact still))
    · exact .inl (.givenUp k es [e] rfl waits (by rw [last]; exact passed))
    · exact .inr (by rw [last]; exact ended)
  | givenUp k es₁ es₂ earlier waited passed =>
    left
    have longer : es ++ [e] = es₁ ++ (es₂ ++ [e]) := by rw [earlier, List.append_assoc]
    exact .givenUp k es₁ (es₂ ++ [e]) longer waited (by rw [last]; exact passed.react e)

/-- A thread of a worker was there before the last event, or was started with it. -/
theorem worker_react (e : SceneEvent) (hj : (c.react e).scene.threads[j]? = some t)
    (works : t.role.worker? ≠ none) :
    (∃ u, c.scene.threads[j]? = some u ∧ u.role.worker? ≠ none) ∨
      j ∈ (c.react e).scene.pool.handles := by
  cases e with
  | enters e =>
    left
    rcases getElem?_concat_cases hj with old | ⟨-, rfl⟩
    · exact ⟨t, old, works⟩
    · cases e <;> exact absurd rfl works
  | moves k turn =>
    rcases c.react_stepped k turn with none | ⟨u, x, step⟩
    · rw [none] at hj
      exact .inl ⟨t, hj, works⟩
    · rcases step.cases_thread hj with old | ⟨rfl, rfl⟩ | new
      · exact .inl ⟨t, old, works⟩
      · rw [step.worker] at works
        exact .inl ⟨u, step.there, works⟩
      · exact .inr new

/-- The threads of the workers have ended, but for those that no call to stop the pool has seen
end. -/
theorem loose_or_hasEnded (es : List SceneEvent)
    (hj : (run workers listeners es).scene.threads[j]? = some t) (works : t.role.worker? ≠ none) :
    Loose workers listeners es j ∨ (run workers listeners es).HasEnded j := by
  induction es using List.reverseRecOn generalizing t with
  | nil => cases hj
  | append_singleton es e ih =>
    have last := run_snoc workers listeners es e
    rw [last] at hj
    rcases worker_react e hj works with ⟨u, hu, worked⟩ | new
    · rcases ih hu worked with loose | ended
      · exact loose.snoc e
      · right
        rw [last]
        exact ended.react e
    · left
      refine .untaken ?_
      rw [last]
      exact new

theorem HasEnded.not_on (h : c.HasEnded j) : ¬ c.On j := by
  rintro ⟨u, hu, -, on⟩
  obtain ⟨t, ht, ended⟩ := h
  obtain rfl := Option.some.inj (ht.symm.trans hu)
  rw [ended] at on
  cases on

/-- A pool is at rest when all threads have ended that no call to stop it has seen end. -/
theorem atRest_of_loose (es : List SceneEvent)
    (ended : ∀ j, Loose workers listeners es j → ¬ (run workers listeners es).On j) :
    (run workers listeners es).AtRest := by
  have off (j : Nat) : ¬ (run workers listeners es).On j := by
    intro on
    have ⟨t, hj, works, _⟩ := on
    rcases loose_or_hasEnded es hj works with loose | passed
    · exact ended j loose on
    · exact passed.not_on on
  refine ⟨off, ?_⟩
  rintro ⟨ds, role⟩ ht i s last rfl
  obtain ⟨j, hj⟩ := List.mem_iff_getElem?.mp ht
  exact off j ⟨_, hj, nofun, rfl⟩

/-- The calls to stop a pool are truthful when they say that all threads have ended, exactly if all
those threads have ended by then that an earlier call gave up, that another call still waits for,
or that nobody has taken. -/
theorem truthful_iff (workers : Nat) (listeners : List String) (es : List SceneEvent) :
    Truthful workers listeners es ↔ ∀ es₁ e es₂ k, es = es₁ ++ e :: es₂ →
      (run workers listeners es₁).Closes e k → ∀ j, Loose workers listeners (es₁ ++ [e]) j →
        ¬ (run workers listeners (es₁ ++ [e])).On j := by
  constructor
  · intro truthful es₁ e es₂ k split closes j _
    exact (truthful es₁ e es₂ k split closes).ended j
  · intro ended es₁ e es₂ k split closes
    exact atRest_of_loose (es₁ ++ [e]) (ended es₁ e es₂ k split closes)

/-- A worker is at work on a job when the time of a call to stop the pool is over. The next call
finds that the pool does not run and says that all threads have ended. -/
theorem not_truthful_again : ¬ Truthful 1 [] [.enters .starts, .moves 0 .go, .moves 0 .go,
    .moves 0 .go, .moves 0 .go, .moves 0 .go, .enters (.gives ⟨⟨"J1", 2, .blank⟩, "reserved"⟩),
    .moves 2 .go, .moves 2 .go, .moves 2 .go, .moves 2 .go, .moves 2 .go, .moves 2 .go,
    .moves 1 .go, .moves 1 .go, .enters .stops, .moves 3 .go, .moves 3 .go, .moves 3 .go,
    .moves 3 .go, .moves 3 .go, .moves 3 .late, .enters .stops, .moves 4 .go] := by
  intro truthful
  have closes : (run 1 [] [.enters .starts, .moves 0 .go, .moves 0 .go,
    .moves 0 .go, .moves 0 .go, .moves 0 .go, .enters (.gives ⟨⟨"J1", 2, .blank⟩, "reserved"⟩),
    .moves 2 .go, .moves 2 .go, .moves 2 .go, .moves 2 .go, .moves 2 .go, .moves 2 .go,
    .moves 1 .go, .moves 1 .go, .enters .stops, .moves 3 .go, .moves 3 .go, .moves 3 .go,
    .moves 3 .go, .moves 3 .go, .moves 3 .late, .enters .stops]).Closes (.moves 4 .go) 4 :=
    ⟨⟨_, rfl, nofun⟩, rfl⟩
  have rest := truthful _ _ [] 4 rfl closes
  exact rest.ended 1 ⟨_, rfl, nofun, rfl⟩

end Course

end JobDispatch

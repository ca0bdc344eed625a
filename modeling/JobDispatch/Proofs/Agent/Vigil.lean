import JobDispatch.Agent.Heartbeat
import JobDispatch.Proofs.Agent.Metering

/-!
Vigils: a heartbeat watches over a pool. The threads of the pool tell it of every new status, while
its task sleeps, wakes and carries out beats; the steps of all are mixed in every way.
-/

namespace JobDispatch

/-- What a runner reports while its pool has a status. -/
def PoolStatus.reported : PoolStatus → RunnerStatus
  | full => .running
  | accepting => .idle

theorem Pool.runnerStatus_eq (p : Pool) : p.runnerStatus = p.status.reported := by
  unfold runnerStatus
  cases p.status <;> rfl

/-- What happens between a pool and a heartbeat. -/
inductive VigilMark where
  /-- a thread counts, and the pool has a new status -/
  | turned (thread : Nat) (status : RunnerStatus)
  /-- a thread tells the heartbeat -/
  | told (thread : Nat) (status : RunnerStatus)
  | read (status : RunnerStatus)
  | noted (status : RunnerStatus)
  deriving DecidableEq

inductive VigilEvent where
  | scene (e : SceneEvent)
  | spawns (now : Nat)
  | rouses (now : Nat) (cause : Heartbeat.Cause)
  | beats (now : Nat)
  | signals (value : Bool)

/-- A pool and the heartbeat that watches over it, with all that it pushed. -/
structure Vigil where
  course : Course
  heart : Heartbeat
  pushed : List RunnerStatus
  log : List VigilMark

/-- What others see of the pool when a thread has its turn. -/
def Course.seen (c : Course) (k : Nat) (turn : Turn) : List PoolEvent :=
  match c.scene.step k turn with
  | none => []
  | some (_, events) => events

/-- What the task of a heartbeat does in a beat, as far as the status is concerned. -/
def HeartbeatAt.marks (current : RunnerStatus) : HeartbeatAt → List VigilMark
  | reading => [.read current]
  | noting status => [.noted status]
  | _ => []

namespace Vigil

def start (workers : Nat) (listeners : List String) (interval : Nat) : Vigil :=
  ⟨.start workers listeners, .ofInterval interval, [], []⟩

/-- The heartbeat hears what it is told under its name. -/
def hear (name : String) (k : Nat) (v : Vigil) : PoolEvent → Vigil
  | .told listener status =>
    if listener = name then { v with
      heart := v.heart.edge status.reported
      log := v.log ++ [.told k status.reported] }
    else v
  | _ => v

/-- What an event makes of a vigil; a step that cannot be made changes nothing. -/
def react (name : String) (v : Vigil) : VigilEvent → Vigil
  | .scene (.enters e) => { v with course := v.course.react (.enters e) }
  | .scene (.moves k turn) =>
    (v.course.seen k turn).foldl (hear name k) { v with
      course := v.course.react (.moves k turn)
      log := v.log ++ (v.course.decides (.moves k turn)).toList.map fun status =>
        .turned k status.reported }
  | .spawns now => if v.heart.task = none then { v with heart := v.heart.spawn now } else v
  | .rouses now cause => { v with heart := (v.heart.rouse now cause).getD v.heart }
  | .beats now =>
    match v.heart.beatStep now v.course.scene.pool.runnerStatus with
    | none => v
    | some (heart, pushed) => { v with
        heart
        pushed := v.pushed ++ pushed.toList
        log := v.log ++ v.heart.task.toList.flatMap (·.marks v.course.scene.pool.runnerStatus) }
  | .signals value =>
    { v with heart := { v.heart with shutdown := v.heart.shutdown.signal value } }

def run (name : String) (workers : Nat) (listeners : List String) (interval : Nat)
    (es : List VigilEvent) : Vigil :=
  es.foldl (react name) (start workers listeners interval)

end Vigil

/-- Whether a thread still has to tell a listener of a status. -/
def Course.Owes (c : Course) (name : String) (k : Nat) (status : PoolStatus) : Prop :=
  ∃ t, c.scene.threads[k]? = some t ∧ .tell name status ∈ t.duties

/-- Whether an event is something other than telling a listener. -/
def PoolEvent.Untold (e : PoolEvent) : Prop := ∀ l status, e ≠ .told l status

theorem Pool.releaseOrKeep_untold (p : Pool) (id : String) :
    ∀ e ∈ (p.releaseOrKeep id).2, e.Untold := by
  unfold releaseOrKeep release
  cases p.locks.release id <;> simp [PoolEvent.Untold]

theorem Deed.untold {p : Pool} {turn : Turn} {t : Thread} {x : Progressed} (h : Deed p turn t x)
    (other : ∀ l status ds, t.duties ≠ .tell l status :: ds) : ∀ e ∈ x.events, e.Untold := by
  cases h with
  | counts d ds role noRelease =>
    cases d with
    | tell l status => exact absurd rfl (other l status ds)
    | release id => exact absurd rfl (noRelease id)
    | _ => simp [Duty.perform]
  | releases id ds role => exact p.releaseOrKeep_untold id
  | givesUp s i sub none => exact p.releaseOrKeep_untold _
  | locks | lockedOut | takes => simp [PoolEvent.Untold]
  | _ => exact fun e he => absurd he List.not_mem_nil

namespace Course

variable {c : Course} {name : String} {k : Nat} {turn : Turn}

theorem react_listeners (c : Course) (e : SceneEvent) :
    (c.react e).scene.pool.listeners = c.scene.pool.listeners := by
  cases e with
  | enters e => rfl
  | moves k turn =>
    rcases c.react_moves k turn with same | ⟨t, x, hk, d, after⟩
    · rw [same]
    · rw [after]
      cases d.meterChange with
      | counts d ds before pool => rw [pool, d.perform_listeners]
      | reserves meters | frees meters | keeps meters => exact congrArg (·.2.2) meters

/-- What a thread owes to a listener it owes until it tells it. -/
theorem Owes.moves {j : Nat} {status : PoolStatus} (h : c.Owes name j status) (k : Nat)
    (turn : Turn) : (c.react (.moves k turn)).Owes name j status ∨
      j = k ∧ ∃ ds role, c.scene.threads[k]? = some ⟨.tell name status :: ds, role⟩ := by
  obtain ⟨t, hj, owes⟩ := h
  rcases c.react_moves k turn with same | ⟨u, x, hk, d, after⟩
  · left
    rw [same]
    exact ⟨t, hj, owes⟩
  · have hlt := (List.getElem?_eq_some_iff.mp hj).1
    by_cases here : j = k
    · subst here
      obtain rfl := Option.some.inj (hj.symm.trans hk)
      obtain ⟨duties, role⟩ := t
      cases duties with
      | nil => cases owes
      | cons d ds =>
        rcases List.mem_cons.mp owes with rfl | later
        · exact .inr ⟨rfl, ds, role, hk⟩
        · left
          rw [react_owing hk]
          exact ⟨_, List.getElem?_set_self hlt, List.mem_append_right _ later⟩
    · left
      rw [after]
      refine ⟨t, ?_, owes⟩
      simp only
      rw [List.getElem?_append_left (by simpa using hlt), List.getElem?_set_ne (Ne.symm here), hj]

theorem seen_untold
    (other : ∀ l status ds role, c.scene.threads[k]? ≠ some ⟨.tell l status :: ds, role⟩) :
    ∀ e ∈ c.seen k turn, e.Untold := by
  unfold seen
  cases h : c.scene.step k turn with
  | none => exact fun e he => absurd he List.not_mem_nil
  | some r =>
    obtain ⟨t, x, hk, d, -, events⟩ := Scene.step_deed h
    obtain ⟨duties, role⟩ := t
    simp only [events]
    refine d.untold ?_
    rintro l status ds rfl
    exact other l status ds role hk

/-- A thread that decides a new status has to tell every listener. -/
theorem owes_of_decides (listens : name ∈ c.scene.pool.listeners) {status : PoolStatus}
    (h : c.decides (.moves k turn) = some status) :
    (c.react (.moves k turn)).Owes name k status := by
  simp only [decides] at h
  split at h
  · next d ds role hk =>
    rw [react_owing hk, h]
    refine ⟨_, List.getElem?_set_self (List.getElem?_eq_some_iff.mp hk).1, ?_⟩
    exact List.mem_append_left _ (List.mem_map_of_mem listens)
  · cases h

end Course

/-- All that an event at the pool can be for a heartbeat that listens to it. -/
inductive Vigil.PoolStep (name : String) (v : Vigil) : Vigil → Prop
  | passes (c : Course) (status : c.scene.pool.status = v.course.scene.pool.status)
      (owes : ∀ j status, v.course.Owes name j status → c.Owes name j status) :
      PoolStep name v { v with course := c }
  | turns (c : Course) (k : Nat) (status : PoolStatus) (new : c.scene.pool.status = status)
      (owes : ∀ j status, v.course.Owes name j status → c.Owes name j status)
      (own : c.Owes name k status) :
      PoolStep name v { v with course := c, log := v.log ++ [.turned k status.reported] }
  | tells (c : Course) (k : Nat) (status : PoolStatus)
      (same : c.scene.pool.status = v.course.scene.pool.status)
      (owes : ∀ j s, v.course.Owes name j s → c.Owes name j s ∨ j = k ∧ s = status) :
      PoolStep name v { v with
        course := c
        heart := v.heart.edge status.reported
        log := v.log ++ [.told k status.reported] }

namespace Vigil

variable {v : Vigil} {name : String} {workers : Nat}

theorem foldl_hear {k : Nat} {events : List PoolEvent} (h : ∀ e ∈ events, e.Untold) (v : Vigil) :
    events.foldl (hear name k) v = v := by
  induction events with
  | nil => rfl
  | cons e es ih =>
    have deaf : hear name k v e = v := by
      cases e with
      | told l status => exact absurd rfl (h _ List.mem_cons_self l status)
      | _ => rfl
    rw [List.foldl_cons, deaf]
    exact ih fun e he => h e (List.mem_cons_of_mem _ he)

theorem foldl_hear_course (k : Nat) (events : List PoolEvent) (v : Vigil) :
    (events.foldl (hear name k) v).course = v.course := by
  induction events generalizing v with
  | nil => rfl
  | cons e es ih =>
    rw [List.foldl_cons, ih]
    cases e with
    | told l status =>
      simp only [hear]
      split_ifs <;> rfl
    | _ => rfl

/-- Only the scene's own events change the scene. -/
theorem react_course (v : Vigil) (name : String) (e : VigilEvent) :
    (v.react name e).course = v.course ∨
      ∃ e', e = .scene e' ∧ (v.react name e).course = v.course.react e' := by
  cases e with
  | scene e =>
    refine .inr ⟨e, rfl, ?_⟩
    cases e with
    | enters e => rfl
    | moves k turn => exact foldl_hear_course k _ _
  | spawns now =>
    simp only [react]
    split_ifs <;> exact .inl rfl
  | beats now =>
    simp only [react]
    split <;> exact .inl rfl
  | _ => exact .inl rfl

/-- What an event at the pool means for a heartbeat that listens. -/
theorem react_scene (metered : v.course.scene.Metered workers)
    (room : workers + v.course.scene.crew < 2 ^ 64)
    (listens : name ∈ v.course.scene.pool.listeners) (e : SceneEvent) :
    PoolStep name v (v.react name (.scene e)) := by
  have status := (Course.react_status metered room e).1
  cases e with
  | enters e =>
    refine .passes _ rfl ?_
    rintro j s ⟨t, hj, owes⟩
    refine ⟨t, ?_, owes⟩
    rw [Course.react, List.getElem?_append_left (List.getElem?_eq_some_iff.mp hj).1]
    exact hj
  | moves k turn =>
    by_cases tells : ∃ l s ds role, v.course.scene.threads[k]? = some ⟨.tell l s :: ds, role⟩
    · -- a thread that tells a listener does nothing else
      obtain ⟨l, s, ds, role, hk⟩ := tells
      have seen : v.course.seen k turn = [.told l s] := by
        simp [Course.seen, Scene.step, hk, Scene.advance, Duty.perform]
      have decided : v.course.decides (.moves k turn) = none := by
        simp only [Course.decides, hk, Duty.decides]
      have owes (j : Nat) (s' : PoolStatus) (h : v.course.Owes name j s') :
          (v.course.react (.moves k turn)).Owes name j s' ∨ j = k ∧ l = name ∧ s' = s := by
        refine (h.moves k turn).imp id ?_
        rintro ⟨rfl, ds', role', hk'⟩
        rw [hk] at hk'
        cases hk'
        exact ⟨rfl, rfl, rfl⟩
      simp only [react, seen, decided, List.foldl_cons, List.foldl_nil, hear, Option.toList_none,
        List.map_nil, List.append_nil]
      rw [decided] at status
      split_ifs with here
      · exact .tells _ k s status fun j s' h => (owes j s' h).imp id fun told => ⟨told.1, told.2.2⟩
      · exact .passes _ status fun j s' h =>
          (owes j s' h).elim id fun told => absurd told.2.1 here
    · have quiet : ∀ e ∈ v.course.seen k turn, e.Untold := Course.seen_untold fun l s ds role hk =>
        tells ⟨l, s, ds, role, hk⟩
      have owes (j : Nat) (s : PoolStatus) (h : v.course.Owes name j s) :
          (v.course.react (.moves k turn)).Owes name j s := by
        rcases h.moves k turn with still | ⟨-, ds, role, hk⟩
        · exact still
        · exact absurd ⟨name, s, ds, role, hk⟩ tells
      rw [react, foldl_hear quiet]
      cases decided : v.course.decides (.moves k turn) with
      | none =>
        rw [decided] at status
        simp only [Option.toList_none, List.map_nil, List.append_nil]
        exact .passes _ status owes
      | some s =>
        rw [decided] at status
        exact .turns _ k s status owes (Course.owes_of_decides listens decided)

end Vigil

end JobDispatch

import JobDispatch.Proofs.Agent.Metering
import JobDispatch.Proofs.Agent.Stranding

/-!
Calls that start a pool, when all calls are made in turn. One that comes after the pool was stopped
leaves a pool that takes no jobs. One that cannot start a thread for every worker leaves a pool that
counts as running: later calls to start it say that all is well, and jobs are let in for workers
that never get a thread.
-/

namespace JobDispatch

/-- Whether a thread calls the pool and the call has not returned. -/
def Role.isCalling : Role → Bool
  | give _ (.returned _) | start (.returned _) | stop (.returned _) | work _ _ => false
  | _ => true

/-- Whether a call has not made its first step. -/
def Role.isNew : Role → Bool
  | give _ .entering | start .checking | stop .claiming => true
  | _ => false

/-- Whether a call to start the pool is about to start threads. -/
def Role.isStarting : Role → Bool
  | start .opening | start (.spawning _) => true
  | _ => false

/-- Whether a call that gives a job has not begun, or was told that the pool does not run. -/
def Role.isTurnedAway : Role → Bool
  | give _ .entering | give _ (.returned (.error .notRunning)) => true
  | give _ _ => false
  | _ => true

def Role.isStopping : Role → Bool
  | stop (.returned _) => false
  | stop _ => true
  | _ => false

/-- Whether a call was told that the pool does not run, or could not start it. -/
def Role.isRefused : Role → Bool
  | give _ (.returned (.error .notRunning)) | start (.returned (.error _)) => true
  | _ => false

theorem Role.not_isStarting {r : Role} (off : r.isCalling = false) : r.isStarting = false := by
  cases r with
  | start g => cases g <;> first | rfl | cases off
  | _ => rfl

theorem Role.not_isStopping {r : Role} (off : r.isCalling = false) : r.isStopping = false := by
  cases r with
  | stop g => cases g <;> first | rfl | cases off
  | _ => rfl

/-- What those who are at work on starting or stopping a pool can rely on. -/
def Role.Agrees (gate : Bool × Bool) (staff : List Nat) : Role → Prop
  | start .claiming => gate.2 = false
  | start .opening => gate = (true, false) ∧ staff = []
  | start (.spawning i) => gate = (true, false) ∧ staff = List.range i
  | stop .marking => gate = (false, false)
  | _ => True

theorem Role.agrees_of_not_calling {r : Role} (off : r.isCalling = false) (gate : Bool × Bool)
    (staff : List Nat) : r.Agrees gate staff := by
  cases r with
  | start g => cases g <;> trivial
  | stop g => cases g <;> trivial
  | _ => trivial

/-- Whether a pool counts as running, and whether it was stopped. -/
def Pool.gate (p : Pool) : Bool × Bool := (p.running, p.stopped)

/-- All that a step of a thread can be for those who call a pool: the turn that it is given, where
it stands before and after, what becomes of the gate, and the threads that are started. -/
inductive Gating (p : Pool) (turn : Turn) : Role → Role → Bool × Bool → List Role → Prop
  | owes (r : Role) : Gating p turn r r p.gate []
  | works (i : Nat) (w w' : WorkerAt Job) : Gating p turn (.work i w) (.work i w') p.gate []
  | admits (s : Submission Job) (running : p.running = true) :
      Gating p turn (.give s .entering) (.give s .locking) p.gate []
  | refuses (s : Submission Job) (running : p.running = false) :
      Gating p turn (.give s .entering) (.give s (.returned (.error .notRunning))) p.gate []
  | gives (s : Submission Job) (g g' : Giving) (begun : (Role.give s g).isNew = false)
      (on : (Role.give s g).isCalling = true) (still : (Role.give s g').isNew = false)
      (kept : (Role.give s g').isRefused = false) :
      Gating p turn (.give s g) (.give s g') p.gate []
  | late (stopped : p.stopped = true) :
      Gating p turn (.start .checking) (.start (.returned (.error .notRunning))) p.gate []
  | checks (open_ : p.stopped = false) :
      Gating p turn (.start .checking) (.start .claiming) p.gate []
  | again (running : p.running = true) :
      Gating p turn (.start .claiming) (.start (.returned (.ok ()))) p.gate []
  | claims (resting : p.running = false) :
      Gating p turn (.start .claiming) (.start .opening) (true, p.stopped) []
  | opens : Gating p turn (.start .opening) (.start (.spawning 0)) p.gate []
  | spawns (i : Nat) (more : i < p.size) :
      Gating p turn (.start (.spawning i)) (.start (.spawning (i + 1))) p.gate [.work i .looking]
  | completes (i : Nat) (all : p.size ≤ i) :
      Gating p turn (.start (.spawning i)) (.start (.returned (.ok ()))) p.gate []
  | fails (i : Nat) (cause : String) (more : i < p.size) (denied : turn = .noThread cause) :
      Gating p turn (.start (.spawning i)) (.start (.returned (.error (.noThread cause)))) p.gate []
  | idles (resting : p.running = false) :
      Gating p turn (.stop .claiming) (.stop (.returned true)) p.gate []
  | withdraws (running : p.running = true) :
      Gating p turn (.stop .claiming) (.stop .marking) (false, p.stopped) []
  | marks : Gating p turn (.stop .marking) (.stop (.telling 0)) (p.running, true) []
  | ends (g g' : Stopping) (begun : g ≠ .claiming ∧ g ≠ .marking)
      (on : (Role.stop g).isCalling = true) (still : g' ≠ .claiming ∧ g' ≠ .marking) :
      Gating p turn (.stop g) (.stop g') p.gate []

section

variable {p q : Pool} {turn : Turn}

theorem Pool.releaseOrKeep_gate (p : Pool) (id : String) :
    (p.releaseOrKeep id).1.gate = p.gate := by
  unfold releaseOrKeep release
  cases p.locks.release id <;> rfl

theorem Duty.perform_gate (d : Duty) (p : Pool) : (d.perform p).1.gate = p.gate := by
  cases d with
  | release id => exact p.releaseOrKeep_gate id
  | _ => rfl

theorem Giving.step_gating {s : Submission Job} {g g' : Giving} {duties : List Duty}
    {events : List PoolEvent} (h : g.step p s = some (q, g', duties, events)) :
    Gating p turn (.give s g) (.give s g') q.gate [] := by
  have deed : Deed p turn ⟨[], .give s g⟩ ⟨q, ⟨duties, .give s g'⟩, [], events⟩ := step_deed h
  cases deed with
  | enters s running => exact .admits s running
  | turnedAway s running => exact .refuses s running
  | givesUp s i sub none =>
    rw [p.releaseOrKeep_gate]
    exact .gives s _ _ rfl rfl rfl rfl
  | _ => exact .gives s _ _ rfl rfl rfl rfl

theorem Starting.step_gating {threads : Nat} {g g' : Starting} {started : List Thread}
    (h : g.step p threads turn = some (q, g', started)) :
    Gating p turn (.start g) (.start g') q.gate (started.map Thread.role) := by
  cases g with
  | checking =>
    simp only [step, Option.some.injEq, Prod.mk.injEq] at h
    obtain ⟨rfl, rfl, rfl⟩ := h
    split_ifs with stopped
    · exact .late stopped
    · exact .checks (Bool.eq_false_of_not_eq_true stopped)
  | claiming =>
    simp only [step] at h
    split_ifs at h with running <;> cases h
    · exact .again running
    · exact .claims (Bool.eq_false_of_not_eq_true running)
  | opening =>
    simp only [step] at h
    split_ifs at h
    cases h
    exact .opens
  | spawning i =>
    simp only [step] at h
    split_ifs at h with all
    · cases h
      exact .completes i all
    · have more := Nat.lt_of_not_le all
      cases turn with
      | noThread cause =>
        cases h
        exact .fails i cause more rfl
      | _ =>
        cases h
        exact .spawns i more
  | returned r => cases h

theorem Stopping.step_gating {threads : List Thread} {g g' : Stopping}
    (h : g.step p threads turn = some (q, g')) : Gating p turn (.stop g) (.stop g') q.gate [] := by
  cases g with
  | claiming =>
    simp only [step] at h
    split_ifs at h with running <;> cases h
    · exact .withdraws running
    · exact .idles (Bool.eq_false_of_not_eq_true running)
  | marking =>
    cases h
    exact .marks
  | telling i =>
    simp only [step] at h
    split_ifs at h <;> cases h <;> exact .ends _ _ (by simp) rfl (by simp)
  | collecting =>
    simp only [step] at h
    split_ifs at h
    cases h
    exact .ends _ _ (by simp) rfl (by simp)
  | joining ts =>
    simp only [step] at h
    split_ifs at h <;> cases h <;> exact .ends _ _ (by simp) rfl (by simp)
  | returned all => cases h

theorem Scene.advance_gating {s : Scene} {t : Thread} {x : Progressed}
    (h : s.advance turn t = some x) :
    Gating s.pool turn t.role x.thread.role x.pool.gate (x.started.map Thread.role) := by
  obtain ⟨duties, role⟩ := t
  cases duties with
  | cons d ds =>
    simp only [advance, Option.some.injEq] at h
    subst h
    simp only [d.perform_gate]
    exact .owes role
  | nil =>
    simp only [advance] at h
    cases role with
    | give sub g =>
      obtain ⟨⟨pool, g', duties, events⟩, hg, rfl⟩ := Option.map_eq_some_iff.mp h
      exact Giving.step_gating hg
    | work i w =>
      simp only [act] at h
      cases hw : s.pool.workers[i]? with
      | none => simp [hw] at h
      | some worker =>
        rw [hw] at h
        obtain ⟨⟨slot, w'⟩, -, rfl⟩ := Option.map_eq_some_iff.mp h
        exact .works i w w'
    | start g =>
      obtain ⟨⟨pool, g', started⟩, hg, rfl⟩ := Option.map_eq_some_iff.mp h
      exact Starting.step_gating hg
    | stop g =>
      obtain ⟨⟨pool, g'⟩, hg, rfl⟩ := Option.map_eq_some_iff.mp h
      exact Stopping.step_gating hg

end

namespace Gating

variable {p : Pool} {turn : Turn} {r r' : Role} {gate : Bool × Bool} {more : List Role}

/-- A call that has returned does nothing more, and no step of a thread makes a call. -/
theorem calling (h : Gating p turn r r' gate more) (on : r'.isCalling = true) :
    r.isCalling = true := by
  cases h with
  | owes => exact on
  | works => cases on
  | gives s g g' begun calling => exact calling
  | ends g g' begun calling => exact calling
  | _ => rfl

theorem worker?_eq (h : Gating p turn r r' gate more) : r'.worker? = r.worker? := by
  cases h <;> rfl

/-- The threads that are started work for the pool. -/
theorem of_mem (h : Gating p turn r r' gate more) {q : Role} (hq : q ∈ more) :
    ∃ i, q = .work i .looking := by
  cases h with
  | spawns i => exact ⟨i, List.mem_singleton.mp hq⟩
  | _ => cases hq

/-- Only calls change the gate or start threads. -/
theorem of_not_calling (h : Gating p turn r r' gate more) (off : r.isCalling = false) :
    gate = p.gate ∧ more = [] := by
  cases h with
  | owes | works => exact ⟨rfl, rfl⟩
  | gives s g g' begun on =>
    rw [on] at off
    cases off
  | ends g g' begun on =>
    rw [on] at off
    cases off
  | _ => cases off

/-- Who leaves a pool that does not run and was not stopped is about to mark it as stopped, or found
it so. -/
theorem rests (h : Gating p turn r r' gate more) (resting : gate = (false, false)) :
    r' = .stop .marking ∨
      p.gate = (false, false) ∧ (more = [] ∨ ∃ i, r = .start (.spawning i)) := by
  cases h with
  | claims => cases resting
  | withdraws => exact .inl rfl
  | marks =>
    have unmarked : true = false := congrArg Prod.snd resting
    cases unmarked
  | spawns i => exact .inr ⟨resting, .inr ⟨i, rfl⟩⟩
  | _ => exact .inr ⟨resting, .inl rfl⟩

/-- Only a call to start a pool that does not run starts threads. -/
theorem of_not_starting (h : Gating p turn r r' gate more) (idle : r.isStarting = false)
    (taken : r = .start .claiming → p.running = true) : r'.isStarting = false ∧ more = [] := by
  cases h with
  | owes => exact ⟨idle, rfl⟩
  | claims resting => simp [taken rfl] at resting
  | opens | spawns | completes | fails => cases idle
  | _ => exact ⟨rfl, rfl⟩

/-- At a pool that runs, those who neither start nor stop it change nothing, and nobody is refused
whom the pool had not refused before. -/
theorem of_open (h : Gating p turn r r' gate more) (running : p.gate = (true, false))
    (idle : r.isStarting = false) (calm : r.isStopping = false) :
    gate = (true, false) ∧ r'.isStopping = false ∧
      (r.isRefused = false → r'.isRefused = false) := by
  have open_ : p.running = true := congrArg Prod.fst running
  have unstopped : p.stopped = false := congrArg Prod.snd running
  cases h with
  | owes => exact ⟨running, calm, id⟩
  | refuses s resting => simp [open_] at resting
  | late stopped => simp [unstopped] at stopped
  | claims resting => simp [open_] at resting
  | opens | spawns | completes | fails => cases idle
  | idles | withdraws | marks => cases calm
  | ends g g' begun on =>
    cases g with
    | returned all => cases on
    | _ => cases calm
  | gives s g g' begun on still kept => exact ⟨running, rfl, fun _ => kept⟩
  | _ => exact ⟨running, rfl, fun _ => rfl⟩

/-- At a pool that was stopped, calls end with their first step. -/
theorem of_shut (h : Gating p turn r r' gate more) (shut : p.gate = (false, true))
    (new : r.isCalling = true → r.isNew = true) :
    gate = (false, true) ∧ (r'.isCalling = true → r'.isNew = true) ∧
      (r.isTurnedAway = true → r'.isTurnedAway = true) := by
  have resting : p.running = false := congrArg Prod.fst shut
  have stopped : p.stopped = true := congrArg Prod.snd shut
  cases h with
  | owes => exact ⟨shut, new, id⟩
  | works | refuses | late | idles => exact ⟨shut, nofun, fun _ => rfl⟩
  | admits s running => simp [resting] at running
  | checks open_ => simp [stopped] at open_
  | withdraws running => simp [resting] at running
  | gives s g g' begun on =>
    rw [new on] at begun
    cases begun
  | ends g g' begun on =>
    have first := new on
    cases g with
    | claiming => exact absurd rfl begun.1
    | _ => cases first
  | _ => cases new rfl

end Gating

namespace Course

/-- Where the threads of a course stand. -/
def roles (c : Course) : List Role := c.scene.threads.map Thread.role

def gate (c : Course) : Bool × Bool := c.scene.pool.gate

/-- The workers for which threads were started, one after the other. -/
def staff (c : Course) : List Nat := c.roles.filterMap Role.worker?

/-- What a step of the thread at a position makes of a course. -/
structure Gated (c d : Course) (k : Nat) (turn : Turn) (r r' : Role) (more : List Role) :
    Prop where
  there : c.roles[k]? = some r
  gating : Gating c.scene.pool turn r r' d.gate more
  roles : d.roles = c.roles.set k r' ++ more

variable {c d : Course} {k n : Nat} {turn : Turn} {r r' : Role} {more : List Role} {workers : Nat}
  {listeners : List String}

theorem roles_enter (c : Course) (e : Entrance) :
    (c.react (.enters e)).roles = c.roles ++ [e.role] := by
  simp [react, roles]

theorem gated_of_moves (c : Course) (k : Nat) (turn : Turn) :
    c.react (.moves k turn) = c ∨
      ∃ r r' more, Gated c (c.react (.moves k turn)) k turn r r' more := by
  cases h : c.scene.step k turn with
  | none => exact .inl (by simp [react, h])
  | some made =>
    have moved := h
    simp only [Scene.step, Option.bind_eq_bind, Option.bind_eq_some_iff] at h
    obtain ⟨t, there, x, step, h⟩ := h
    obtain rfl := Option.some.inj h
    refine .inr ⟨t.role, x.thread.role, x.started.map Thread.role, ?_, ?_, ?_⟩
    · simp [Course.roles, there]
    · simp only [react, moved]
      exact Scene.advance_gating step
    · simp [react, moved, Course.roles, List.map_set]

theorem size_run (workers : Nat) (listeners : List String) (es : List SceneEvent) :
    (run workers listeners es).scene.pool.size = workers := by
  have slots (p : Pool) : p.size = p.slots.length := by simp [Pool.size, Pool.slots]
  rw [slots]
  refine run_induction (P := fun c => c.scene.pool.slots.length = workers) ?_ ?_ es
  · rw [slots_start, List.length_replicate]
  · intro c e same
    cases e with
    | enters e => exact same
    | moves k turn =>
      rcases c.react_moves k turn with none | ⟨t, x, -, d, step⟩
      · rw [none]
        exact same
      · rw [step]
        exact d.size.1.trans same

/-- A call begins only when all calls before it have returned. -/
def Waits (c : Course) : SceneEvent → Prop
  | .enters _ => ∀ r ∈ c.roles, r.isCalling = false
  | .moves _ _ => True

/-- The calls to a pool are made in turn. What the threads of its workers do is mixed with them in
every way. -/
def InTurn (c : Course) : List SceneEvent → Prop
  | [] => True
  | e :: es => c.Waits e ∧ (c.react e).InTurn es

instance decidableWaits (c : Course) : (e : SceneEvent) → Decidable (c.Waits e)
  | .enters _ => inferInstanceAs (Decidable (∀ r ∈ c.roles, r.isCalling = false))
  | .moves _ _ => inferInstanceAs (Decidable True)

instance decidableInTurn : (c : Course) → (es : List SceneEvent) → Decidable (c.InTurn es)
  | _, [] => inferInstanceAs (Decidable True)
  | c, e :: es =>
    have := decidableInTurn (c.react e) es
    inferInstanceAs (Decidable (c.Waits e ∧ _))

theorem inTurn_append {es es' : List SceneEvent} :
    c.InTurn (es ++ es') ↔ c.InTurn es ∧ (es.foldl react c).InTurn es' := by
  induction es generalizing c with
  | nil => exact (iff_of_eq (true_and _)).symm
  | cons e es ih => simp only [List.cons_append, InTurn, ih, List.foldl_cons, and_assoc]

/-- Whoever goes on with a call is always in turn. -/
theorem InTurn.moves {es : List SceneEvent} (h : c.InTurn es) (k : Nat) (turn : Turn) :
    c.InTurn (es ++ [.moves k turn]) :=
  inTurn_append.mpr ⟨h, trivial, trivial⟩

theorem Gated.mem_cases (h : Gated c d k turn r r' more) {q : Role} (hq : q ∈ d.roles) :
    (∃ j, j ≠ k ∧ c.roles[j]? = some q) ∨ q = r' ∨ ∃ i, q = .work i .looking := by
  obtain ⟨j, hj⟩ := List.mem_iff_getElem?.mp hq
  rw [h.roles] at hj
  rcases getElem?_set_append_cases hj with ⟨ne, old⟩ | ⟨-, rfl⟩ | new
  · exact .inl ⟨j, ne, old⟩
  · exact .inr (.inl rfl)
  · exact .inr (.inr (h.gating.of_mem new))

/-- What holds of where all threads stand still holds after a step if it does for the thread that
made it, and for those that begin to work. -/
theorem Gated.forall_roles (h : Gated c d k turn r r' more) {P : Nat → Role → Prop}
    (before : ∀ j q, c.roles[j]? = some q → P j q) (moved : P k r → P k r')
    (started : ∀ j i, P j (.work i .looking)) : ∀ j q, d.roles[j]? = some q → P j q := by
  intro j q hj
  rw [h.roles] at hj
  rcases getElem?_set_append_cases hj with ⟨-, old⟩ | ⟨rfl, rfl⟩ | new
  · exact before j q old
  · exact moved (before j r h.there)
  · obtain ⟨i, rfl⟩ := h.gating.of_mem new
    exact started j i

theorem forall_roles_enter {P : Nat → Role → Prop} (before : ∀ j q, c.roles[j]? = some q → P j q)
    {e : Entrance} (new : P c.roles.length e.role) :
    ∀ j q, (c.react (.enters e)).roles[j]? = some q → P j q := by
  intro j q hj
  rw [roles_enter] at hj
  rcases getElem?_concat_cases hj with old | ⟨rfl, rfl⟩
  · exact before j q old
  · exact new

theorem Gated.self_mem (h : Gated c d k turn r r' more) : r' ∈ d.roles := by
  rw [h.roles]
  exact List.mem_of_getElem? (getElem?_set_append_self h.there r')

/-- Those who make no step stay where they are. -/
theorem Gated.mem_of_ne (h : Gated c d k turn r r' more) {q : Role} (hq : q ∈ c.roles)
    (ne : q ≠ r) :
    q ∈ d.roles := by
  obtain ⟨j, hj⟩ := List.mem_iff_getElem?.mp hq
  rw [h.roles]
  refine List.mem_of_getElem? (getElem?_set_append_of_ne hj ?_ r')
  rintro rfl
  exact ne (Option.some.inj (hj.symm.trans h.there))

theorem Gated.staff (h : Gated c d k turn r r' more) :
    d.staff = c.staff ++ more.filterMap Role.worker? := by
  have id_ (rs : List Role) :
      rs.filterMap Role.worker? = (rs.map Role.worker?).filterMap id := by simp [List.filterMap_map]
  rw [Course.staff, h.roles, List.filterMap_append, id_ (c.roles.set k r'),
    map_set_getElem? _ h.there h.gating.worker?_eq, ← id_, Course.staff]

/-- A call that has closed a pool is still to mark it as stopped, until it has done so. -/
theorem Gated.marking (h : Gated c d k turn r r' more) (hm : .stop .marking ∈ c.roles)
    (unmarked : d.gate = (false, false)) : .stop .marking ∈ d.roles := by
  by_cases same : .stop .marking = r
  · have self := h.self_mem
    have gating := h.gating
    subst same
    rw [unmarked] at gating
    generalize hg : (false, false) = gate at gating
    cases gating with
    | owes => exact self
    | marks =>
      have marked : false = true := congrArg Prod.snd hg
      cases marked
    | ends g g' begun => exact absurd rfl begun.2
  · exact h.mem_of_ne hm same

theorem staff_enter (c : Course) (e : Entrance) : (c.react (.enters e)).staff = c.staff := by
  rw [staff, roles_enter, List.filterMap_append]
  cases e <;> exact List.append_nil _

/-- What is known of a pool whose calls are made in turn: there is one at most that has not
returned, and a pool that was not started or stopped has no threads. -/
structure Orderly (c : Course) : Prop where
  one : ∀ (j k : Nat) (r r' : Role), c.roles[j]? = some r → c.roles[k]? = some r' →
    r.isCalling = true → r'.isCalling = true → j = k
  apart : c.gate ≠ (true, true)
  fresh : c.gate = (false, false) → .stop .marking ∈ c.roles ∨ c.staff = []
  agrees : ∀ r ∈ c.roles, r.Agrees c.gate c.staff

theorem orderly_start (workers : Nat) (listeners : List String) :
    (start workers listeners).Orderly where
  one _ _ _ _ hj := absurd (List.mem_of_getElem? hj) List.not_mem_nil
  apart := nofun
  fresh _ := .inr rfl
  agrees _ hr := absurd hr List.not_mem_nil

namespace Orderly

/-- Nobody but the call that moves is at work on the pool. -/
theorem alone (h : c.Orderly) (hr : c.roles[k]? = some r) (on : r.isCalling = true) {q : Role}
    (hq : q ∈ c.roles) (on' : q.isCalling = true) : q = r := by
  obtain ⟨j, hj⟩ := List.mem_iff_getElem?.mp hq
  obtain rfl := h.one j k q r hj hr on' on
  exact Option.some.inj (hj.symm.trans hr)

theorem agrees_moved (h : c.Orderly) (g : Gated c d k turn r r' more) :
    r'.Agrees d.gate d.staff := by
  have before := h.agrees r (List.mem_of_getElem? g.there)
  have alone (on : r.isCalling = true) (q : Role) := h.alone g.there on (q := q)
  have staff := g.staff
  have gating := g.gating
  generalize d.gate = gate at gating ⊢
  rw [staff]
  cases gating with
  | owes r =>
    rw [List.filterMap_nil, List.append_nil]
    exact before
  | checks open_ => exact open_
  | claims resting =>
    have unstopped : c.scene.pool.stopped = false := before
    refine ⟨by rw [unstopped], ?_⟩
    rcases h.fresh (Prod.ext resting unstopped) with marking | none
    · cases alone rfl _ marking rfl
    · simp [none]
  | opens =>
    obtain ⟨gate, none⟩ := before
    exact ⟨gate, by simp [none]⟩
  | spawns i more =>
    obtain ⟨gate, some⟩ := before
    exact ⟨gate, by simp [some, List.range_succ, Role.worker?]⟩
  | withdraws running =>
    have unstopped : c.scene.pool.stopped = false := by
      by_contra stopped
      exact h.apart (Prod.ext running (Bool.eq_true_of_not_eq_false stopped))
    exact congrArg (Prod.mk false) unstopped
  | ends g g' begun on still =>
    cases g' with
    | marking => exact absurd rfl still.2
    | _ => trivial
  | _ => trivial

theorem apart_moved (h : c.Orderly) (g : Gated c d k turn r r' more) : d.gate ≠ (true, true) := by
  have before := h.agrees r (List.mem_of_getElem? g.there)
  have gating := g.gating
  generalize d.gate = gate at gating ⊢
  cases gating with
  | claims resting =>
    have unstopped : c.scene.pool.stopped = false := before
    simp [unstopped]
  | withdraws running => simp
  | marks =>
    have closed : c.scene.pool.running = false := congrArg Prod.fst before
    simp [closed]
  | _ => exact h.apart

theorem fresh_moved (h : c.Orderly) (g : Gated c d k turn r r' more)
    (resting : d.gate = (false, false)) :
    .stop .marking ∈ d.roles ∨ d.staff = [] := by
  rcases g.gating.rests resting with rfl | ⟨gate, none | ⟨i, rfl⟩⟩
  · exact .inl g.self_mem
  · rcases h.fresh gate with marking | nobody
    · exact .inl (g.marking marking resting)
    · right
      rw [g.staff, nobody, none]
      rfl
  · have starts := (h.agrees _ (List.mem_of_getElem? g.there)).1
    have closed : c.gate = (false, false) := gate
    rw [starts] at closed
    cases closed

theorem moved (h : c.Orderly) (g : Gated c d k turn r r' more) : d.Orderly where
  one := by
    -- whoever calls after the step called before it
    have called (j : Nat) (q : Role) (hj : d.roles[j]? = some q) (on : q.isCalling = true) :
        ∃ q', c.roles[j]? = some q' ∧ q'.isCalling = true := by
      rw [g.roles] at hj
      rcases getElem?_set_append_cases hj with ⟨-, old⟩ | ⟨rfl, rfl⟩ | new
      · exact ⟨q, old, on⟩
      · exact ⟨r, g.there, g.gating.calling on⟩
      · obtain ⟨i, rfl⟩ := g.gating.of_mem new
        cases on
    intro j l q q' hj hl on on'
    obtain ⟨u, hu, calls⟩ := called j q hj on
    obtain ⟨u', hu', calls'⟩ := called l q' hl on'
    exact h.one j l u u' hu hu' calls calls'
  apart := h.apart_moved g
  fresh := h.fresh_moved g
  agrees := by
    intro q hq
    rcases g.mem_cases hq with ⟨j, ne, old⟩ | rfl | ⟨i, rfl⟩
    · by_cases on : q.isCalling = true
      · have off : r.isCalling = false := by
          by_contra calls
          exact ne (h.one j k q r old g.there on (Bool.eq_true_of_not_eq_false calls))
        obtain ⟨gate, none⟩ := g.gating.of_not_calling off
        have staff : d.staff = c.staff := by
          rw [g.staff, none]
          exact List.append_nil _
        rw [gate, staff]
        exact h.agrees q (List.mem_of_getElem? old)
      · exact Role.agrees_of_not_calling (Bool.eq_false_of_not_eq_true on) _ _
    · exact h.agrees_moved g
    · trivial

theorem entered (h : c.Orderly) (e : Entrance) (free : c.Waits (.enters e)) :
    (c.react (.enters e)).Orderly := by
  have off (j : Nat) (r : Role) (hj : c.roles[j]? = some r) (on : r.isCalling = true) : False := by
    rw [free r (List.mem_of_getElem? hj)] at on
    cases on
  have roles := c.roles_enter e
  refine ⟨?_, h.apart, ?_, ?_⟩
  · intro j k r r' hj hk on on'
    rw [roles] at hj hk
    rcases getElem?_concat_cases hj with old | ⟨rfl, rfl⟩
    · exact (off j r old on).elim
    · rcases getElem?_concat_cases hk with old | ⟨rfl, rfl⟩
      · exact (off k r' old on').elim
      · rfl
  · intro resting
    rw [staff_enter]
    rcases h.fresh resting with marking | none
    · cases free _ marking
    · exact .inr none
  · intro r hr
    rw [staff_enter]
    rw [roles, List.mem_append, List.mem_singleton] at hr
    rcases hr with old | rfl
    · exact h.agrees r old
    · cases e <;> trivial

theorem react (h : c.Orderly) (e : SceneEvent) (waits : c.Waits e) : (c.react e).Orderly := by
  cases e with
  | enters e => exact h.entered e waits
  | moves k turn =>
    rcases c.gated_of_moves k turn with none | ⟨r, r', more, g⟩
    · rwa [none]
    · exact h.moved g

end Orderly

theorem orderly_of_inTurn (es : List SceneEvent) (inTurn : (start workers listeners).InTurn es) :
    (run workers listeners es).Orderly := by
  induction es using List.reverseRecOn with
  | nil => exact orderly_start workers listeners
  | append_singleton es e ih =>
    obtain ⟨before, waits, -⟩ := inTurn_append.mp inTurn
    rw [run_snoc]
    exact (ih before).react e waits

/-- With an event a call to start the pool returns. -/
def StartReturns (c : Course) (e : SceneEvent) (k : Nat) (result : Except PoolError Unit) : Prop :=
  (∃ r, c.roles[k]? = some r ∧ r.isCalling = true) ∧
    (c.react e).roles[k]? = some (.start (.returned result))

theorem StartReturns.gated {e : SceneEvent} {result : Except PoolError Unit}
    (h : c.StartReturns e k result) :
    ∃ turn r more, e = .moves k turn ∧
      Gated c (c.react e) k turn r (.start (.returned result)) more ∧ r.isCalling = true := by
  obtain ⟨⟨r, hk, on⟩, after⟩ := h
  have moved (same : (c.react e).roles[k]? = c.roles[k]?) : False := by
    rw [same, hk] at after
    rw [Option.some.inj after] at on
    cases on
  cases e with
  | enters e =>
    refine (moved ?_).elim
    rw [roles_enter, List.getElem?_append_left (List.getElem?_eq_some_iff.mp hk).1]
  | moves j turn =>
    rcases c.gated_of_moves j turn with none | ⟨u, u', more, g⟩
    · exact (moved (by rw [none])).elim
    · by_cases same : k = j
      · subst same
        obtain rfl := Option.some.inj (hk.symm.trans g.there)
        rw [g.roles, getElem?_set_append_self g.there] at after
        obtain rfl := Option.some.inj after
        exact ⟨turn, r, more, rfl, g, on⟩
      · refine (moved ?_).elim
        rw [g.roles, getElem?_set_append_of_ne hk same, hk]

/-- A pool that was stopped and turns away all calls. Those that came when it had `n` threads or
more were told so. -/
structure Shut (n : Nat) (c : Course) : Prop where
  gate : c.gate = (false, true)
  new : ∀ (k : Nat) (r : Role), c.roles[k]? = some r → r.isCalling = true → r.isNew = true
  away : ∀ (k : Nat) (r : Role), c.roles[k]? = some r → n ≤ k → r.isTurnedAway = true

theorem Shut.react (h : Shut n c) (e : SceneEvent) : Shut n (c.react e) := by
  cases e with
  | enters e =>
    refine ⟨h.gate, forall_roles_enter h.new ?_, forall_roles_enter h.away ?_⟩
    · cases e <;> exact fun _ => rfl
    · cases e <;> exact fun _ => rfl
  | moves k turn =>
    rcases c.gated_of_moves k turn with none | ⟨r, r', more, g⟩
    · rwa [none]
    · obtain ⟨gate, new, away⟩ := g.gating.of_shut h.gate (h.new k r g.there)
      refine ⟨gate, g.forall_roles h.new (fun _ => new) fun _ _ => nofun, ?_⟩
      exact g.forall_roles h.away (fun before late => away (before late)) fun _ _ _ => rfl

/-- A pool of which the first `i` workers have a thread each, and for which no more threads will be
started. -/
structure Lame (i : Nat) (c : Course) : Prop where
  staff : c.staff = List.range i
  idle : ∀ (k : Nat) (r : Role), c.roles[k]? = some r → r.isStarting = false
  closed : c.gate = (false, false) → .stop .marking ∈ c.roles

theorem Lame.react {i : Nat} (h : Lame i c) (orderly : c.Orderly) (e : SceneEvent) :
    Lame i (c.react e) := by
  cases e with
  | enters e =>
    refine ⟨by rw [staff_enter, h.staff], forall_roles_enter h.idle ?_, ?_⟩
    · cases e <;> rfl
    · intro closed
      rw [roles_enter]
      exact List.mem_append_left _ (h.closed closed)
  | moves k turn =>
    rcases c.gated_of_moves k turn with none | ⟨r, r', more, g⟩
    · rwa [none]
    · -- a call that found the pool open and not running would be alone with it
      have taken (claims : r = .start .claiming) : c.scene.pool.running = true := by
        by_contra resting
        have there := claims ▸ g.there
        have unstopped : c.gate.2 = false := orderly.agrees _ (List.mem_of_getElem? there)
        have closed : c.gate = (false, false) :=
          Prod.ext (Bool.eq_false_of_not_eq_true resting) unstopped
        cases orderly.alone there rfl (h.closed closed) rfl
      obtain ⟨idle, none⟩ := g.gating.of_not_starting (h.idle k r g.there) taken
      refine ⟨?_, g.forall_roles h.idle (fun _ => idle) fun _ _ => rfl, ?_⟩
      · rw [g.staff, h.staff, none]
        exact List.append_nil _
      · intro resting
        rcases g.gating.rests resting with rfl | ⟨gate, -⟩
        · exact g.self_mem
        · exact g.marking (h.closed gate) resting

/-- A pool that runs and that nobody is about to stop. It has refused none of those who came when it
had `n` threads or more. -/
structure Ajar (n : Nat) (c : Course) : Prop where
  gate : c.gate = (true, false)
  calm : ∀ (k : Nat) (r : Role), c.roles[k]? = some r → r.isStopping = false
  welcome : ∀ (k : Nat) (r : Role), c.roles[k]? = some r → n ≤ k → r.isRefused = false

theorem Ajar.react (h : Ajar n c) {i : Nat} (lame : Lame i c) (e : SceneEvent)
    (lasts : e ≠ .enters .stops) : Ajar n (c.react e) := by
  cases e with
  | enters e =>
    refine ⟨h.gate, forall_roles_enter h.calm ?_, forall_roles_enter h.welcome ?_⟩
    · cases e with
      | stops => exact absurd rfl lasts
      | _ => rfl
    · cases e <;> exact fun _ => rfl
  | moves k turn =>
    rcases c.gated_of_moves k turn with none | ⟨r, r', more, g⟩
    · rwa [none]
    · obtain ⟨gate, calm, welcome⟩ :=
        g.gating.of_open h.gate (lame.idle k r g.there) (h.calm k r g.there)
      refine ⟨gate, g.forall_roles h.calm (fun _ => calm) fun _ _ => rfl, ?_⟩
      exact g.forall_roles h.welcome (fun before late => welcome (before late)) fun _ _ _ => rfl

section

variable {es : List SceneEvent}

theorem shut_run (h : Shut n (run workers listeners es)) (more : List SceneEvent) :
    Shut n (run workers listeners (es ++ more)) := by
  induction more using List.reverseRecOn with
  | nil => rwa [List.append_nil]
  | append_singleton more e ih =>
    rw [← List.append_assoc, run_snoc]
    exact ih.react e

theorem lame_run {i : Nat} (h : Lame i (run workers listeners es)) (more : List SceneEvent)
    (inTurn : (start workers listeners).InTurn (es ++ more)) :
    Lame i (run workers listeners (es ++ more)) := by
  induction more using List.reverseRecOn with
  | nil => rwa [List.append_nil]
  | append_singleton more e ih =>
    rw [← List.append_assoc] at inTurn ⊢
    have before := (inTurn_append.mp inTurn).1
    rw [run_snoc]
    exact (ih before).react (orderly_of_inTurn _ before) e

theorem ajar_run {i : Nat} (h : Ajar n (run workers listeners es))
    (lame : Lame i (run workers listeners es)) (more : List SceneEvent)
    (inTurn : (start workers listeners).InTurn (es ++ more)) (lasts : .enters .stops ∉ more) :
    Ajar n (run workers listeners (es ++ more)) := by
  induction more using List.reverseRecOn with
  | nil => rwa [List.append_nil]
  | append_singleton more e ih =>
    rw [← List.append_assoc] at inTurn ⊢
    have before := (inTurn_append.mp inTurn).1
    rw [List.mem_append, List.mem_singleton, not_or] at lasts
    rw [run_snoc]
    exact (ih before lasts.1).react (lame_run lame more before) e (Ne.symm lasts.2)

end

/-- A call to start the pool fails because the pool was stopped, or because a thread cannot be
started for the worker that is next; then its error tells the reason that the system gave. -/
theorem StartReturns.error_cases {e : SceneEvent} {error : PoolError}
    (h : c.StartReturns e k (.error error)) :
    ∃ turn r more, e = .moves k turn ∧
      Gated c (c.react e) k turn r (.start (.returned (.error error))) more ∧
      r.isCalling = true ∧ (c.react e).gate = c.gate ∧ more = [] ∧
        (error = .notRunning ∧ c.gate.2 = true ∨
          ∃ cause, turn = .noThread cause ∧ error = .noThread cause ∧
            ∃ i < c.scene.pool.size, r = .start (.spawning i)) := by
  obtain ⟨turn, r, more, moves, g, on⟩ := h.gated
  refine ⟨turn, r, more, moves, g, on, ?_⟩
  have gating := g.gating
  generalize (c.react e).gate = gate at gating ⊢
  cases gating with
  | owes => cases on
  | late stopped => exact ⟨rfl, rfl, .inl ⟨rfl, stopped⟩⟩
  | fails i cause more denied => exact ⟨rfl, rfl, .inr ⟨cause, denied, rfl, i, more, rfl⟩⟩

theorem threads_of_start_step (turn : Turn) {g g' : Starting} {q : Pool} {started : List Thread}
    (hk : c.scene.threads[k]? = some ⟨[], .start g⟩)
    (step : g.step c.scene.pool c.scene.threads.length turn = some (q, g', started)) :
    (c.react (.moves k turn)).scene.threads[k]? = some ⟨[], .start g'⟩ := by
  have moved : c.scene.step k turn =
      some (⟨q, c.scene.threads.set k ⟨[], .start g'⟩ ++ started⟩, []) := by
    simp [Scene.step, hk, Scene.advance, Scene.act, step]
  simp only [Course.react, moved]
  exact getElem?_set_append_self hk _

theorem exists_spawning {i : Nat} (inside : i ≤ workers) (listeners : List String) :
    ∃ es, (start workers listeners).InTurn es ∧
      (run workers listeners es).scene.threads[0]? = some ⟨[], .start (.spawning i)⟩ := by
  induction i with
  | zero =>
    refine ⟨[.enters .starts, .moves 0 .go, .moves 0 .go, .moves 0 .go], ?_, rfl⟩
    exact ⟨fun _ hr => absurd hr List.not_mem_nil, trivial, trivial, trivial, trivial⟩
  | succ i ih =>
    obtain ⟨es, inTurn, hk⟩ := ih (Nat.le_of_succ_le inside)
    have more : ¬ (run workers listeners es).scene.pool.size ≤ i := by
      rw [size_run]
      omega
    refine ⟨es ++ [.moves 0 .go], inTurn.moves 0 .go, ?_⟩
    rw [run_snoc]
    exact threads_of_start_step .go hk (if_neg more)

/-- A call to start a pool comes as far as each of its workers, and can fail there. -/
theorem exists_failed_start {i : Nat} (inside : i < workers) (listeners : List String)
    (cause : String) :
    ∃ es, (start workers listeners).InTurn (es ++ [.moves 0 (.noThread cause)]) ∧
      (run workers listeners es).roles[0]? = some (.start (.spawning i)) ∧
      (run workers listeners es).StartReturns (.moves 0 (.noThread cause)) 0
        (.error (.noThread cause)) := by
  obtain ⟨es, inTurn, hk⟩ := exists_spawning (Nat.le_of_lt inside) listeners
  have more : ¬ (run workers listeners es).scene.pool.size ≤ i := by
    rw [size_run]
    omega
  have after := threads_of_start_step (.noThread cause) hk (if_neg more)
  have before : (run workers listeners es).roles[0]? = some (.start (.spawning i)) := by
    simp [roles, hk]
  refine ⟨es, inTurn.moves 0 (.noThread cause), before, ⟨_, before, rfl⟩, ?_⟩
  simp [roles, after]

/-- When the call that was at work has returned, nobody calls the pool. -/
theorem Orderly.quiet (h : c.Orderly) (g : Gated c d k turn r r' more) (on : r.isCalling = true)
    (off : r'.isCalling = false) : ∀ q ∈ d.roles, q.isCalling = false := by
  intro q hq
  rcases g.mem_cases hq with ⟨j, ne, old⟩ | rfl | ⟨i, rfl⟩
  · by_contra calls
    exact ne (h.one j k q r old g.there (Bool.eq_true_of_not_eq_false calls) on)
  · exact off
  · rfl

section

variable (workers : Nat) (listeners : List String) (before after : List SceneEvent)

/-- A call to start the pool failed with the last event of `before`, and the pool was left not
running: it takes no jobs until it is started, and when a start has succeeded after all, every
worker has a thread. No job is fed to a worker without one. -/
structure SafeAfter : Prop where
  resting : (run workers listeners before).scene.pool.running = false
  refusing : .enters .starts ∉ after → ∀ k s g, (run workers listeners before).roles.length ≤ k →
    (run workers listeners (before ++ after)).roles[k]? = some (.give s g) →
      g = .entering ∨ g = .returned (.error .notRunning)
  complete : ∀ e k, (run workers listeners (before ++ after)).StartReturns e k (.ok ()) →
    ∀ i < workers, (run workers listeners (before ++ after ++ [e])).Awaited i
  served : ∀ e k i s, (run workers listeners (before ++ after)).Feeds e k i s →
    (run workers listeners (before ++ after)).Awaited i

/-- A call to start the pool failed with the last event of `before`, and left the pool with threads
for its first `i` workers. No other worker ever gets one. Until a call to stop the pool is made, the
pool counts as running, and nobody is refused. -/
structure LameAfter (i : Nat) : Prop where
  staff : (run workers listeners (before ++ after)).staff = List.range i
  forsaken : ∀ j, i ≤ j → ¬ (run workers listeners (before ++ after)).Awaited j
  running : .enters .stops ∉ after →
    (run workers listeners (before ++ after)).scene.pool.running = true
  welcome : .enters .stops ∉ after → ∀ k r, (run workers listeners before).roles.length ≤ k →
    (run workers listeners (before ++ after)).roles[k]? = some r → r.isRefused = false

end

theorem Lame.not_awaited {i j : Nat} (h : Lame i c) (hj : i ≤ j) : ¬ c.Awaited j := by
  rintro ⟨k, t, hk, works, -⟩
  have worker : j ∈ c.staff := by
    refine List.mem_filterMap.mpr ⟨t.role, ?_, works⟩
    exact List.mem_map_of_mem (List.mem_of_getElem? hk)
  rw [h.staff, List.mem_range] at worker
  omega

theorem Shut.not_feeds (h : Shut n c) (e : SceneEvent) (k i : Nat) (s : Submission Job) :
    ¬ c.Feeds e k i s := by
  rintro ⟨hk, -⟩
  have role : (.give s (.offering i (.feeding s))) ∈ c.roles :=
    List.mem_map_of_mem (f := Thread.role) (List.mem_of_getElem? hk)
  obtain ⟨j, hj⟩ := List.mem_iff_getElem?.mp role
  have new := h.new j _ hj rfl
  cases new

theorem Shut.not_startReturns (h : Shut n c) (e : SceneEvent) (k : Nat) :
    ¬ c.StartReturns e k (.ok ()) := by
  intro returns
  obtain ⟨turn, r, more, -, g, on⟩ := returns.gated
  have new := h.new k r g.there on
  have gating := g.gating
  generalize (c.react e).gate = gate at gating
  cases gating with
  | owes => cases on
  | _ => cases new

theorem Shut.safeAfter {before : List SceneEvent}
    (h : Shut (run workers listeners before).roles.length (run workers listeners before))
    (after : List SceneEvent) : SafeAfter workers listeners before after := by
  have later := shut_run h after
  refine ⟨congrArg Prod.fst h.gate, ?_, ?_, ?_⟩
  · intro _ k s g late hk
    have away := later.away k _ hk late
    cases g with
    | entering => exact .inl rfl
    | returned r =>
      cases r with
      | ok u => cases away
      | error e =>
        cases e with
        | notRunning => exact .inr rfl
        | _ => cases away
    | _ => cases away
  · intro e k returns
    exact (later.not_startReturns e k returns).elim
  · intro e k i s feeds
    exact (later.not_feeds e k i s feeds).elim

theorem Lame.lameAfter {before after : List SceneEvent} {i : Nat}
    (h : Lame i (run workers listeners before))
    (ajar : Ajar (run workers listeners before).roles.length (run workers listeners before))
    (inTurn : (start workers listeners).InTurn (before ++ after)) :
    LameAfter workers listeners before after i where
  staff := (lame_run h after inTurn).staff
  forsaken _ hj := (lame_run h after inTurn).not_awaited hj
  running lasts := congrArg Prod.fst (ajar_run ajar h after inTurn lasts).gate
  welcome lasts k r late hk := (ajar_run ajar h after inTurn lasts).welcome k r hk late

/-- A call to start the pool that comes after the pool was stopped leaves it shut. -/
theorem Orderly.shut (h : c.Orderly) (g : Gated c d k turn r r' more) (on : r.isCalling = true)
    (off : r'.isCalling = false) (same : d.gate = c.gate) (stopped : c.gate.2 = true) :
    Shut d.roles.length d := by
  have quiet := h.quiet g on off
  refine ⟨?_, ?_, ?_⟩
  · rw [same]
    refine Prod.ext ?_ stopped
    by_contra running
    exact h.apart (Prod.ext (Bool.eq_true_of_not_eq_false running) stopped)
  · intro j q hj calls
    rw [quiet q (List.mem_of_getElem? hj)] at calls
    cases calls
  · intro j q hj late
    exact absurd (List.getElem?_eq_some_iff.mp hj).1 (Nat.not_lt_of_le late)

/-- A call to start the pool that returns before it has started all threads leaves it lame and
open. -/
theorem Orderly.lame {i : Nat} (h : c.Orderly) (g : Gated c d k turn (.start (.spawning i)) r' [])
    (off : r'.isCalling = false) (same : d.gate = c.gate) : Lame i d ∧ Ajar d.roles.length d := by
  have quiet := h.quiet g rfl off
  obtain ⟨gate, staff⟩ := h.agrees _ (List.mem_of_getElem? g.there)
  have open_ : d.gate = (true, false) := same.trans gate
  refine ⟨⟨?_, ?_, ?_⟩, open_, ?_, ?_⟩
  · rw [g.staff, staff]
    exact List.append_nil _
  · intro j q hj
    exact Role.not_isStarting (quiet q (List.mem_of_getElem? hj))
  · intro closed
    rw [open_] at closed
    cases closed
  · intro j q hj
    exact Role.not_isStopping (quiet q (List.mem_of_getElem? hj))
  · intro j q hj late
    exact absurd (List.getElem?_eq_some_iff.mp hj).1 (Nat.not_lt_of_le late)

/-- What becomes of a pool after a call to start it has failed, when all calls are made in turn: it
is left not running exactly if it had been stopped before. If a thread could not be started for one
of its workers, the error tells why, the pool stays open, and it stays without threads for that
worker and those that follow. -/
theorem failed_start {es₁ es₂ : List SceneEvent} {e : SceneEvent} {error : PoolError}
    (inTurn : (start workers listeners).InTurn (es₁ ++ e :: es₂))
    (fails : (run workers listeners es₁).StartReturns e k (.error error)) :
    (SafeAfter workers listeners (es₁ ++ [e]) es₂ ↔ error = .notRunning) ∧
      (error ≠ .notRunning → ∃ cause, e = .moves k (.noThread cause) ∧ error = .noThread cause ∧
        ∃ i < workers, (run workers listeners es₁).roles[k]? = some (.start (.spawning i)) ∧
          LameAfter workers listeners (es₁ ++ [e]) es₂ i) := by
  have orderly := orderly_of_inTurn es₁ (inTurn_append.mp inTurn).1
  rw [List.append_cons] at inTurn
  have last := run_snoc workers listeners es₁ e
  obtain ⟨turn, r, more, rfl, g, on, same, rfl, kind⟩ := fails.error_cases
  rcases kind with ⟨rfl, stopped⟩ | ⟨cause, rfl, rfl, i, inside, rfl⟩
  · have shut := orderly.shut g on rfl same stopped
    rw [← last] at shut
    exact ⟨iff_of_true (shut.safeAfter es₂) rfl, fun other => absurd rfl other⟩
  · obtain ⟨lame, ajar⟩ := orderly.lame g rfl same
    rw [← last] at lame ajar
    rw [size_run] at inside
    refine ⟨iff_of_false ?_ nofun, fun _ => ⟨cause, rfl, rfl, i, inside, g.there, ?_⟩⟩
    · intro safe
      have running : (run workers listeners
          (es₁ ++ [.moves k (.noThread cause)])).scene.pool.running = true :=
        congrArg Prod.fst ajar.gate
      rw [safe.resting] at running
      cases running
    · exact lame.lameAfter ajar inTurn

/-- What the system says when it has no more threads to give. -/
def exhausted : String := "Resource temporarily unavailable (os error 11)"

theorem failed_start_second :
    ((start 2 []).InTurn ([.enters .starts, .moves 0 .go, .moves 0 .go, .moves 0 .go,
        .moves 0 .go] ++
          .moves 0 (.noThread exhausted) :: [.enters .starts, .moves 2 .go, .moves 2 .go]) ∧
      (run 2 [] [.enters .starts, .moves 0 .go, .moves 0 .go, .moves 0 .go,
        .moves 0 .go]).StartReturns (.moves 0 (.noThread exhausted)) 0
          (.error (.noThread exhausted))) ∧
      ∃ i < 2, LameAfter 2 [] ([.enters .starts, .moves 0 .go, .moves 0 .go, .moves 0 .go,
        .moves 0 .go] ++ [.moves 0 (.noThread exhausted)])
          [.enters .starts, .moves 2 .go, .moves 2 .go] i := by
  have inTurn : (start 2 []).InTurn ([.enters .starts, .moves 0 .go, .moves 0 .go, .moves 0 .go,
      .moves 0 .go] ++
        .moves 0 (.noThread exhausted) :: [.enters .starts, .moves 2 .go, .moves 2 .go]) := by
    decide +kernel
  have fails : (run 2 [] [.enters .starts, .moves 0 .go, .moves 0 .go, .moves 0 .go,
      .moves 0 .go]).StartReturns (.moves 0 (.noThread exhausted)) 0
        (.error (.noThread exhausted)) :=
    ⟨⟨_, rfl, rfl⟩, rfl⟩
  obtain ⟨-, -, -, i, inside, -, lame⟩ := (failed_start inTurn fails).2 nofun
  exact ⟨⟨inTurn, fails⟩, i, inside, lame⟩

/-- The thread of the only worker cannot be started. Then a job is given to the pool, and is put
into the slot of that worker. -/
theorem fed_to_nobody :
    (start 1 []).InTurn ([.enters .starts, .moves 0 .go, .moves 0 .go, .moves 0 .go] ++
        .moves 0 (.noThread exhausted) ::
          [.enters (.gives ⟨⟨"J1", 2, .blank⟩, "reserved"⟩), .moves 1 .go, .moves 1 .go,
            .moves 1 .go, .moves 1 .go, .moves 1 .go]) ∧
      (run 1 [] [.enters .starts, .moves 0 .go, .moves 0 .go, .moves 0 .go]).StartReturns
        (.moves 0 (.noThread exhausted)) 0 (.error (.noThread exhausted)) ∧
      ¬ SafeAfter 1 [] ([.enters .starts, .moves 0 .go, .moves 0 .go, .moves 0 .go] ++
        [.moves 0 (.noThread exhausted)])
          [.enters (.gives ⟨⟨"J1", 2, .blank⟩, "reserved"⟩), .moves 1 .go, .moves 1 .go,
            .moves 1 .go, .moves 1 .go, .moves 1 .go] := by
  refine ⟨by decide +kernel, ⟨⟨_, rfl, rfl⟩, rfl⟩, ?_⟩
  intro safe
  have feeds := safe.served (.moves 1 .go) 1 0 ⟨⟨"J1", 2, .blank⟩, "reserved"⟩ ⟨rfl, rfl⟩
  obtain ⟨k, t, hk, works, -⟩ := feeds
  have nobody : ∀ r ∈ (run 1 [] ([.enters .starts, .moves 0 .go, .moves 0 .go, .moves 0 .go] ++
      [.moves 0 (.noThread exhausted)] ++
        [.enters (.gives ⟨⟨"J1", 2, .blank⟩, "reserved"⟩), .moves 1 .go, .moves 1 .go,
          .moves 1 .go, .moves 1 .go, .moves 1 .go])).roles, r.worker? = none := by
    decide +kernel
  rw [nobody _ (List.mem_map_of_mem (List.mem_of_getElem? hk))] at works
  cases works

end Course

end JobDispatch

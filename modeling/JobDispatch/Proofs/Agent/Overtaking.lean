import JobDispatch.Proofs.Agent.Vigil

/-!
What a heartbeat misses. It drops what it is told when it knows that status already. A beat notes
what it read a while after it did so: what it is told in between may be dropped because of what it
knew before, and what it notes then is not true any more.
-/

namespace JobDispatch

namespace VigilMark

def isRead : VigilMark → Bool
  | read _ => true
  | _ => false

def isTurned : VigilMark → Bool
  | turned _ _ => true
  | _ => false

/-- The status of the pool after a mark, with that before it. -/
def follow (status : RunnerStatus) : VigilMark → RunnerStatus
  | turned _ s => s
  | _ => status

theorem follow_of_unturned {m : VigilMark} (h : m.isTurned = false) (status : RunnerStatus) :
    m.follow status = status := by
  cases m <;> first | rfl | cases h

end VigilMark

/-- Whether the task of a heartbeat has a status at hand that it read. -/
def HeartbeatAt.isBusy : HeartbeatAt → Bool
  | noting _ => true
  | pushing _ => true
  | _ => false

namespace Vigil

/-- The status of the pool after the marks of a log, with that before them. -/
def latest (status : RunnerStatus) (log : List VigilMark) : RunnerStatus :=
  log.foldl VigilMark.follow status

/-- The last beat read a status, and between that and its note the pool turned to another one, for
the last time, and the heartbeat was told of it. -/
def Overtaken (log : List VigilMark) : Prop :=
  ∃ before r a k s b c d, log = before ++ .read r :: (a ++ .turned k s :: (b ++ .told k s ::
      (c ++ .noted r :: d))) ∧ s ≠ r ∧ (∀ m ∈ a ++ b ++ c ++ d, m.isRead = false) ∧
    ∀ m ∈ b ++ c ++ d, m.isTurned = false

/-- The pool has turned, everything that the heartbeat has to be told it was told, and its task
sleeps without a cause to wake but the time. -/
structure Quiet (name : String) (v : Vigil) : Prop where
  turned : ∃ m ∈ v.log, m.isTurned = true
  told : ∀ k status, ¬ v.course.Owes name k status
  calm : v.heart.wake = false
  asleep : ∃ until_, v.heart.task = some (.asleep until_)

/-- All that a heartbeat was told is what it knows. -/
def AllKnown (known : Option RunnerStatus) (log : List VigilMark) : Prop :=
  ∀ k s, .told k s ∈ log → known = some s

/-- How far a heartbeat is with its last beat. After the beat noted its status, it knows nothing
else as long as nothing wakes it. -/
inductive Phase (task : Option HeartbeatAt) (wake : Bool) (known : Option RunnerStatus)
    (pushed : List RunnerStatus) (log : List VigilMark) : Prop
  | unread (none : ∀ m ∈ log, m.isRead = false) (free : task.any (·.isBusy) = false)
      (calm : wake = true ∨ task = some .reading ∨ known = .none ∧ AllKnown known log)
  | noting (before : List VigilMark) (r : RunnerStatus) (after : List VigilMark)
      (split : log = before ++ .read r :: after) (last : ∀ m ∈ after, m.isRead = false)
      (right : r = latest .idle before) (at_ : task = some (.noting r))
  | noted (before : List VigilMark) (r : RunnerStatus) (a d : List VigilMark)
      (split : log = before ++ .read r :: (a ++ .noted r :: d))
      (last : ∀ m ∈ a ++ d, m.isRead = false) (right : r = latest .idle before)
      (at_ : task = some (.pushing r) ∨
        task.any (·.isBusy) = false ∧ pushed.getLast? = some r)
      (calm : wake = true ∨ task = some .reading ∨ known = some r ∧ AllKnown known d)

/-- Whatever the pool turned to, the heartbeat was told of it then, or the thread still owes it. -/
def Covered (name : String) (c : Course) (log : List VigilMark) : Prop :=
  ∀ before k s after, log = before ++ .turned k s :: after →
    .told k s ∈ after ∨ ∃ p : PoolStatus, p.reported = s ∧ c.Owes name k p

/-- What is known of a vigil. -/
structure Kept (name : String) (v : Vigil) : Prop where
  listens : name ∈ v.course.scene.pool.listeners
  status : v.course.scene.pool.status.reported = latest .idle v.log
  covered : Covered name v.course v.log
  phase : Phase v.heart.task v.heart.wake v.heart.lastKnown v.pushed v.log

variable {v : Vigil} {name : String}

/-- All is quiet when the threads owe nothing and the task sleeps. -/
theorem Quiet.of_free (until_ : Nat) (turned : v.log.any (·.isTurned) = true)
    (free : (v.course.scene.threads.all fun t => t.duties.isEmpty) = true)
    (calm : v.heart.wake = false) (asleep : v.heart.task = some (.asleep until_)) :
    v.Quiet name := by
  refine ⟨List.any_eq_true.mp turned, ?_, calm, until_, asleep⟩
  rintro k status ⟨t, hk, owes⟩
  have none := List.all_eq_true.mp free t (List.mem_of_getElem? hk)
  rw [List.isEmpty_iff.mp none] at owes
  cases owes

theorem latest_snoc (status : RunnerStatus) (log : List VigilMark) (m : VigilMark) :
    latest status (log ++ [m]) = m.follow (latest status log) := by
  simp [latest]

theorem latest_append (status : RunnerStatus) (log more : List VigilMark) :
    latest status (log ++ more) = latest (latest status log) more := by
  simp [latest]

theorem latest_cons (status : RunnerStatus) (m : VigilMark) (log : List VigilMark) :
    latest status (m :: log) = latest (m.follow status) log := rfl

theorem latest_of_unturned {log : List VigilMark} (h : ∀ m ∈ log, m.isTurned = false)
    (status : RunnerStatus) : latest status log = status := by
  induction log with
  | nil => rfl
  | cons m log ih =>
    rw [latest_cons, VigilMark.follow_of_unturned (h m List.mem_cons_self)]
    exact ih fun m hm => h m (List.mem_cons_of_mem _ hm)

/-- A log that ends at another status than it begins with has a last turn to it. -/
theorem exists_turned_of_latest_ne {log : List VigilMark} {status : RunnerStatus}
    (h : latest status log ≠ status) : ∃ a k b, log = a ++ .turned k (latest status log) :: b ∧
      ∀ m ∈ b, m.isTurned = false := by
  induction log using List.reverseRecOn with
  | nil => exact absurd rfl h
  | append_singleton log m ih =>
    rw [latest_snoc] at h ⊢
    cases turned : m.isTurned with
    | true =>
      cases m <;> cases turned
      exact ⟨log, _, [], rfl, by simp⟩
    | false =>
      rw [VigilMark.follow_of_unturned turned] at h ⊢
      obtain ⟨a, k, b, split, last⟩ := ih h
      refine ⟨a, k, b ++ [m], (congrArg (· ++ [m]) split).trans (by simp), ?_⟩
      exact List.forall_mem_append.mpr ⟨last, List.forall_mem_singleton.mpr turned⟩

section

variable {task : Option HeartbeatAt} {wake : Bool} {known : Option RunnerStatus}
  {pushed : List RunnerStatus} {log : List VigilMark}

theorem AllKnown.snoc (h : AllKnown known log) {m : VigilMark}
    (heard : ∀ k s, m = .told k s → known = some s) : AllKnown known (log ++ [m]) := by
  intro k s told
  rcases List.mem_append.mp told with old | new
  · exact h k s old
  · exact heard k s (List.mem_singleton.mp new).symm

/-- A mark other than a read leaves a heartbeat in its phase, if what it is told wakes it or is
known already. -/
theorem Phase.mark (h : Phase task wake known pushed log) {m : VigilMark}
    (plain : m.isRead = false) {wake' : Bool} {known' : Option RunnerStatus}
    (heard : wake' = true ∨
      wake' = wake ∧ known' = known ∧ ∀ k s, m = .told k s → known = some s) :
    Phase task wake' known' pushed (log ++ [m]) := by
  have unread {l : List VigilMark} (none : ∀ n ∈ l, n.isRead = false) :
      ∀ n ∈ l ++ [m], n.isRead = false :=
    List.forall_mem_append.mpr ⟨none, List.forall_mem_singleton.mpr plain⟩
  have calm {l : List VigilMark} {knows : Option RunnerStatus}
      (before : wake = true ∨ task = some .reading ∨ known = knows ∧ AllKnown known l) :
      wake' = true ∨ task = some .reading ∨ known' = knows ∧ AllKnown known' (l ++ [m]) := by
    rcases heard with wake | ⟨rfl, rfl, heard⟩
    · exact .inl wake
    · exact before.imp id (Or.imp id (And.imp id fun all => all.snoc heard))
  cases h with
  | unread none free calm' => exact .unread (unread none) free (calm calm')
  | noting before r after split last right at_ =>
    exact .noting before r (after ++ [m]) (by simp [split]) (unread last) right at_
  | noted before r a d split last right at_ calm' =>
    refine .noted before r a (d ++ [m]) (by simp [split]) ?_ right at_ (calm calm')
    rw [← List.append_assoc]
    exact unread last

/-- Between its beats a heartbeat stays in its phase, unless it begins to read. -/
theorem Phase.between (h : Phase task wake known pushed log) {task' : Option HeartbeatAt}
    {wake' : Bool} (free : task.any (·.isBusy) = false) (free' : task'.any (·.isBusy) = false)
    (rest : task' = some .reading ∨ task ≠ some .reading ∧ wake' = wake) :
    Phase task' wake' known pushed log := by
  have calm {P : Prop} (before : wake = true ∨ task = some .reading ∨ P) :
      wake' = true ∨ task' = some .reading ∨ P := by
    rcases rest with reading | ⟨other, rfl⟩
    · exact .inr (.inl reading)
    · exact before.imp id (Or.imp (fun reading => absurd reading other) id)
  cases h with
  | unread none free calm' => exact .unread none free' (calm calm')
  | noting before r after split last right at_ =>
    rw [at_] at free
    cases free
  | noted before r a d split last right at_ calm' =>
    refine .noted before r a d split last right ?_ (calm calm')
    rcases at_ with at_ | ⟨-, done⟩
    · rw [at_] at free
      cases free
    · exact .inr ⟨free', done⟩

end

/-- A mark other than a turn leaves the turns covered, if the thread that owes less tells of it. -/
theorem Covered.mark {c c' : Course} {log : List VigilMark} (h : Covered name c log)
    {m : VigilMark} (unturned : m.isTurned = false)
    (owes : ∀ j p, c.Owes name j p → c'.Owes name j p ∨ m = .told j p.reported) :
    Covered name c' (log ++ [m]) := by
  intro before k s after split
  rcases split_snoc split with ⟨rfl, -, -⟩ | ⟨after, rfl, old⟩
  · cases unturned
  · rcases h before k s after old with told | ⟨p, rfl, owed⟩
    · exact .inl (List.mem_append_left _ told)
    · rcases owes k p owed with owed | rfl
      · exact .inr ⟨p, rfl, owed⟩
      · exact .inl List.mem_concat_self

theorem Kept.pool {w : Vigil} (h : v.Kept name) (step : PoolStep name v w)
    (listens : name ∈ w.course.scene.pool.listeners) : w.Kept name := by
  cases step with
  | passes c status owes =>
    refine ⟨listens, (congrArg _ status).trans h.status, ?_, h.phase⟩
    intro before k s after split
    exact (h.covered before k s after split).imp id fun ⟨p, same, owed⟩ =>
      ⟨p, same, owes k p owed⟩
  | turns c k status new owes own =>
    refine ⟨listens, ?_, ?_, h.phase.mark rfl (.inr ⟨rfl, rfl, by simp⟩)⟩
    · rw [latest_snoc, new]
      rfl
    · intro before j s after split
      rcases split_snoc split with ⟨same, -, rfl⟩ | ⟨after, rfl, old⟩
      · cases same
        exact .inr ⟨status, rfl, own⟩
      · exact (h.covered before j s after old).imp (List.mem_append_left _)
          fun ⟨p, same, owed⟩ => ⟨p, same, owes j p owed⟩
  | tells c k status same owes =>
    refine ⟨listens, ?_, ?_, ?_⟩
    · rw [latest_snoc, same]
      exact h.status
    · refine h.covered.mark rfl fun j p owed => (owes j p owed).imp id ?_
      rintro ⟨rfl, rfl⟩
      rfl
    · have phase := h.phase
      simp only [Heartbeat.edge]
      split_ifs with known
      · exact phase.mark rfl (.inr ⟨rfl, rfl, fun k s told => by cases told; exact known⟩)
      · exact phase.mark rfl (.inl rfl)

/-- What ends a sleep begins a beat, or another sleep, or it is the end. -/
theorem rouse_cases {h h' : Heartbeat} {now : Nat} {cause : Heartbeat.Cause}
    (roused : h.rouse now cause = some h') :
    (∃ until_, h.task = some (.asleep until_)) ∧ h'.lastKnown = h.lastKnown ∧
      (h'.task = some .reading ∨ h'.wake = h.wake ∧ h'.task.any (·.isBusy) = false) := by
  unfold Heartbeat.rouse at roused
  split at roused
  · next until_ asleep =>
    refine ⟨⟨until_, asleep⟩, ?_⟩
    cases cause with
    | shutdown =>
      simp only at roused
      split at roused
      · cases roused
      · cases roused
        refine ⟨rfl, .inr ⟨rfl, ?_⟩⟩
        simp only
        split_ifs <;> rfl
    | wake =>
      simp only at roused
      split_ifs at roused
      cases roused
      exact ⟨rfl, .inl rfl⟩
    | timer =>
      simp only at roused
      split_ifs at roused
      cases roused
      exact ⟨rfl, .inl rfl⟩
  · cases roused

theorem Kept.rouse (h : v.Kept name) (now : Nat) (cause : Heartbeat.Cause) :
    (v.react name (.rouses now cause)).Kept name := by
  refine ⟨h.listens, h.status, h.covered, ?_⟩
  have phase := h.phase
  simp only [react]
  cases roused : v.heart.rouse now cause with
  | none => exact phase
  | some heart =>
    obtain ⟨⟨until_, asleep⟩, known, rest⟩ := rouse_cases roused
    have free : v.heart.task.any (·.isBusy) = false := by rw [asleep]; rfl
    rw [Option.getD_some, known]
    rcases rest with reading | ⟨wake, free'⟩
    · exact phase.between free (by rw [reading]; rfl) (.inl reading)
    · exact phase.between free free' (.inr ⟨by simp [asleep], wake⟩)

theorem Kept.spawn (h : v.Kept name) (now : Nat) : (v.react name (.spawns now)).Kept name := by
  simp only [react]
  split_ifs with absent
  · refine ⟨h.listens, h.status, h.covered, ?_⟩
    exact h.phase.between (by rw [absent]; rfl) rfl (.inr ⟨by simp [absent], rfl⟩)
  · exact h

/-- A step of a beat. -/
theorem Kept.beat (h : v.Kept name) (now : Nat) : (v.react name (.beats now)).Kept name := by
  have marked {m : VigilMark} (unturned : m.isTurned = false) {heart : Heartbeat}
      {pushed : List RunnerStatus}
      (phase : Phase heart.task heart.wake heart.lastKnown pushed (v.log ++ [m])) :
      Kept name { v with heart, pushed, log := v.log ++ [m] } := by
    refine ⟨h.listens, ?_, h.covered.mark unturned fun _ _ owed => .inl owed, phase⟩
    rw [latest_snoc, VigilMark.follow_of_unturned unturned]
    exact h.status
  have status : v.course.scene.pool.runnerStatus = latest .idle v.log :=
    v.course.scene.pool.runnerStatus_eq.trans h.status
  have phase := h.phase
  cases task : v.heart.task with
  | none => simpa [react, Heartbeat.beatStep, task] using h
  | some at_ =>
    rw [task] at phase
    cases at_ with
    | reading =>
      simp only [react, Heartbeat.beatStep, task]
      exact marked rfl (.noting v.log _ [] rfl (by simp) status rfl)
    | noting s =>
      simp only [react, Heartbeat.beatStep, task]
      refine marked rfl ?_
      cases phase with
      | noting before r after split last right at_ =>
        cases at_
        exact .noted before s after [] (by simp [split]) (by simpa using last) right (.inl rfl)
          (.inr (.inr ⟨rfl, by simp [AllKnown]⟩))
      | unread none free => cases free
      | noted before r a d split last right at_ =>
        rcases at_ with at_ | ⟨free, -⟩
        · cases at_
        · cases free
    | pushing s =>
      simp only [react, Heartbeat.beatStep, task, Option.toList_some, List.flatMap_cons,
        HeartbeatAt.marks, List.flatMap_nil, List.append_nil]
      refine ⟨h.listens, h.status, h.covered, ?_⟩
      cases phase with
      | unread none free => cases free
      | noting before r after split last right at_ => cases at_
      | noted before r a d split last right at_ calm =>
        rcases at_ with at_ | ⟨free, -⟩
        · cases at_
          refine .noted before s a d split last right (.inr ⟨rfl, by simp⟩) ?_
          exact calm.imp id fun rest => rest.elim (fun reading => by cases reading) .inr
        · cases free
    | asleep until_ => simpa [react, Heartbeat.beatStep, task] using h
    | ended => simpa [react, Heartbeat.beatStep, task] using h

theorem Kept.react {workers : Nat} (h : v.Kept name) (metered : v.course.scene.Metered workers)
    (room : workers + v.course.scene.crew < 2 ^ 64) (e : VigilEvent) :
    (v.react name e).Kept name := by
  cases e with
  | scene e =>
    refine h.pool (react_scene metered room h.listens e) ?_
    rcases v.react_course name (.scene e) with same | ⟨e', -, after⟩
    · rw [same]
      exact h.listens
    · rw [after, Course.react_listeners]
      exact h.listens
  | spawns now => exact h.spawn now
  | rouses now cause => exact h.rouse now cause
  | beats now => exact h.beat now
  | signals value => exact ⟨h.listens, h.status, h.covered, h.phase⟩

variable {workers : Nat} {listeners : List String} {interval : Nat}

theorem run_snoc (es : List VigilEvent) (e : VigilEvent) :
    run name workers listeners interval (es ++ [e]) =
      (run name workers listeners interval es).react name e := by
  simp [run, List.foldl_append]

theorem kept_run (pos : 0 < workers) (listens : name ∈ listeners) (es : List VigilEvent)
    (room : workers + (run name workers listeners interval es).course.scene.crew < 2 ^ 64) :
    (run name workers listeners interval es).course.scene.Metered workers ∧
      (run name workers listeners interval es).Kept name := by
  induction es using List.reverseRecOn with
  | nil =>
    refine ⟨Scene.metered_start workers listeners, listens, ?_, ?_, ?_⟩
    · change ((Course.start workers listeners).scene.pool.status).reported = _
      rw [Course.status_start pos (Nat.lt_of_add_right_lt room)]
      rfl
    · intro before k s after split
      simp [run, start] at split
    · exact .unread (by simp [run, start]) rfl (.inr (.inr ⟨rfl, by simp [run, start, AllKnown]⟩))
  | append_singleton es e ih =>
    rw [run_snoc] at room ⊢
    generalize run name workers listeners interval es = v at ih room ⊢
    have course := v.react_course name e
    have before : workers + v.course.scene.crew < 2 ^ 64 := by
      rcases course with same | ⟨e', -, after⟩
      · rwa [same] at room
      · rw [after] at room
        exact (Nat.add_le_add_left (Course.crew_react _ e') workers).trans_lt room
    -- the meters are right, so that the status changes only when a thread owes the telling of it
    obtain ⟨metered, kept⟩ := ih before
    refine ⟨?_, kept.react metered before e⟩
    rcases course with same | ⟨e', -, after⟩
    · rwa [same]
    · rw [after]
      exact Course.metered_react metered e'

/-- The last element of a kind is one and the same. -/
theorem last_unique {α : Type} {p : α → Bool} {a b c d : List α} {x y : α}
    (h : a ++ x :: b = c ++ y :: d) (hx : p x = true) (hy : p y = true)
    (hb : ∀ z ∈ b, p z = false) (hd : ∀ z ∈ d, p z = false) : x = y := by
  rcases List.append_eq_append_iff.mp h with ⟨e, -, he⟩ | ⟨e, -, he⟩
  · cases e with
    | nil => exact (List.cons.inj he).1
    | cons z e =>
      have later : y ∈ b := by simp [(List.cons.inj he).2]
      rw [hb y later] at hy
      cases hy
  · cases e with
    | nil => exact (List.cons.inj he).1.symm
    | cons z e =>
      have later : x ∈ d := by simp [(List.cons.inj he).2]
      rw [hd x later] at hx
      cases hx

/-- A heartbeat that noted what it read and was told of all that the pool turned to since, missed
the last turn exactly if it was overtaken. -/
theorem latest_ne_iff {c : Course} {before a d : List VigilMark} {r : RunnerStatus}
    (covered : Covered name c (before ++ .read r :: (a ++ .noted r :: d)))
    (told : ∀ k status, ¬ c.Owes name k status) (last : ∀ m ∈ a ++ d, m.isRead = false)
    (right : r = latest .idle before) (later : ∀ k s, .told k s ∈ d → s = r) :
    latest .idle (before ++ .read r :: (a ++ .noted r :: d)) ≠ r ↔
      Overtaken (before ++ .read r :: (a ++ .noted r :: d)) := by
  have since : latest .idle (before ++ .read r :: (a ++ .noted r :: d)) =
      latest r (a ++ .noted r :: d) := by
    rw [latest_append, ← right, latest_cons]
    rfl
  constructor
  · rw [since]
    intro other
    obtain ⟨x, k, y, split, unturned⟩ := exists_turned_of_latest_ne other
    generalize latest r (a ++ .noted r :: d) = s at other split
    have heard : .told k s ∈ y := by
      refine (covered (before ++ .read r :: x) k s y ?_).elim id ?_
      · rw [split]
        simp
      · rintro ⟨p, -, owed⟩
        exact absurd owed (told k p)
    rcases List.append_eq_append_iff.mp split with ⟨e, rfl, he⟩ | ⟨e, rfl, he⟩
    · -- the turn comes after the note, and so does the telling of it
      cases e with
      | nil => cases he
      | cons m e =>
        obtain ⟨-, rfl⟩ := List.cons.inj he
        exact absurd (later k s (by simp [heard])) other
    · cases e with
      | nil => cases he
      | cons m e =>
        obtain ⟨rfl, rfl⟩ := List.cons.inj he
        have early : .told k s ∈ e := by
          rcases List.mem_append.mp heard with early | late
          · exact early
          · rcases List.mem_cons.mp late with same | late
            · cases same
            · exact absurd (later k s late) other
        obtain ⟨b, c', rfl⟩ := List.append_of_mem early
        refine ⟨before, r, x, k, s, b, c', d, by simp, other, ?_, ?_⟩
        · simp only [List.forall_mem_append, List.forall_mem_cons] at last ⊢
          exact ⟨⟨⟨last.1.1, last.1.2.2.1⟩, last.1.2.2.2.2⟩, last.2⟩
        · simp only [List.append_eq, List.forall_mem_append, List.forall_mem_cons] at unturned ⊢
          exact ⟨⟨unturned.1.1, unturned.1.2.2⟩, unturned.2.2⟩
  · rintro ⟨before', r', a', k, s, b', c', d', split, other, unread, unturned⟩
    simp only [List.forall_mem_append] at last unread unturned
    obtain ⟨⟨⟨ua, ub⟩, uc⟩, ud⟩ := unread
    obtain ⟨⟨tb, tc⟩, td⟩ := unturned
    have same : VigilMark.read r = VigilMark.read r' := by
      refine last_unique split (p := VigilMark.isRead) rfl rfl ?_ ?_
      · simp only [List.forall_mem_append, List.forall_mem_cons]
        exact ⟨last.1, rfl, last.2⟩
      · simp only [List.forall_mem_append, List.forall_mem_cons]
        exact ⟨ua, rfl, ub, rfl, uc, rfl, ud⟩
    cases same
    have still : ∀ m ∈ b' ++ .told k s :: (c' ++ .noted r :: d'), m.isTurned = false := by
      simp only [List.forall_mem_append, List.forall_mem_cons]
      exact ⟨tb, rfl, tc, rfl, td⟩
    calc latest .idle (before ++ .read r :: (a ++ .noted r :: d))
        = latest s (b' ++ .told k s :: (c' ++ .noted r :: d')) := by
          rw [split, latest_append, latest_cons, latest_append, latest_cons, VigilMark.follow]
      _ = s := latest_of_unturned still s
      _ ≠ r := other

/-- When all is quiet after the pool turned for the first time, a heartbeat has pushed the status
of the pool last, unless its last beat was overtaken. -/
theorem pushed_current_iff (pos : 0 < workers) (listens : name ∈ listeners) (es : List VigilEvent)
    (room : workers + (run name workers listeners interval es).course.scene.crew < 2 ^ 64)
    (quiet : (run name workers listeners interval es).Quiet name) :
    (run name workers listeners interval es).pushed.getLast? =
        some (run name workers listeners interval es).course.scene.pool.runnerStatus ↔
      ¬ Overtaken (run name workers listeners interval es).log := by
  have kept := (kept_run pos listens es room).2
  generalize run name workers listeners interval es = v at quiet kept
  obtain ⟨until_, asleep⟩ := quiet.asleep
  have phase := kept.phase
  rw [asleep, quiet.calm] at phase
  cases phase with
  | unread none free calm =>
    -- the pool turned, but the heartbeat was neither told nor will it be
    obtain ⟨m, hm, turned⟩ := quiet.turned
    obtain ⟨before, after, split⟩ := List.append_of_mem hm
    cases m with
    | turned k s =>
      rcases calm with wake | reading | ⟨nothing, all⟩
      · cases wake
      · cases reading
      · rcases kept.covered before k s after split with told | ⟨p, -, owed⟩
        · have known := all k s (by rw [split]; simp [told])
          rw [nothing] at known
          cases known
        · exact absurd owed (quiet.told k p)
    | _ => cases turned
  | noting before r after split last right at_ => cases at_
  | noted before r a d split last right at_ calm =>
    have pushed : v.pushed.getLast? = some r := at_.elim (fun at_ => by cases at_) (·.2)
    have later : ∀ k s, .told k s ∈ d → s = r := by
      rcases calm with wake | reading | ⟨knows, all⟩
      · cases wake
      · cases reading
      · exact fun k s told => Option.some.inj ((all k s told).symm.trans knows)
    have missed := latest_ne_iff (split ▸ kept.covered) quiet.told last right later
    rw [pushed, v.course.scene.pool.runnerStatus_eq, kept.status, split, ← missed, not_not,
      Option.some_inj, eq_comm]

/-- A thread of the pool takes so many steps. -/
def turns (k count : Nat) : List VigilEvent := List.replicate count (.scene (.moves k .go))

/-- A pool of two workers is started, the heartbeat pushes that it is idle, and a worker gets a
job. -/
def opening : List VigilEvent :=
  .scene (.enters .starts) :: turns 0 6 ++
    [.spawns 0, .rouses 10 .timer, .beats 10, .beats 10, .beats 10,
      .scene (.enters (.gives ⟨⟨"J1", 1, .blank⟩, "first"⟩))] ++ turns 3 7 ++ turns 1 2

/-- The other worker gets a job too. The heartbeat is told, and pushes that the pool is full. -/
def followed : List VigilEvent :=
  opening ++ .scene (.enters (.gives ⟨⟨"J2", 1, .blank⟩, "second"⟩)) :: turns 4 8 ++
    [.rouses 11 .wake, .beats 11, .beats 11, .beats 11]

theorem pushed_followed :
    (run "heartbeat" 2 ["heartbeat"] 10 followed).Quiet "heartbeat" ∧
      (run "heartbeat" 2 ["heartbeat"] 10 followed).pushed = [.idle, .running] ∧
      ¬ Overtaken (run "heartbeat" 2 ["heartbeat"] 10 followed).log := by
  have quiet : (run "heartbeat" 2 ["heartbeat"] 10 followed).Quiet "heartbeat" :=
    .of_free 21 (by decide +kernel) (by decide +kernel) (by decide +kernel)
      (by decide +kernel)
  refine ⟨quiet, by decide +kernel, ?_⟩
  exact (pushed_current_iff (by decide) (by decide) followed (by decide +kernel) quiet).mp
    (by decide +kernel)

/-- The other worker gets a job too, and a beat reads that the pool is full before the heartbeat is
told. The first worker is done, and tells that the pool accepts: the heartbeat still knows that from
its first beat. It notes that the pool is full, and knows that when it is told at last. -/
def overtaken : List VigilEvent :=
  opening ++ .scene (.enters (.gives ⟨⟨"J2", 1, .blank⟩, "second"⟩)) :: turns 4 6 ++
    [.rouses 20 .timer, .beats 20, .scene (.moves 1 (.processed .panicked))] ++ turns 1 5 ++
    .beats 20 :: turns 4 2 ++ [.beats 20]

theorem stale_overtaken :
    (run "heartbeat" 2 ["heartbeat"] 10 overtaken).Quiet "heartbeat" ∧
      (run "heartbeat" 2 ["heartbeat"] 10 overtaken).pushed = [.idle, .running] ∧
      (run "heartbeat" 2 ["heartbeat"] 10 overtaken).course.scene.pool.runnerStatus = .idle :=
  ⟨.of_free 30 (by decide +kernel) (by decide +kernel) (by decide +kernel)
    (by decide +kernel), by decide +kernel, by decide +kernel⟩

end Vigil

end JobDispatch

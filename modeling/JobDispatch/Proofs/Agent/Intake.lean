import JobDispatch.Proofs.Agent.Giving
import JobDispatch.Proofs.Agent.Program
import JobDispatch.Proofs.Agent.Stranding

/-!
Intakes: one task polls for a pool that runs, and nobody else gives jobs to it. Between two steps of
the task the workers go on as they like. As long as no job is handed out that is still in flight
here, the pool accepts all that was reserved, and no job is reported without having been run.
-/

namespace JobDispatch

/-- How far a poll is with the next job. -/
inductive PollStage where
  | empty
  /-- a worker was seen idle -/
  | ready
  | holding (job : Job)

def PollStage.job? : PollStage → Option Job
  | holding job => some job
  | _ => none

namespace Program

variable {α β γ : Type}

theorem bind_assoc (p : Program α) (f : α → Program β) (g : β → Program γ) :
    (p >>= f) >>= g = p >>= fun a => f a >>= g := by
  induction p with
  | ends a => rfl
  | asks q next ih => exact congrArg (asks q) (funext ih)

/-- Programs that reserve a job only after they have seen an idle worker, give it to the pool at
once, and look again before they reserve another. What they do with a job that is refused is left
open. -/
inductive Prudent : PollStage → Program α → Prop
  | ends {stage : PollStage} (a : α) (free : stage.job? = none) : Prudent stage (.ends a)
  | looks (next : Bool → Program α) (idle : Prudent .ready (next true))
      (busy : Prudent .empty (next false)) : Prudent .empty (.asks .looking next)
  | lists (params : JobParams) (window : Nat) (next : Except RegistryError (List Job) → Program α)
      (after : ∀ a, Prudent .ready (next a)) : Prudent .ready (.asks (.listing params window) next)
  | reserves (id : String) (v : Nat) (next : Except RegistryError Job → Program α)
      (got : ∀ job, Prudent (.holding job) (next (.ok job)))
      (lost : ∀ e, Prudent .ready (next (.error e))) :
      Prudent .ready (.asks (.patching id (.reserve v)) next)
  | gives (job : Job) (next : Except PoolError Unit → Program α)
      (accepted : Prudent .empty (next (.ok ()))) :
      Prudent (.holding job) (.asks (.giving job) next)

theorem prudent_reserveFirst {k : Option Job → Program α} (cs : List Job)
    (got : ∀ job, Prudent (.holding job) (k (some job))) (none : Prudent .ready (k none)) :
    Prudent .ready (desk.reserveFirst cs >>= k) := by
  induction cs with
  | nil => exact none
  | cons c cs ih =>
    refine .reserves c.id c.version _ ?_ ?_
    · exact got
    · intro e
      exact ih

theorem prudent_nextJob {k : Except RegistryError (Option Job) → Program α} (rules : DeskRules)
    (got : ∀ job, Prudent (.holding job) (k (.ok (some job))))
    (none : Prudent .ready (k (.ok none))) (lost : ∀ e, Prudent .ready (k (.error e))) :
    Prudent .ready (desk.nextJob rules >>= k) := by
  refine .lists rules.params rules.window _ ?_
  intro a
  cases a with
  | error e => exact lost e
  | ok cs =>
    change Prudent _ ((desk.reserveFirst cs >>= fun job => ends (.ok job)) >>= k)
    rw [bind_assoc]
    exact prudent_reserveFirst cs got none

theorem prudent_pollFrom (rules : DeskRules) (size room dispatched : Nat) :
    Prudent .empty ((dispatch rules size).pollFrom room dispatched) := by
  induction room generalizing dispatched with
  | zero => exact .ends _ rfl
  | succ room ih =>
    refine .looks _ ?_ (.ends _ rfl)
    refine prudent_nextJob rules ?_ (.ends _ rfl) fun e => .ends _ rfl
    intro job
    exact .gives job _ (ih (dispatched + 1))

theorem prudent_poll (rules : DeskRules) (size : Nat) : Prudent .empty (poll rules size) :=
  prudent_pollFrom rules size size 0

/-- The job that a program gives to the pool next. -/
def offered : Program α → Option Job
  | asks (.giving job) _ => some job
  | _ => none

theorem Prudent.offered_eq {stage : PollStage} {p : Program α} (h : Prudent stage p) :
    p.offered = stage.job? := by
  cases h with
  | ends a free => exact free.symm
  | _ => rfl

end Program

/-- Where the task is that polls. -/
inductive PollerAt where
  | free
  /-- it looks for an idle worker, at the one of an index next -/
  | looking (worker : Nat)
  /-- it waits for the call that gives a job to the pool -/
  | giving (thread : Nat)

/-- A pool and the task that polls for it, with the jobs that it reserved and those that it gave to
the pool, each with the answer. -/
structure Intake where
  rules : DeskRules
  course : Course
  /-- what is left of the poll at hand -/
  poll : Program (Except FatalError Nat)
  at_ : PollerAt
  reserved : List Job
  given : List (Job × Except PoolError Unit)

inductive IntakeEvent where
  | opens
  | moves (thread : Nat) (turn : Turn)
  | polls
  /-- the task makes its next step; what it asks others is answered -/
  | proceeds (reply : (q : Ask) → q.Answer)

/-- Nothing but a call to stop the pool keeps it from running on. -/
theorem Starting.step_running {p q : Pool} {threads : Nat} {turn : Turn} {g g' : Starting}
    {started : List Thread} (h : g.step p threads turn = some (q, g', started))
    (running : p.running = true) : q.running = true := by
  cases g with
  | checking =>
    cases h
    exact running
  | claiming =>
    rw [step, if_pos running] at h
    cases h
    exact running
  | opening =>
    simp only [step] at h
    split_ifs at h
    cases h
    exact running
  | spawning i =>
    simp only [step] at h
    split_ifs at h
    · cases h
      exact running
    · cases turn <;> cases h <;> exact running
  | returned r => cases h

theorem Pool.releaseOrKeep_running (p : Pool) (id : String) :
    (p.releaseOrKeep id).1.running = p.running := by
  unfold releaseOrKeep release
  cases p.locks.release id <;> rfl

theorem Duty.perform_running (d : Duty) (p : Pool) : (d.perform p).1.running = p.running := by
  cases d with
  | release id => exact p.releaseOrKeep_running id
  | _ => rfl

theorem Scene.advance_running {s : Scene} {turn : Turn} {t : Thread} {x : Progressed}
    (h : s.advance turn t = some x) (unstopped : ∀ g, t.role ≠ .stop g)
    (running : s.pool.running = true) : x.pool.running = true := by
  cases advance_deed h with
  | counts d ds role other => exact (d.perform_running s.pool).trans running
  | releases id ds role => exact (s.pool.releaseOrKeep_running id).trans running
  | givesUp sub i submitter none => exact (s.pool.releaseOrKeep_running _).trans running
  | starts g g' q started =>
    obtain ⟨⟨pool, g', started⟩, hg, eq⟩ := Option.map_eq_some_iff.mp h
    cases eq
    exact Starting.step_running hg running
  | stops g g' q => exact absurd rfl (unstopped g)
  | _ => exact running

namespace Intake

def start (rules : DeskRules) (workers : Nat) (listeners : List String) : Intake :=
  ⟨rules, .start workers listeners, .ends (.ok 0), .free, [], []⟩

def scene (x : Intake) : Scene := x.course.scene

/-- The task looks for an idle worker, at one after the other. -/
def look (x : Intake) (next : Bool → Program (Except FatalError Nat)) : Intake :=
  match x.at_ with
  | .looking i =>
    match x.scene.pool.workers[i]? with
    | none => { x with poll := next false, at_ := .free }
    | some w =>
      if w.isIdle then { x with poll := next true, at_ := .free }
      else { x with at_ := .looking (i + 1) }
  | _ => { x with at_ := .looking 0 }

/-- The task gives a job to the pool, and goes on when the call has returned. -/
def give (x : Intake) (job : Job) (next : Except PoolError Unit → Program (Except FatalError Nat)) :
    Intake :=
  match x.at_ with
  | .giving k =>
    match x.scene.threads[k]? with
    | some ⟨[], .give _ (.returned r)⟩ =>
      { x with poll := next r, at_ := .free, given := x.given ++ [(job, r)] }
    | _ => x
  | _ => { x with
    course := x.course.react (.enters (.gives ⟨job, "reserved"⟩))
    at_ := .giving x.scene.threads.length }

/-- A patch of the task is answered. -/
def patch (x : Intake) (p : JobPatch) (a : Except RegistryError Job)
    (next : Except RegistryError Job → Program (Except FatalError Nat)) : Intake :=
  { x with
    poll := next a
    reserved := x.reserved ++ if p.reserves then a.toOption.toList else [] }

/-- The next step of the task. -/
def proceed (x : Intake) (reply : (q : Ask) → q.Answer) : Intake :=
  match x.poll with
  | .ends _ => x
  | .asks .looking next => x.look next
  | .asks (.giving job) next => x.give job next
  | .asks (.patching id p) next => x.patch p (reply (.patching id p)) next
  | .asks q next => { x with poll := next (reply q) }

/-- What an event makes of an intake. A poll begins when the last one is over, and the pool runs. -/
def react (x : Intake) : IntakeEvent → Intake
  | .opens => { x with course := x.course.react (.enters .starts) }
  | .moves k turn => { x with course := x.course.react (.moves k turn) }
  | .polls =>
    match x.poll with
    | .ends _ =>
      if x.scene.pool.running then { x with poll := Program.poll x.rules x.scene.pool.size } else x
    | _ => x
  | .proceeds reply => x.proceed reply

def run (rules : DeskRules) (workers : Nat) (listeners : List String) (es : List IntakeEvent) :
    Intake :=
  es.foldl react (start rules workers listeners)

/-- The job that the registry hands out with an event. -/
def handsOut (x : Intake) : IntakeEvent → Option Job
  | .proceeds reply =>
    match x.poll with
    | .asks (.patching id p) _ =>
      if p.reserves then Except.toOption (reply (.patching id p)) else none
    | _ => none
  | _ => none

/-- No job is handed out whose identity is that of a job in flight here. -/
def Fresh (x : Intake) : List IntakeEvent → Prop
  | [] => True
  | e :: es => (∀ job ∈ x.handsOut e, job.id ∉ x.scene.inFlight) ∧ (x.react e).Fresh es

instance decidableFresh : (x : Intake) → (es : List IntakeEvent) → Decidable (x.Fresh es)
  | _, [] => inferInstanceAs (Decidable True)
  | x, e :: es =>
    have := decidableFresh (x.react e) es
    inferInstanceAs (Decidable ((∀ job ∈ x.handsOut e, job.id ∉ x.scene.inFlight) ∧ _))

/-- Whether the task waits for no call to the pool. -/
def Unbound (x : Intake) : Prop := ∀ k, x.at_ ≠ .giving k

/-- What the task can rely on at a stage of its poll: when it has seen an idle worker there is one
still, and the job that it holds is not locked; once it gives the job to the pool, the call is
welcome. -/
def Ready (x : Intake) : PollStage → Prop
  | .empty => x.Unbound
  | .ready => x.Unbound ∧ x.scene.pool.IdleFrom 0
  | .holding job =>
    x.Unbound ∧ job.id ∉ x.scene.pool.locks.ids ∧ x.scene.pool.IdleFrom 0 ∨
      ∃ k ds g, x.at_ = .giving k ∧ x.scene.threads[k]? = some ⟨ds, .give ⟨job, "reserved"⟩ g⟩ ∧
        g.Welcome x.scene.pool ⟨job, "reserved"⟩

/-- What is known of an intake. There is one call at most that gives a job and has not returned,
the one that the task waits for; all others were accepted. -/
structure Kept (x : Intake) : Prop where
  scene : x.scene.Kept
  unstopped : ∀ t ∈ x.scene.threads, ∀ g, t.role ≠ .stop g
  running : (∀ r, x.poll ≠ .ends r) → x.scene.pool.running = true
  calls : ∀ (k : Nat) (t : Thread), x.scene.threads[k]? = some t → t.role.gives = true →
    x.at_ = .giving k ∨ ∃ s, t = ⟨[], .give s (.returned (.ok ()))⟩
  stage : ∃ stage, Program.Prudent stage x.poll ∧ x.Ready stage
  accepted : ∀ g ∈ x.given, g.2 = .ok ()
  handed : x.reserved = x.given.map Prod.fst ++ x.poll.offered.toList

variable {x : Intake}

theorem kept_start (rules : DeskRules) (workers : Nat) (listeners : List String) :
    (start rules workers listeners).Kept where
  scene := Scene.kept_start workers listeners
  unstopped _ ht := absurd ht List.not_mem_nil
  running ended := absurd rfl (ended _)
  calls _ _ hk := absurd (List.mem_of_getElem? hk) List.not_mem_nil
  stage := ⟨.empty, .ends _ rfl, fun _ => nofun⟩
  accepted _ hg := absurd hg List.not_mem_nil
  handed := rfl

/-- While the task waits for a call, it holds the job that the call gives. -/
theorem Ready.of_giving {stage : PollStage} {k : Nat} (h : x.Ready stage)
    (at_ : x.at_ = .giving k) : ∃ job ds g, stage = .holding job ∧
      x.scene.threads[k]? = some ⟨ds, .give ⟨job, "reserved"⟩ g⟩ ∧
        g.Welcome x.scene.pool ⟨job, "reserved"⟩ := by
  cases stage with
  | empty => exact absurd at_ (h k)
  | ready => exact absurd at_ (h.1 k)
  | holding job =>
    rcases h with ⟨unbound, -⟩ | ⟨j, ds, g, at', hj, welcome⟩
    · exact absurd at_ (unbound k)
    · obtain rfl : j = k := by
        rw [at_] at at'
        cases at'
        rfl
      exact ⟨job, ds, g, rfl, hj, welcome⟩

/-- What the others do leaves the task what it relies on. -/
theorem Ready.congr {y : Intake} {stage : PollStage} (h : x.Ready stage) (at_ : y.at_ = x.at_)
    (idle : ∀ i, x.scene.pool.IdleFrom i → y.scene.pool.IdleFrom i)
    (locks : y.scene.pool.locks.ids ⊆ x.scene.pool.locks.ids)
    (welcome : ∀ s (g : Giving), g.Welcome x.scene.pool s → g.Welcome y.scene.pool s)
    (calls : ∀ (k : Nat) (t : Thread), x.scene.threads[k]? = some t → t.role.gives = true →
      y.scene.threads[k]? = some t) : y.Ready stage := by
  have unbound (h : x.Unbound) : y.Unbound := fun k => at_ ▸ h k
  cases stage with
  | empty => exact unbound h
  | ready => exact ⟨unbound h.1, idle 0 h.2⟩
  | holding job =>
    rcases h with ⟨free, unlocked, some⟩ | ⟨k, ds, g, waits, hk, expected⟩
    · exact .inl ⟨unbound free, fun held => unlocked (locks held), idle 0 some⟩
    · exact .inr ⟨k, ds, g, at_.trans waits, calls k _ hk rfl, welcome _ g expected⟩

theorem Ready.step {stage : PollStage} (h : x.Ready stage) {k : Nat} {turn : Turn} {t : Thread}
    {u : Progressed} (hk : x.scene.threads[k]? = some t) (deed : Deed x.scene.pool turn t u)
    (other : t.role.gives = false) {c : Course}
    (after : c.scene = ⟨u.pool, x.scene.threads.set k u.thread ++ u.started⟩) :
    ({ x with course := c } : Intake).Ready stage := by
  have scene : ({ x with course := c } : Intake).scene = _ := after
  refine h.congr rfl ?_ ?_ ?_ ?_
  · intro i some
    rw [scene]
    refine some.congr deed.size.1 ?_
    intro j idle
    rw [deed.status_eq other j (by simp [idle]), idle]
  · rw [scene]
    exact deed.locks_subset other
  · intro s g welcome
    rw [scene]
    exact deed.welcome_other other welcome
  · intro j v hj gives
    have ne : j ≠ k := by
      rintro rfl
      obtain rfl := Option.some.inj (hj.symm.trans hk)
      rw [other] at gives
      cases gives
    rw [scene]
    exact getElem?_set_append_of_ne hj ne _

/-- A step of a thread keeps what is known. -/
theorem Kept.step (h : x.Kept) {k : Nat} {turn : Turn} {t : Thread} {u : Progressed}
    (hk : x.scene.threads[k]? = some t) (advance : x.scene.advance turn t = some u) {c : Course}
    (after : c.scene = ⟨u.pool, x.scene.threads.set k u.thread ++ u.started⟩) :
    ({ x with course := c } : Intake).Kept := by
  have deed := Scene.advance_deed advance
  have scene : ({ x with course := c } : Intake).scene = _ := after
  have unstopped := h.unstopped t (List.mem_of_getElem? hk)
  have started (v : Thread) (hv : v ∈ u.started) :
      v.role.gives = false ∧ ∀ g, v.role ≠ .stop g := by
    cases deed with
    | starts g g' q started workers locks meters fresh =>
      obtain ⟨i, rfl⟩ := fresh v hv
      exact ⟨rfl, nofun⟩
    | _ => exact absurd hv List.not_mem_nil
  refine ⟨?_, ?_, ?_, ?_, ?_, h.accepted, h.handed⟩
  · rw [scene]
    exact h.scene.step hk deed
  · intro v hv
    rw [scene] at hv
    rcases List.mem_append.mp hv with hv | hv
    · rcases List.mem_or_eq_of_mem_set hv with hv | rfl
      · exact h.unstopped v hv
      · cases deed with
        | counts | releases => exact unstopped
        | stops g => exact absurd rfl (unstopped g)
        | _ => exact nofun
    · exact (started v hv).2
  · intro on
    rw [scene]
    exact Scene.advance_running advance unstopped (h.running on)
  · intro j v hj gives
    rw [scene] at hj
    rcases getElem?_set_append_cases hj with ⟨-, hj⟩ | ⟨rfl, rfl⟩ | hv
    · exact h.calls j v hj gives
    · rw [deed.gives_eq] at gives
      rcases h.calls j t hk gives with waits | ⟨s, rfl⟩
      · exact .inl waits
      · exact (not_deed_of_returned deed).elim
    · rw [(started v hv).1] at gives
      cases gives
  · obtain ⟨stage, prudent, ready⟩ := h.stage
    refine ⟨stage, prudent, ?_⟩
    cases other : t.role.gives with
    | false => exact ready.step hk deed other after
    | true =>
      rcases h.calls k t hk other with waits | ⟨s, rfl⟩
      · obtain ⟨job, ds, g, rfl, hk', welcome⟩ := ready.of_giving waits
        obtain rfl := Option.some.inj (hk'.symm.trans hk)
        have on : x.scene.pool.running = true := by
          apply h.running
          intro r ended
          rw [ended] at prudent
          cases prudent with
          | ends a free => cases free
        obtain ⟨ds', g', thread, welcome'⟩ := deed.welcome on welcome
        refine .inr ⟨k, ds', g', waits, ?_, ?_⟩
        · rw [scene, ← thread]
          exact getElem?_set_append_self hk _
        · rw [scene]
          exact welcome'
      · exact (not_deed_of_returned deed).elim

theorem Kept.move (h : x.Kept) (k : Nat) (turn : Turn) : (x.react (.moves k turn)).Kept := by
  cases hs : x.course.scene.step k turn with
  | none =>
    have still : x.course.react (.moves k turn) = x.course := by rw [Course.react, hs]
    rw [react, still]
    exact h
  | some r =>
    have moved := hs
    simp only [Scene.step, Option.bind_eq_bind, Option.bind_eq_some_iff] at hs
    obtain ⟨t, hk, u, advance, eq⟩ := hs
    apply h.step hk advance
    rw [Course.react, moved, ← Option.some.inj eq]
    rfl

/-- A thread that enters for something else than a stop. -/
theorem Kept.enter (h : x.Kept) (e : Entrance) (unstopped : ∀ g, e.role ≠ .stop g) :
    ({ x with course := x.course.react (.enters e) } : Intake).scene.Kept ∧
      ∀ t ∈ ({ x with course := x.course.react (.enters e) } : Intake).scene.threads,
        ∀ g, t.role ≠ .stop g := by
  refine ⟨h.scene.enter e, ?_⟩
  intro t ht
  rcases List.mem_append.mp ht with ht | ht
  · exact h.unstopped t ht
  · rw [List.mem_singleton.mp ht]
    exact unstopped

theorem Kept.opens (h : x.Kept) : (x.react .opens).Kept := by
  obtain ⟨scene, unstopped⟩ := h.enter .starts nofun
  refine ⟨scene, unstopped, h.running, ?_, ?_, h.accepted, h.handed⟩
  · intro k t hk gives
    rcases getElem?_concat_cases hk with old | ⟨-, rfl⟩
    · exact h.calls k t old gives
    · cases gives
  · obtain ⟨stage, prudent, ready⟩ := h.stage
    refine ⟨stage, prudent, ready.congr rfl (fun _ => id) (List.Subset.refl _) (fun _ _ => id) ?_⟩
    intro k t hk gives
    exact (List.getElem?_append_left (List.getElem?_eq_some_iff.mp hk).1).trans hk

theorem Kept.unbound (h : x.Kept) (job : x.poll.offered = none) : x.Unbound := by
  obtain ⟨stage, prudent, ready⟩ := h.stage
  rw [prudent.offered_eq] at job
  cases stage with
  | empty => exact ready
  | ready => exact ready.1
  | holding job' => cases job

theorem Kept.polls (h : x.Kept) : (x.react .polls).Kept := by
  unfold react
  cases poll : x.poll with
  | asks q next =>
    exact h
  | ends r =>
    have offered : x.poll.offered = none := by
      rw [poll]
      rfl
    by_cases on : x.scene.pool.running
    · rw [if_pos on]
      have prudent := Program.prudent_poll x.rules x.scene.pool.size
      refine ⟨h.scene, h.unstopped, fun _ => on, h.calls, ?_, h.accepted, ?_⟩
      · exact ⟨.empty, prudent, h.unbound offered⟩
      · have handed := h.handed
        rw [offered] at handed
        rw [prudent.offered_eq]
        exact handed
    · rw [if_neg on]
      exact h

/-- The task goes on, and holds no job. -/
theorem Kept.goOn (h : x.Kept) (unbound : x.Unbound) (on : x.scene.pool.running = true)
    (before : x.poll.offered = none) {stage : PollStage} (after : stage.job? = none)
    {poll : Program (Except FatalError Nat)} (prudent : Program.Prudent stage poll)
    (idle : stage = .ready → x.scene.pool.IdleFrom 0) {at_ : PollerAt}
    (free : ∀ k, at_ ≠ .giving k) : ({ x with poll, at_ } : Intake).Kept := by
  refine ⟨h.scene, h.unstopped, fun _ => on, ?_, ⟨stage, prudent, ?_⟩, h.accepted, ?_⟩
  · intro k t hk gives
    exact .inr ((h.calls k t hk gives).resolve_left (unbound k))
  · cases stage with
    | empty => exact free
    | ready => exact ⟨free, idle rfl⟩
    | holding job => cases after
  · have handed := h.handed
    rw [before] at handed
    rw [prudent.offered_eq, after]
    exact handed

theorem Kept.look (h : x.Kept) {next : Bool → Program (Except FatalError Nat)}
    (poll : x.poll = .asks .looking next) : (x.look next).Kept := by
  have on : x.scene.pool.running = true := h.running (by simp [poll])
  have before : x.poll.offered = none := by
    rw [poll]
    rfl
  have unbound := h.unbound before
  have free (k : Nat) : PollerAt.free ≠ .giving k := by rintro ⟨⟩
  have looking (i k : Nat) : PollerAt.looking i ≠ .giving k := by rintro ⟨⟩
  have blank : PollStage.empty ≠ .ready := by rintro ⟨⟩
  obtain ⟨stage, prudent, -⟩ := h.stage
  have asks := prudent
  rw [poll] at asks
  cases asks with
  | looks next idle busy =>
    unfold Intake.look
    split
    · next i at_ =>
      split
      · exact h.goOn unbound on before rfl busy (fun same => absurd same blank) free
      · next w worker =>
        split_ifs with idles
        · refine h.goOn unbound on before rfl idle ?_ free
          intro _
          have inside : i < x.scene.pool.slots.length := by
            simpa [Pool.slots] using (List.getElem?_eq_some_iff.mp worker).1
          refine ⟨i, Nat.zero_le i, inside, ?_⟩
          rw [Pool.slotAt_eq worker]
          exact eq_of_beq idles
        · refine h.goOn unbound on before rfl prudent ?_ (looking (i + 1))
          exact fun same => absurd same blank
    · exact h.goOn unbound on before rfl prudent (fun same => absurd same blank) (looking 0)

theorem Kept.patch (h : x.Kept) {id : String} {p : JobPatch}
    {next : Except RegistryError Job → Program (Except FatalError Nat)}
    (poll : x.poll = .asks (.patching id p) next) (a : Except RegistryError Job)
    (fresh : ∀ job, p.reserves → a = .ok job → job.id ∉ x.scene.inFlight) :
    (x.patch p a next).Kept := by
  have on : x.scene.pool.running = true := h.running (by simp [poll])
  have before : x.poll.offered = none := by
    rw [poll]
    rfl
  have handed := h.handed
  obtain ⟨stage, prudent, ready⟩ := h.stage
  rw [poll] at prudent
  cases prudent with
  | reserves id v next got lost =>
    have reserves : (JobPatch.reserve v).reserves = true := beq_self_eq_true _
    obtain ⟨unbound, idle⟩ := ready
    cases a with
    | error e =>
      have same : x.patch (.reserve v) (.error e) next = { x with poll := next (.error e) } := by
        simp [Intake.patch, Except.toOption]
      rw [same]
      exact h.goOn unbound on before rfl (lost e) (fun _ => idle) unbound
    | ok job =>
      have unlocked : job.id ∉ x.scene.pool.locks.ids := by
        have flight := fresh job reserves rfl
        rw [← List.count_eq_zero] at flight ⊢
        rw [h.scene.counted, flight]
      refine ⟨h.scene, h.unstopped, fun _ => on, h.calls, ?_, h.accepted, ?_⟩
      · exact ⟨.holding job, got job, .inl ⟨unbound, unlocked, idle⟩⟩
      · change x.reserved ++ _ = x.given.map Prod.fst ++ (next (.ok job)).offered.toList
        rw [(got job).offered_eq, handed, before, reserves]
        simp [Except.toOption, PollStage.job?]

/-- The task begins a call to give its job to the pool. -/
theorem Kept.begin (h : x.Kept) {job : Job} (prudent : Program.Prudent (.holding job) x.poll)
    (unbound : x.Unbound) (unlocked : job.id ∉ x.scene.pool.locks.ids)
    (idle : x.scene.pool.IdleFrom 0) :
    ({ x with
      course := x.course.react (.enters (.gives ⟨job, "reserved"⟩))
      at_ := .giving x.scene.threads.length } : Intake).Kept := by
  obtain ⟨scene, unstopped⟩ := h.enter (.gives ⟨job, "reserved"⟩) nofun
  refine ⟨scene, unstopped, h.running, ?_, ⟨.holding job, prudent, .inr ?_⟩, h.accepted, h.handed⟩
  · intro k t hk gives
    rcases getElem?_concat_cases hk with old | ⟨rfl, -⟩
    · exact .inr ((h.calls k t old gives).resolve_left (unbound k))
    · exact .inl rfl
  · refine ⟨x.scene.threads.length, [], .entering, rfl, ?_, unlocked, idle⟩
    exact List.getElem?_concat_length

theorem Kept.give (h : x.Kept) {job : Job}
    {next : Except PoolError Unit → Program (Except FatalError Nat)}
    (poll : x.poll = .asks (.giving job) next) : (x.give job next).Kept := by
  have on : x.scene.pool.running = true := h.running (by simp [poll])
  obtain ⟨stage, prudent, ready⟩ := h.stage
  have asks := prudent
  rw [poll] at asks
  cases asks with
  | gives job next accepted =>
    unfold Intake.give
    rcases ready with ⟨unbound, unlocked, idle⟩ | ⟨k, ds, g, at_, hk, welcome⟩
    · split
      · next k at_ => exact absurd at_ (unbound k)
      · exact h.begin prudent unbound unlocked idle
    · simp only [at_, hk]
      split
      · next r returned =>
        cases returned
        obtain rfl : r = .ok () := welcome
        refine ⟨h.scene, h.unstopped, fun _ => on, ?_, ⟨.empty, accepted, nofun⟩, ?_, ?_⟩
        · intro j t hj gives
          rcases h.calls j t hj gives with waits | done
          · obtain rfl : k = j := by
              rw [at_] at waits
              cases waits
              rfl
            exact .inr ⟨⟨job, "reserved"⟩, Option.some.inj (hj.symm.trans hk)⟩
          · exact .inr done
        · intro y hy
          rcases List.mem_append.mp hy with hy | hy
          · exact h.accepted y hy
          · rw [List.mem_singleton.mp hy]
        · have handed := h.handed
          rw [prudent.offered_eq] at handed
          change x.reserved = (x.given ++ [(job, Except.ok ())]).map Prod.fst ++ _
          rw [accepted.offered_eq, handed]
          simp [PollStage.job?]
      · exact h

theorem Kept.proceed (h : x.Kept) (reply : (q : Ask) → q.Answer)
    (fresh : ∀ job ∈ x.handsOut (.proceeds reply), job.id ∉ x.scene.inFlight) :
    (x.proceed reply).Kept := by
  unfold Intake.proceed
  cases poll : x.poll with
  | ends r => exact h
  | asks q next =>
    have quiet (before : x.poll.offered = none)
        (after : ∀ stage, Program.Prudent stage (.asks q next) → stage = .ready ∧
          Program.Prudent .ready (next (reply q))) :
        ({ x with poll := next (reply q) } : Intake).Kept := by
      have unbound := h.unbound before
      obtain ⟨stage, prudent, ready⟩ := h.stage
      rw [poll] at prudent
      obtain ⟨rfl, later⟩ := after stage prudent
      exact h.goOn unbound (h.running (by simp [poll])) before rfl later (fun _ => ready.2) unbound
    have before (other : Program.offered (.asks q next) = none) : x.poll.offered = none := by
      rw [poll]
      exact other
    cases q with
    | looking => exact h.look poll
    | giving job => exact h.give poll
    | patching id p =>
      refine h.patch poll _ ?_
      intro job reserves accepted
      apply fresh job
      simp only [handsOut, poll, reserves, if_true]
      rw [accepted]
      rfl
    | listing params window =>
      refine quiet (before rfl) ?_
      intro stage prudent
      cases prudent with
      | lists params window next after => exact ⟨rfl, after _⟩
    | sleeping t => exact quiet (before rfl) fun stage prudent => nomatch prudent
    | naming => exact quiet (before rfl) fun stage prudent => nomatch prudent
    | raising e => exact quiet (before rfl) fun stage prudent => nomatch prudent
    | processing job => exact quiet (before rfl) fun stage prudent => nomatch prudent

theorem Kept.react (h : x.Kept) (e : IntakeEvent)
    (fresh : ∀ job ∈ x.handsOut e, job.id ∉ x.scene.inFlight) : (x.react e).Kept := by
  cases e with
  | opens => exact h.opens
  | moves k turn => exact h.move k turn
  | polls => exact h.polls
  | proceeds reply => exact h.proceed reply fresh

theorem Kept.run (h : x.Kept) {es : List IntakeEvent} (fresh : x.Fresh es) :
    (es.foldl Intake.react x).Kept := by
  induction es generalizing x with
  | nil => exact h
  | cons e es ih => exact ih (h.react e fresh.1) fresh.2

/-- The pool takes all that the task reserves. -/
structure Welcoming (x : Intake) : Prop where
  accepted : ∀ g ∈ x.given, g.2 = .ok ()
  /-- What was reserved was given to the pool, or is what the task gives it next. -/
  handed : x.reserved = x.given.map Prod.fst ++ x.poll.offered.toList
  unrefused : ∀ t ∈ x.scene.threads, ∀ s r, t.role = .give s (.returned r) → r = .ok ()
  /-- The call that the task waits for is accepted after a number of steps. -/
  returns : ∀ k, x.at_ = .giving k → ∃ n s,
    ((fun y => y.react (.moves k .go))^[n] x).scene.threads[k]? =
      some ⟨[], .give s (.returned (.ok ()))⟩
  /-- The task asks for no patch but one that reserves a job. -/
  unfailed : ∀ id p next, x.poll = .asks (.patching id p) next → p.reserves = true

theorem Kept.unrefused (h : x.Kept) {k : Nat} {ds : List Duty} {s : Submission Job}
    {r : Except PoolError Unit}
    (hk : x.scene.threads[k]? = some ⟨ds, .give s (.returned r)⟩) : r = .ok () := by
  rcases h.calls k _ hk rfl with waits | ⟨s, accepted⟩
  · obtain ⟨stage, -, ready⟩ := h.stage
    obtain ⟨job, ds', g, -, hk', welcome⟩ := ready.of_giving waits
    cases hk.symm.trans hk'
    exact welcome
  · cases accepted
    rfl

theorem Kept.moves (h : x.Kept) (k n : Nat) :
    ((fun y : Intake => y.react (.moves k .go))^[n] x).Kept := by
  induction n generalizing x with
  | zero => exact h
  | succ n ih => exact ih (h.move k .go)

theorem course_moves (x : Intake) (k n : Nat) :
    ((fun y : Intake => y.react (.moves k .go))^[n] x).course =
      (fun c : Course => c.react (.moves k .go))^[n] x.course := by
  induction n generalizing x with
  | zero => rfl
  | succ n ih => exact ih (x.react (.moves k .go))

theorem Kept.welcoming (h : x.Kept) : x.Welcoming where
  accepted := h.accepted
  handed := h.handed
  unrefused := by
    rintro ⟨ds, role⟩ ht s r rfl
    obtain ⟨k, hk⟩ := List.mem_iff_getElem?.mp ht
    exact h.unrefused hk
  returns := by
    intro k waits
    obtain ⟨stage, -, ready⟩ := h.stage
    obtain ⟨job, ds, g, -, hk, -⟩ := ready.of_giving waits
    have sound := h.scene.sound _ (List.mem_of_getElem? hk)
    obtain ⟨n, r, returned⟩ := x.course.give_returns hk sound
    rw [← course_moves] at returned
    obtain rfl := (h.moves k n).unrefused returned
    exact ⟨n, _, returned⟩
  unfailed := by
    intro id p next poll
    obtain ⟨stage, prudent, -⟩ := h.stage
    rw [poll] at prudent
    cases prudent with
    | reserves id v next got lost => exact beq_self_eq_true _

/-- A pool that runs and that one task alone polls for accepts every job that the task reserves,
however the steps of its workers are mixed with those of the task. -/
theorem welcoming_run (rules : DeskRules) (workers : Nat) (listeners : List String)
    (es : List IntakeEvent) (fresh : (start rules workers listeners).Fresh es) :
    (run rules workers listeners es).Welcoming :=
  ((kept_start rules workers listeners).run fresh).welcoming

/-- A job is handed out for a second time when it was processed, while its worker is yet to count
its slot as idle. -/
theorem welcoming_again :
    let rules : DeskRules :=
      ⟨⟨some "a", some "c", some "n", some .pending, none⟩, 1, 3, ⟨0, 0⟩⟩
    let hands : (q : Ask) → q.Answer
      | .listing _ _ => .ok [⟨"J1", 1, .blank⟩]
      | .patching _ _ => .ok ⟨"J1", 2, .blank⟩
      | .sleeping _ => ()
      | .naming => ""
      | .raising _ => ()
      | .looking => false
      | .giving _ => .error .busy
      | .processing _ => .panicked
    let poll : List IntakeEvent := .polls :: List.replicate 5 (.proceeds hands)
    let call (k : Nat) : List IntakeEvent := List.replicate 6 (.moves k .go) ++ [.proceeds hands]
    let es : List IntakeEvent := .opens :: List.replicate 5 (.moves 0 .go) ++ poll ++ call 2 ++
      [.moves 1 .go, .moves 1 .go, .moves 1 (.processed .finished), .moves 1 .go, .moves 1 .go] ++
        poll ++ call 3
    (start rules 1 []).Fresh es ∧ (run rules 1 [] es).Welcoming ∧
      (run rules 1 [] es).given.map Prod.fst = [⟨"J1", 2, .blank⟩, ⟨"J1", 2, .blank⟩] := by
  intro rules hands poll call es
  have fresh : (start rules 1 []).Fresh es := by decide +kernel
  exact ⟨fresh, welcoming_run rules 1 [] es fresh, by decide +kernel⟩

end Intake

end JobDispatch

import JobDispatch.Agent.Supervision
import JobDispatch.Proofs.Agent.Program
import Mathlib.Data.List.Induction
import Mathlib.Logic.Function.Iterate

/-!
Oversight: the loop of a runner beside the workers that report their jobs. The loop looks at one
thing after the other, and between two looks anything can happen: ticks, signals, steps of the
workers, reports that turn fatal. In whatever order this comes, the runner ends well only if no
report turned fatal by then.
-/

namespace JobDispatch

/-- The reports that turned fatal, as a question tells them. -/
def Ask.raised : Ask → List FatalError
  | raising e => [e]
  | _ => []

namespace Program

variable {α β : Type} {P : List FatalError → α → Prop} {Q : List FatalError → β → Prop}
  {told : List FatalError}

/-- Programs that end as stated, however their questions are answered; the statement is about the
result and about all reports that turned fatal before it. -/
inductive Concludes (P : List FatalError → α → Prop) : List FatalError → Program α → Prop
  | ends {told : List FatalError} {a : α} (holds : P told a) : Concludes P told (.ends a)
  | asks {told : List FatalError} (q : Ask) {next : q.Answer → Program α}
      (after : ∀ a, Concludes P (told ++ q.raised) (next a)) : Concludes P told (.asks q next)

theorem Concludes.bind {p : Program α} {k : α → Program β} (h : Concludes P told p)
    (rest : ∀ told a, P told a → Concludes Q told (k a)) : Concludes Q told (p >>= k) := by
  induction h with
  | ends holds => exact rest _ _ holds
  | asks q after ih => exact .asks q ih

theorem Concludes.mono {p : Program α} (h : Concludes P told p)
    (grows : ∀ told told' a, told ⊆ told' → P told a → P told' a) {told' : List FatalError}
    (sub : told ⊆ told') : Concludes P told' p := by
  induction h generalizing told' with
  | ends holds => exact .ends (grows _ _ _ sub holds)
  | asks q after ih => exact .asks q fun a => ih a (List.append_subset.mpr
      ⟨List.Subset.trans sub (List.subset_append_left _ _), List.subset_append_right _ _⟩)

theorem concludes_true (p : Program α) (told : List FatalError) :
    Concludes (fun _ _ => True) told p := by
  induction p generalizing told with
  | ends a => exact .ends trivial
  | asks q next ih => exact .asks q fun a => ih a _

/-- An error at the end is one that was raised. -/
def Frank (told : List FatalError) (r : Except FatalError α) : Prop :=
  ∀ e, r = .error e → e ∈ told

theorem frank_ok (told : List FatalError) (a : α) : Frank told (.ok a) := nofun

theorem Frank.grows {told' : List FatalError} (r : Except FatalError α) (sub : told ⊆ told')
    (h : Frank told r) : Frank told' r :=
  fun e he => sub (h e he)

theorem concludes_giveUp (job : Job) (reason : String) (told : List FatalError) :
    Concludes Frank told (desk.giveUp job reason) := by
  refine .asks .naming ?_
  intro name
  refine .asks (.raising ⟨name, job.id, reason⟩) ?_
  intro _
  refine .ends ?_
  rintro e ⟨⟩
  exact List.mem_append_right _ (List.mem_singleton_self _)

theorem concludes_reportFrom (rules : DeskRules) (job : Job) (left attempt : Nat)
    (told : List FatalError) : Concludes Frank told (desk.reportFrom rules job left attempt) := by
  induction left generalizing attempt told with
  | zero =>
    unfold Desk.reportFrom
    refine .asks (.patching job.id _) ?_
    intro answer
    cases answer with
    | ok stored => exact .ends (frank_ok _ stored)
    | error e =>
      change Concludes Frank _ (if !e.isTransient then desk.giveUp job e.message else _)
      split_ifs
      · exact concludes_giveUp job e.message _
      · exact concludes_giveUp job _ _
  | succ left ih =>
    unfold Desk.reportFrom
    refine .asks (.patching job.id _) ?_
    intro answer
    cases answer with
    | ok stored => exact .ends (frank_ok _ stored)
    | error e =>
      change Concludes Frank _ (if !e.isTransient then desk.giveUp job e.message else _)
      split_ifs
      · exact concludes_giveUp job e.message _
      · exact .asks (.sleeping rules.retryDelay) fun _ => ih (attempt + 1) _

theorem concludes_pollFrom (rules : DeskRules) (size room dispatched : Nat)
    (told : List FatalError) :
    Concludes Frank told ((dispatch rules size).pollFrom room dispatched) := by
  induction room generalizing dispatched told with
  | zero => exact .ends (frank_ok _ _)
  | succ room ih =>
    refine .asks .looking ?_
    intro idle
    cases idle with
    | false => exact .ends (frank_ok _ _)
    | true =>
      refine (concludes_true (desk.nextJob rules) _).bind ?_
      intro told r _
      match r with
      | .error e => exact .ends (frank_ok _ _)
      | .ok none => exact .ends (frank_ok _ _)
      | .ok (some job) =>
        refine .asks (.giving job) ?_
        intro answer
        cases answer with
        | ok _ => exact ih (dispatched + 1) _
        | error e =>
          refine (concludes_reportFrom rules _ _ _ _).bind ?_
          intro told r frank
          cases r with
          | ok stored => exact .ends (frank_ok _ _)
          | error f => exact .ends fun g hg => frank g (by cases hg; rfl)

/-- A poll that ends in an error has raised it. -/
theorem concludes_poll (rules : DeskRules) (size : Nat) (told : List FatalError) :
    Concludes Frank told (poll rules size) :=
  concludes_pollFrom rules size size 0 told

end Program

/-- What the loop looks at next, while it selects. -/
inductive Glance where
  | fatals
  | shutdown
  /-- the signal was set since it was last looked at -/
  | signal
  | ticks
  deriving DecidableEq

/-- A single look of the loop, and what comes next. -/
def Supervision.look (s : Supervision) : Glance → Supervision × Glance
  | .fatals =>
    match s.fatals with
    | e :: rest => ({ s with fatals := rest, at_ := .returned (.error ⟨e⟩) }, .fatals)
    | [] => (s, .shutdown)
  | .shutdown =>
    if s.shutdown.unseen then
      ({ s with shutdown := { s.shutdown with unseen := false } }, .signal)
    else if s.shutdown.abandoned then ({ s with at_ := .returned (.ok ()) }, .fatals)
    else (s, .ticks)
  | .signal =>
    if s.shutdown.value then ({ s with at_ := .returned (.ok ()) }, .fatals) else (s, .fatals)
  | .ticks =>
    match s.ticks with
    | 0 => (s, .fatals)
    | ticks + 1 => ({ s with ticks, at_ := .polling }, .fatals)

/-- Looks with nothing in between are a step of the loop. -/
theorem Supervision.look_eq_step (s : Supervision) (selecting : s.at_ = .selecting) :
    ∃ n, 0 < n ∧ (fun x => look x.1 x.2)^[n] (s, .fatals) = (s.step.getD s, .fatals) := by
  obtain ⟨fatals, ⟨value, unseen, abandoned⟩, ticks, at_⟩ := s
  cases selecting
  cases fatals with
  | cons e rest => exact ⟨1, Nat.one_pos, rfl⟩
  | nil =>
    cases unseen with
    | true => cases value <;> exact ⟨3, by decide, rfl⟩
    | false =>
      cases abandoned with
      | true => exact ⟨2, by decide, rfl⟩
      | false => cases ticks <;> exact ⟨3, by decide, rfl⟩

/-- The loop of a runner, with the poll at hand or else the next one, and with what the workers
have left to do for their jobs. -/
structure Oversight where
  rules : DeskRules
  size : Nat
  loop : Supervision
  glance : Glance
  poll : Program (Except FatalError Nat)
  workers : List (Program Outcome)
  /-- all reports that turned fatal so far -/
  raised : List FatalError
  /-- what looking for late reports came to -/
  late : Option (Except Diverged Unit)

inductive OversightEvent where
  | signals (value : Bool)
  | abandons
  | ticks
  /-- the loop goes on; if it polls, its question is answered -/
  | proceeds (reply : (q : Ask) → q.Answer)
  /-- a worker begins with a job -/
  | employs (job : Job)
  | works (worker : Nat) (reply : (q : Ask) → q.Answer)
  /-- the runner looks for late reports -/
  | concludes

namespace Oversight

def start (rules : DeskRules) (size : Nat) : Oversight :=
  ⟨rules, size, .start [] .quiet, .fatals, Program.poll rules size, [], [], none⟩

/-- The loop hears of a report that turned fatal. -/
def tell (o : Oversight) : Ask → Oversight
  | .raising e => { o with loop := o.loop.hear (.raised e), raised := o.raised ++ [e] }
  | _ => o

/-- The next step of the loop. -/
def proceed (o : Oversight) (reply : (q : Ask) → q.Answer) : Oversight :=
  match o.loop.at_ with
  | .selecting => { o with loop := (o.loop.look o.glance).1, glance := (o.loop.look o.glance).2 }
  | .polling =>
    match o.poll with
    | .asks q next => { o.tell q with poll := next (reply q) }
    | .ends r => { o with loop := o.loop.hear (.polled r), poll := Program.poll o.rules o.size }
  | .returned _ => o

/-- A worker asks what it has to ask, and is answered. -/
def work (o : Oversight) (worker : Nat) (reply : (q : Ask) → q.Answer) : Oversight :=
  match o.workers[worker]? with
  | some (.asks q next) => { o.tell q with workers := o.workers.set worker (next (reply q)) }
  | _ => o

/-- The runner looks once for late reports, when the loop has ended well. -/
def conclude (o : Oversight) : Oversight :=
  match o.loop.at_, o.late with
  | .returned (.ok ()), none =>
    let (r, rest) := Supervision.lateFatal o.loop.fatals
    { o with loop := { o.loop with fatals := rest }, late := some r }
  | _, _ => o

def react (o : Oversight) : OversightEvent → Oversight
  | .signals value => { o with loop := o.loop.hear (.signalled value) }
  | .abandons => { o with loop := o.loop.hear .abandoned }
  | .ticks => { o with loop := o.loop.hear .ticked }
  | .proceeds reply => o.proceed reply
  | .employs job => { o with workers := o.workers ++ [Program.handle o.rules job] }
  | .works worker reply => o.work worker reply
  | .concludes => o.conclude

def run (rules : DeskRules) (size : Nat) (es : List OversightEvent) : Oversight :=
  es.foldl react (start rules size)

/-- How the runner ends: with the error that ended its loop, or with what looking for late reports
came to. -/
def outcome? (o : Oversight) : Option (Except Diverged Unit) :=
  match o.loop.at_ with
  | .returned (.error d) => some (.error d)
  | .returned (.ok ()) => o.late
  | _ => none

/-- An end that answers for all reports that turned fatal; some of them may still wait to be looked
at. -/
structure AnswersFor (raised waiting : List FatalError) (r : Except Diverged Unit) : Prop where
  diverged_iff : (∃ d, r = .error d) ↔ raised ≠ []
  told : ∀ d, r = .error d → d.fatal ∈ raised
  kept : ∀ e ∈ raised, r = .error ⟨e⟩ ∨ e ∈ waiting

/-- The loop ends well only when it was told to stop or nobody can tell it any more; and when the
runner ends, it does so with an error if and only if a report has turned fatal before. -/
structure Unmissed (rules : DeskRules) (size : Nat) (es : List OversightEvent) : Prop where
  stops : (run rules size es).loop.at_ = .returned (.ok ()) → .signals true ∈ es ∨ .abandons ∈ es
  ends : ∀ r, (run rules size es).outcome? = some r → ∃ before e later,
    es = before ++ e :: later ∧ (run rules size before).outcome? = none ∧
      (run rules size (before ++ [e])).outcome? = some r ∧
        AnswersFor (run rules size before).raised (run rules size (before ++ [e])).loop.fatals r

/-- What is known of an oversight after some events: until the runner ends, all reports that turned
fatal wait to be looked at; a poll that ends in an error has raised it; and the loop sees in the
signal what was done to it. -/
structure Kept (o : Oversight) (es : List OversightEvent) : Prop where
  waiting : o.outcome? = none → o.loop.fatals = o.raised
  frank : Program.Concludes Program.Frank o.raised o.poll
  value : o.loop.shutdown.value = true → .signals true ∈ es
  abandoned : o.loop.shutdown.abandoned = true → .abandons ∈ es
  stopped : o.loop.at_ = .returned (.ok ()) → .signals true ∈ es ∨ .abandons ∈ es
  early : o.late ≠ none → o.loop.at_ = .returned (.ok ())

variable {o : Oversight} {es : List OversightEvent} {r : Except Diverged Unit}

theorem tell_raised (o : Oversight) (q : Ask) : (o.tell q).raised = o.raised ++ q.raised := by
  cases q <;> simp [tell, Ask.raised]

theorem tell_loop (o : Oversight) (q : Ask) :
    (o.tell q).loop = { o.loop with fatals := o.loop.fatals ++ q.raised } := by
  cases q <;> simp [tell, Ask.raised, Supervision.hear]

theorem tell_poll (o : Oversight) (q : Ask) : (o.tell q).poll = o.poll := by
  cases q <;> rfl

theorem tell_late (o : Oversight) (q : Ask) : (o.tell q).late = o.late := by
  cases q <;> rfl

theorem kept_start (rules : DeskRules) (size : Nat) : (start rules size).Kept [] where
  waiting _ := rfl
  frank := Program.concludes_poll rules size []
  value := nofun
  abandoned := nofun
  stopped := nofun
  early := nofun

/-- What is known only grows with the events. -/
theorem Kept.snoc (h : o.Kept es) (e : OversightEvent) : o.Kept (es ++ [e]) where
  waiting := h.waiting
  frank := h.frank
  value hv := List.mem_append_left _ (h.value hv)
  abandoned ha := List.mem_append_left _ (h.abandoned ha)
  stopped hs := (h.stopped hs).imp (List.mem_append_left _) (List.mem_append_left _)
  early := h.early

theorem tell_outcome? (o : Oversight) (q : Ask) : (o.tell q).outcome? = o.outcome? := by
  simp [outcome?, tell_loop, tell_late]

theorem Kept.tell (h : o.Kept es) (q : Ask) : (o.tell q).Kept es where
  waiting running := by
    rw [tell_outcome?] at running
    rw [tell_loop, tell_raised]
    exact congrArg (· ++ q.raised) (h.waiting running)
  frank := by
    rw [tell_poll, tell_raised]
    exact h.frank.mono (fun _ _ r sub => Program.Frank.grows r sub) (List.subset_append_left _ _)
  value hv := h.value (by rwa [tell_loop] at hv)
  abandoned ha := h.abandoned (by rwa [tell_loop] at ha)
  stopped hs := h.stopped (by rwa [tell_loop] at hs)
  early hl := by
    rw [tell_late] at hl
    rw [tell_loop]
    exact h.early hl

/-- While the loop goes on, nobody has looked for late reports. -/
theorem Kept.late_eq_none (h : o.Kept es) (on : o.loop.at_ ≠ .returned (.ok ())) :
    o.late = none := by
  by_contra late
  exact on (h.early late)

/-- A report that waits to be looked at ends the loop. -/
theorem answersFor_head {raised rest : List FatalError} {e : FatalError}
    (h : raised = e :: rest) : AnswersFor raised rest (.error ⟨e⟩) := by
  subst h
  refine ⟨?_, ?_, ?_⟩
  · exact iff_of_true ⟨_, rfl⟩ (List.cons_ne_nil _ _)
  · rintro d ⟨⟩
    exact List.mem_cons_self
  · intro f hf
    rcases List.mem_cons.mp hf with rfl | later
    · exact .inl rfl
    · exact .inr later

theorem answersFor_mem {raised : List FatalError} {e : FatalError} (h : e ∈ raised) :
    AnswersFor raised raised (.error ⟨e⟩) := by
  refine ⟨?_, ?_, ?_⟩
  · exact iff_of_true ⟨_, rfl⟩ (List.ne_nil_of_mem h)
  · rintro d ⟨⟩
    exact h
  · exact fun f hf => .inr hf

theorem answersFor_lateFatal (fatals : List FatalError) :
    AnswersFor fatals (Supervision.lateFatal fatals).2 (Supervision.lateFatal fatals).1 := by
  cases fatals with
  | nil =>
    refine ⟨?_, nofun, nofun⟩
    refine iff_of_false ?_ (· rfl)
    rintro ⟨d, ⟨⟩⟩
  | cons e rest => exact answersFor_head rfl

/-- What a step comes to: what is known is known still, an end that is there stays, and an end that
comes with it answers for all reports that turned fatal. -/
structure Follows (o o' : Oversight) (es : List OversightEvent) : Prop where
  kept : o'.Kept es
  ended : ∀ r, o.outcome? = some r → o'.outcome? = some r
  ends : ∀ r, o.outcome? = none → o'.outcome? = some r → AnswersFor o.raised o'.loop.fatals r

theorem Kept.follows {o' : Oversight} (h : o'.Kept es) (same : o'.outcome? = o.outcome?) :
    Follows o o' es := by
  refine ⟨h, ?_, ?_⟩
  · intro r hr
    rwa [same]
  · intro r running hr
    rw [same, running] at hr
    cases hr

/-- A look after which the loop goes on. -/
theorem Kept.goOn (h : o.Kept es) (selecting : o.loop.at_ = .selecting) {s : Supervision}
    (glance : Glance) (fatals : s.fatals = o.loop.fatals)
    (on : s.at_ = .selecting ∨ s.at_ = .polling)
    (value : s.shutdown.value = o.loop.shutdown.value)
    (abandoned : s.shutdown.abandoned = o.loop.shutdown.abandoned) :
    Follows o { o with loop := s, glance } es := by
  have running : o.outcome? = none := by simp [outcome?, selecting]
  have late : o.late = none := h.late_eq_none (by rw [selecting]; nofun)
  have still : ({ o with loop := s, glance } : Oversight).outcome? = none := by
    rcases on with on | on <;> simp [outcome?, on]
  refine Kept.follows ⟨?_, h.frank, ?_, ?_, ?_, ?_⟩ (still.trans running.symm)
  · intro _
    exact fatals.trans (h.waiting running)
  · exact fun hv => h.value (value.symm.trans hv)
  · exact fun ha => h.abandoned (abandoned.symm.trans ha)
  · intro (stopped : s.at_ = _)
    rcases on with on | on <;> rw [on] at stopped <;> cases stopped
  · exact fun hl => absurd late hl

/-- A look after which the loop ends well. -/
theorem Kept.stop (h : o.Kept es) (selecting : o.loop.at_ = .selecting)
    (told : .signals true ∈ es ∨ .abandons ∈ es) :
    Follows o { o with loop := { o.loop with at_ := .returned (.ok ()) }, glance := .fatals }
      es := by
  have running : o.outcome? = none := by simp [outcome?, selecting]
  have late : o.late = none := h.late_eq_none (by rw [selecting]; nofun)
  have still : ({ o with loop := { o.loop with at_ := .returned (.ok ()) }, glance := .fatals } :
      Oversight).outcome? = none := late
  refine Kept.follows ⟨?_, h.frank, h.value, h.abandoned, ?_, ?_⟩ (still.trans running.symm)
  · exact fun _ => h.waiting running
  · exact fun _ => told
  · exact fun _ => rfl

/-- An error of a report ends the loop. -/
theorem Kept.fail (h : o.Kept es) (running : o.outcome? = none) (late : o.late = none)
    {e : FatalError} {rest : List FatalError} (glance : Glance)
    (poll : Program (Except FatalError Nat))
    (frank : Program.Concludes Program.Frank o.raised poll)
    (answers : AnswersFor o.raised rest (.error ⟨e⟩)) :
    Follows o { o with
      loop := { o.loop with fatals := rest, at_ := .returned (.error ⟨e⟩) }
      glance
      poll } es := by
  refine ⟨⟨nofun, frank, h.value, h.abandoned, nofun, fun hl => absurd late hl⟩, ?_, ?_⟩
  · intro r ended
    rw [running] at ended
    cases ended
  · rintro r - ⟨⟩
    exact answers

theorem Kept.look (h : o.Kept es) (selecting : o.loop.at_ = .selecting) :
    Follows o { o with loop := (o.loop.look o.glance).1, glance := (o.loop.look o.glance).2 }
      es := by
  have running : o.outcome? = none := by simp [outcome?, selecting]
  have late : o.late = none := h.late_eq_none (by rw [selecting]; nofun)
  cases o.glance with
  | fatals =>
    unfold Supervision.look
    cases fatals : o.loop.fatals with
    | nil => exact h.goOn selecting .shutdown rfl (.inl selecting) rfl rfl
    | cons e rest =>
      have raised : o.raised = e :: rest := (h.waiting running).symm.trans fatals
      exact h.fail running late .fatals o.poll h.frank (answersFor_head raised)
  | shutdown =>
    unfold Supervision.look
    by_cases unseen : o.loop.shutdown.unseen
    · rw [if_pos unseen]
      exact h.goOn selecting .signal rfl (.inl selecting) rfl rfl
    · rw [if_neg unseen]
      by_cases abandoned : o.loop.shutdown.abandoned
      · rw [if_pos abandoned]
        exact h.stop selecting (.inr (h.abandoned abandoned))
      · rw [if_neg abandoned]
        exact h.goOn selecting .ticks rfl (.inl selecting) rfl rfl
  | signal =>
    unfold Supervision.look
    by_cases value : o.loop.shutdown.value
    · rw [if_pos value]
      exact h.stop selecting (.inl (h.value value))
    · rw [if_neg value]
      exact h.goOn selecting .fatals rfl (.inl selecting) rfl rfl
  | ticks =>
    unfold Supervision.look
    cases o.loop.ticks with
    | zero => exact h.goOn selecting .fatals rfl (.inl selecting) rfl rfl
    | succ ticks => exact h.goOn selecting .fatals rfl (.inr rfl) rfl rfl

theorem Kept.proceed (h : o.Kept es) (reply : (q : Ask) → q.Answer) :
    Follows o (o.proceed reply) es := by
  unfold Oversight.proceed
  cases at_ : o.loop.at_ with
  | selecting => exact h.look at_
  | returned r => exact h.follows rfl
  | polling =>
    have running : o.outcome? = none := by simp [outcome?, at_]
    have late : o.late = none := h.late_eq_none (by rw [at_]; nofun)
    have frank := h.frank
    have again := Program.concludes_poll o.rules o.size o.raised
    cases poll : o.poll with
    | asks q next =>
      have told := h.tell q
      rw [poll] at frank
      cases frank with
      | asks q after =>
        refine Kept.follows ⟨told.waiting, ?_, told.value, told.abandoned, told.stopped,
          told.early⟩ (tell_outcome? o q)
        have frank := after (reply q)
        rwa [← tell_raised] at frank
    | ends r =>
      rw [poll] at frank
      simp only [Supervision.hear, at_]
      cases r with
      | ok n =>
        have still : ({ o with loop := { o.loop with at_ := .selecting } } :
            Oversight).outcome? = none := rfl
        refine Kept.follows ⟨?_, again, h.value, h.abandoned, nofun, ?_⟩ (still.trans running.symm)
        · exact fun _ => h.waiting running
        · exact fun hl => absurd late hl
      | error e =>
        cases frank with
        | ends holds =>
          have raised : e ∈ o.raised := holds e rfl
          have answers : AnswersFor o.raised o.loop.fatals (.error ⟨e⟩) := by
            rw [h.waiting running]
            exact answersFor_mem raised
          exact h.fail running late o.glance _ again answers

theorem Kept.work (h : o.Kept es) (worker : Nat) (reply : (q : Ask) → q.Answer) :
    Follows o (o.work worker reply) es := by
  unfold Oversight.work
  split
  · next q next asks =>
    have told := h.tell q
    exact Kept.follows ⟨told.waiting, told.frank, told.value, told.abandoned, told.stopped,
      told.early⟩ (tell_outcome? o q)
  · exact h.follows rfl

theorem Kept.conclude (h : o.Kept es) : Follows o o.conclude es := by
  unfold Oversight.conclude
  split
  · next at_ late =>
    have running : o.outcome? = none := by simp [outcome?, at_, late]
    have waiting := h.waiting running
    refine ⟨⟨?_, h.frank, h.value, h.abandoned, h.stopped, fun _ => at_⟩, ?_, ?_⟩
    · intro ended
      simp [outcome?, at_] at ended
    · intro r ended
      rw [running] at ended
      cases ended
    · intro r _ ended
      simp only [outcome?, at_] at ended
      cases ended
      rw [← waiting]
      exact answersFor_lateFatal o.loop.fatals
  · exact h.follows rfl

/-- What happens to the signal or to the ticks leaves the rest alone. -/
theorem Kept.hear (h : o.Kept es) {s : Supervision} (fatals : s.fatals = o.loop.fatals)
    (at_ : s.at_ = o.loop.at_) (value : s.shutdown.value = true → .signals true ∈ es)
    (abandoned : s.shutdown.abandoned = true → .abandons ∈ es) :
    Follows o { o with loop := s } es := by
  have same : ({ o with loop := s } : Oversight).outcome? = o.outcome? := by
    simp [outcome?, at_]
  refine Kept.follows ⟨?_, h.frank, value, abandoned, ?_, ?_⟩ same
  · intro running
    exact fatals.trans (h.waiting (same.symm.trans running))
  · exact fun stopped => h.stopped (at_.symm.trans stopped)
  · exact fun late => at_.trans (h.early late)

theorem Kept.react (h : o.Kept es) (e : OversightEvent) : Follows o (o.react e) (es ++ [e]) := by
  have known : o.Kept (es ++ [e]) := h.snoc e
  cases e with
  | signals value =>
    refine known.hear rfl rfl ?_ ?_
    · change (o.loop.shutdown.signal value).value = true → _
      unfold Watch.signal
      split_ifs
      · exact known.value
      · rintro rfl
        exact List.mem_concat_self
    · change (o.loop.shutdown.signal value).abandoned = true → _
      unfold Watch.signal
      split_ifs <;> exact known.abandoned
  | abandons =>
    refine known.hear rfl rfl known.value ?_
    exact fun _ => List.mem_concat_self
  | ticks => exact known.hear rfl rfl known.value known.abandoned
  | proceeds reply => exact known.proceed reply
  | employs job =>
    exact Kept.follows ⟨known.waiting, known.frank, known.value, known.abandoned, known.stopped,
      known.early⟩ rfl
  | works worker reply => exact known.work worker reply
  | concludes => exact known.conclude

theorem run_snoc (rules : DeskRules) (size : Nat) (es : List OversightEvent) (e : OversightEvent) :
    run rules size (es ++ [e]) = (run rules size es).react e :=
  List.foldl_concat ..

theorem kept_run (rules : DeskRules) (size : Nat) (es : List OversightEvent) :
    (run rules size es).Kept es := by
  induction es using List.reverseRecOn with
  | nil => exact kept_start rules size
  | append_singleton es e ih =>
    rw [run_snoc]
    exact (ih.react e).kept

/-- In whatever order ticks, signals and reports that turn fatal come, the loop ends well only when
it was told to, and no report that turned fatal is lost. -/
theorem unmissed_run (rules : DeskRules) (size : Nat) (es : List OversightEvent) :
    Unmissed rules size es := by
  refine ⟨(kept_run rules size es).stopped, ?_⟩
  intro r ended
  induction es using List.reverseRecOn with
  | nil => cases ended
  | append_singleton es e ih =>
    have step := (kept_run rules size es).react e
    rw [run_snoc] at ended
    cases earlier : (run rules size es).outcome? with
    | none =>
      refine ⟨es, e, [], rfl, earlier, ?_, ?_⟩
      · rwa [run_snoc]
      · rw [run_snoc]
        exact step.ends r earlier ended
    | some r' =>
      have same : some r' = some r := (step.ended r' earlier).symm.trans ended
      obtain ⟨before, e', later, split, rest⟩ := ih (earlier.trans same)
      exact ⟨before, e', later ++ [e], by simp [split], rest⟩

end Oversight

end JobDispatch

import JobDispatch.Proofs.Store.Identity
import JobDispatch.Proofs.Store.Repository
import JobDispatch.Registry.Runners
import Mathlib.Logic.Relation

/-!
Calls of the registry that concern runners, on a repository in memory, in the steps that others can
come between, and rosters: runners with calls that go on at the same time, whose steps are mixed in
every way, under a clock that never goes back.

A registration reads the clock before it stores the runner. A patch retrieves the runner, reads the
clock, and updates the runner then. A sweep reads all runners first and updates those that were
stale one by one.
-/

namespace JobDispatch

inductive RunnerCall where
  | register (req : RegisterRunner)
  | patch (id : String) (p : RunnerStatusPatch)
  /-- runners that have fallen silent by an instant are marked -/
  | sweep (now : Time.Instant)
  /-- the cleaner deletes what a filter accepts -/
  | purge (f : Filter)

inductive RunnerReply where
  | registered (r : Except RunnerError Runner)
  | patched (r : Except RunnerError Runner)
  | swept (r : Except RunnerError Nat)
  | purged (r : Except StoreError Nat)

/-- The runner as a patch that succeeded stored it. -/
def RunnerReply.patched? : RunnerReply → Option Runner
  | patched (.ok runner) => some runner
  | _ => none

/-- How far a call is, and what it has in hand for its next step. -/
inductive RunnerCallAt where
  | entered (c : RunnerCall)
  | dated (req : RegisterRunner) (now : Time.Instant)
  | retrieved (p : RunnerStatusPatch) (runner : Runner)
  | checked (runner : Runner) (value : RunnerValue)
  /-- the runners that a sweep has still to mark, and the number of those that it marked -/
  | marking (now : Time.Instant) (left : List Runner) (marked : Nat)
  | returned (r : RunnerReply)

namespace Runners

variable (s : Store RunnerValue)

theorem register_perform (now : Time.Instant) (req : RegisterRunner) :
    (register now req).perform ⟨s, []⟩ =
      match (RunnerCreation.mk req.value).objection with
      | some o => (.error (.refused o), ⟨s, []⟩)
      | none =>
        let created := s.create ((RunnerCreation.mk req.value).appliedAt now)
        (.ok created.1, ⟨created.2, []⟩) := by
  cases h : (RunnerCreation.mk req.value).objection <;>
    simp [register, h, Repository.create, Except.mapError]

theorem get_perform (id : String) :
    (get id).perform ⟨s, []⟩ =
      match s.retrieve id with
      | some runner => (.ok runner, ⟨s, []⟩)
      | none => (.error (.notFound id), ⟨s, []⟩) := by
  cases h : s.retrieve id <;>
    simp [get, h, Repository.retrieve, Except.mapError]

theorem update_perform (runner : Runner) (value : RunnerValue) :
    (Repository.update runner value).perform ⟨s, []⟩ =
      match s.update runner value with
      | .ok (new, t) => (.ok new, ⟨t, []⟩)
      | .error e => (.error e, ⟨s, []⟩) := by
  cases h : s.update runner value <;> simp [Repository.update, h]

/-- With nothing in between a status is noted with the stored runner, and nothing refuses it. -/
theorem patchStatus_perform (now : Time.Instant) (id : String) (p : RunnerStatusPatch) :
    (patchStatus now id p).perform ⟨s, []⟩ =
      match s.retrieve id with
      | none => (.error (.notFound id), ⟨s, []⟩)
      | some runner =>
        let new : Runner := ⟨id, runner.version + 1, runner.value.pinged p.status now⟩
        (.ok new, ⟨s.put new, []⟩) := by
  simp only [patchStatus, Action.perform_bind, get_perform]
  cases stored : s.retrieve id with
  | none => rfl
  | some runner =>
    obtain ⟨-, rfl⟩ := Store.retrieve_mem stored
    have updated := Store.update_eq s runner runner (runner.value.pinged p.status now) stored
    rw [if_pos rfl] at updated
    simp [checkStatus, RunnerChange.objection, RunnerChange.applied, update_perform, updated,
      Except.mapError]

end Runners

namespace RunnerCall

/-- What comes of an action on a repository in memory, as a reply. -/
def answer {ε β : Type} (s : Store RunnerValue) (reply : Except ε β → RunnerReply)
    (a : Action (Repository RunnerValue) ε β) : RunnerReply × Store RunnerValue :=
  let (r, repository) := a.perform ⟨s, []⟩
  (reply r, repository.store)

/-- A call made as a whole, with nothing in between, at an instant. -/
def whole (clock : Time.Instant) (s : Store RunnerValue) :
    RunnerCall → RunnerReply × Store RunnerValue
  | register req => answer s .registered (Runners.register clock req)
  | patch id p => answer s .patched (Runners.patchStatus clock id p)
  | sweep now => answer s .swept (Runners.disconnectStale now)
  | purge f => answer s .purged (Repository.deleteFrom f)

end RunnerCall

namespace RunnerCallAt

open RunnerCall (answer)

/-- Goes on with what an action gives, or returns its error. -/
def andThen {ε β : Type} (s : Store RunnerValue) (a : Action (Repository RunnerValue) ε β)
    (failed : ε → RunnerReply) (next : β → RunnerCallAt) : RunnerCallAt × Store RunnerValue :=
  match a.perform ⟨s, []⟩ with
  | (.ok b, repository) => (next b, repository.store)
  | (.error e, repository) => (.returned (failed e), repository.store)

/-- The next step of a call, at an instant. -/
def step (clock : Time.Instant) (s : Store RunnerValue) :
    RunnerCallAt → Option (RunnerCallAt × Store RunnerValue)
  | .entered (.register req) => some (.dated req clock, s)
  | .dated req now => some (answer s .registered (Runners.register now req) |>.map .returned id)
  | .entered (.patch id p) =>
    some (andThen s (Runners.get id) (.patched ∘ .error) (.retrieved p))
  | .retrieved p runner =>
    match Runners.checkStatus clock runner p with
    | .error e => some (.returned (.patched (.error e)), s)
    | .ok value => some (.checked runner value, s)
  | .checked runner value =>
    let update := Action.rephrase RunnerError.ofStore (Repository.update runner value)
    some (answer s .patched update |>.map .returned id)
  | .entered (.sweep now) =>
    let all := Action.rephrase RunnerError.ofStore (Repository.all 0 Text.maxWord)
    some (andThen s all (.swept ∘ .error) fun page =>
      .marking now (page.items.filter fun r => r.value.isStale now) 0)
  | .marking _ [] marked => some (.returned (.swept (.ok marked)), s)
  | .marking now (r :: rs) marked =>
    match (Repository.update r (r.value.withStatus .disconnected)).perform ⟨s, []⟩ with
    | (.ok _, repository) => some (.marking now rs (marked + 1), repository.store)
    | (.error _, repository) => some (.marking now rs marked, repository.store)
  | .entered (.purge f) => some (answer s .purged (Repository.deleteFrom f) |>.map .returned id)
  | .returned _ => none

/-- What the step of a call can be, and what it leaves of the stored runners. -/
inductive Step (clock : Time.Instant) (s : Store RunnerValue) :
    RunnerCallAt → RunnerCallAt → Store RunnerValue → Prop
  | dates (req : RegisterRunner) : Step clock s (.entered (.register req)) (.dated req clock) s
  | registers (req : RegisterRunner) (now : Time.Instant)
      (valid : (RunnerCreation.mk req.value).objection = none) :
      Step clock s (.dated req now)
        (.returned (.registered (.ok (s.create ((RunnerCreation.mk req.value).appliedAt now)).1)))
        (s.create ((RunnerCreation.mk req.value).appliedAt now)).2
  | retrieves (id : String) (p : RunnerStatusPatch) (runner : Runner)
      (stored : s.retrieve id = some runner) :
      Step clock s (.entered (.patch id p)) (.retrieved p runner) s
  | checks (p : RunnerStatusPatch) (runner : Runner) :
      Step clock s (.retrieved p runner) (.checked runner (runner.value.pinged p.status clock)) s
  | patches (runner : Runner) (value : RunnerValue) (d : Runner)
      (stored : s.retrieve runner.id = some d) (version : d.version = runner.version) :
      Step clock s (.checked runner value)
        (.returned (.patched (.ok ⟨runner.id, d.version + 1, value⟩)))
        (s.put ⟨runner.id, d.version + 1, value⟩)
  | reads (now : Time.Instant) :
      Step clock s (.entered (.sweep now))
        (.marking now ((s.all 0 Text.maxWord).items.filter fun r => r.value.isStale now) 0) s
  | marks (now : Time.Instant) (r : Runner) (rs : List Runner) (marked : Nat) (d : Runner)
      (stored : s.retrieve r.id = some d) (version : d.version = r.version) :
      Step clock s (.marking now (r :: rs) marked) (.marking now rs (marked + 1))
        (s.put ⟨r.id, d.version + 1, r.value.withStatus .disconnected⟩)
  /-- the runner was updated since it was read, or deleted -/
  | passes (now : Time.Instant) (r : Runner) (rs : List Runner) (marked : Nat) :
      Step clock s (.marking now (r :: rs) marked) (.marking now rs marked) s
  | purges (f : Filter) :
      Step clock s (.entered (.purge f)) (.returned (.purged (.ok (s.deleteFrom f).1)))
        (s.deleteFrom f).2
  | ends (at_ : RunnerCallAt) (r : RunnerReply) (none : r.patched? = none) :
      Step clock s at_ (.returned r) s

/-- An update succeeds where the version is the stored one, and changes nothing elsewhere. -/
theorem update_cases (s : Store RunnerValue) (runner : Runner) (value : RunnerValue) :
    (∃ d, s.retrieve runner.id = some d ∧ d.version = runner.version ∧
      s.update runner value =
        .ok (⟨runner.id, d.version + 1, value⟩, s.put ⟨runner.id, d.version + 1, value⟩)) ∨
    ∃ e, s.update runner value = .error e := by
  cases h : s.retrieve runner.id with
  | none => exact .inr ⟨.notFound runner.id, by simp [Store.update, h]⟩
  | some d =>
    have updated := Store.update_eq s runner d value h
    by_cases version : d.version = runner.version
    · rw [if_pos version] at updated
      exact .inl ⟨d, rfl, version, updated⟩
    · rw [if_neg version] at updated
      exact .inr ⟨_, updated⟩

/-- A step of a call is one of those listed. -/
theorem step_cases {clock : Time.Instant} {s t : Store RunnerValue} {at_ after : RunnerCallAt}
    (h : at_.step clock s = some (after, t)) : Step clock s at_ after t := by
  cases at_ with
  | entered c =>
    cases c with
    | register req =>
      obtain ⟨rfl, rfl⟩ : .dated req clock = after ∧ s = t := by simpa [step] using h
      exact .dates req
    | patch id p =>
      simp only [step, andThen, Runners.get_perform, Option.some.injEq] at h
      cases stored : s.retrieve id with
      | none =>
        rw [stored] at h
        cases h
        exact .ends _ _ rfl
      | some runner =>
        rw [stored] at h
        cases h
        exact .retrieves id p runner stored
    | sweep now =>
      simp only [step, andThen, Action.perform_rephrase, Repository.all, Repository.perform_call,
        Except.mapError, Option.some.injEq] at h
      cases h
      exact .reads now
    | purge f =>
      simp only [step, answer, Repository.deleteFrom, Repository.perform_call,
        Option.some.injEq] at h
      cases h
      exact .purges f
  | dated req now =>
    simp only [step, answer, Runners.register_perform, Option.some.injEq] at h
    cases valid : (RunnerCreation.mk req.value).objection with
    | some o =>
      rw [valid] at h
      cases h
      exact .ends _ _ rfl
    | none =>
      rw [valid] at h
      cases h
      exact .registers req now valid
  | retrieved p runner =>
    simp only [step, Runners.checkStatus, RunnerChange.objection, RunnerChange.applied,
      Option.some.injEq] at h
    cases h
    exact .checks p runner
  | checked runner value =>
    simp only [step, answer, Action.perform_rephrase, Runners.update_perform,
      Option.some.injEq] at h
    rcases update_cases s runner value with ⟨d, stored, version, updated⟩ | ⟨e, refused⟩
    · rw [updated] at h
      cases h
      exact .patches runner value d stored version
    · rw [refused] at h
      cases h
      exact .ends _ _ rfl
  | marking now left marked =>
    cases left with
    | nil =>
      simp only [step, Option.some.injEq] at h
      cases h
      exact .ends _ _ rfl
    | cons r rs =>
      simp only [step, Runners.update_perform] at h
      rcases update_cases s r (r.value.withStatus .disconnected) with
        ⟨d, stored, version, updated⟩ | ⟨e, refused⟩
      · rw [updated] at h
        cases h
        exact .marks now r rs marked d stored version
      · rw [refused] at h
        cases h
        exact .passes now r rs marked
  | returned r => simp [step] at h

/-- One step of a call after the other, with nothing in between. -/
def Alone (clock : Time.Instant) :
    RunnerCallAt × Store RunnerValue → RunnerCallAt × Store RunnerValue → Prop :=
  Relation.ReflTransGen fun x y => x.1.step clock x.2 = some y

theorem Alone.step {clock : Time.Instant} {x y z : RunnerCallAt × Store RunnerValue}
    (h : x.1.step clock x.2 = some y) (rest : Alone clock y z) : Alone clock x z :=
  Relation.ReflTransGen.head h rest

theorem Alone.refl {clock : Time.Instant} {x : RunnerCallAt × Store RunnerValue} :
    Alone clock x x :=
  Relation.ReflTransGen.refl

/-- What a sweep has still to mark, marked with nothing in between. -/
theorem alone_marking (clock now : Time.Instant) {left : List Runner} {marked n : Nat}
    {s : Store RunnerValue} {swept : Repository RunnerValue}
    (h : (Runners.disconnectEach left).run ⟨s, []⟩ = (n, swept)) :
    Alone clock (.marking now left marked, s)
      (.returned (.swept (.ok (marked + n))), swept.store) := by
  induction left generalizing marked n s with
  | nil =>
    cases h
    exact Alone.step rfl Alone.refl
  | cons r rs ih =>
    have updated := Runners.update_perform s r (r.value.withStatus .disconnected)
    rcases update_cases s r (r.value.withStatus .disconnected) with
      ⟨d, -, -, accepted⟩ | ⟨e, refused⟩
    · rw [accepted] at updated
      rw [Runners.disconnectEach, run_bind_of_run updated] at h
      obtain ⟨k, u, rest, last⟩ := exists_of_bind h
      cases last
      rw [← Nat.add_assoc]
      exact Alone.step (by simp only [RunnerCallAt.step, updated]) (ih rest)
    · rw [refused] at updated
      rw [Runners.disconnectEach, run_bind_of_run updated] at h
      obtain ⟨k, u, rest, last⟩ := exists_of_bind h
      cases last
      rw [← Nat.add_assoc, Nat.add_zero]
      exact Alone.step (by simp only [RunnerCallAt.step, updated]) (ih rest)

/-- The steps of a call with nothing in between come to the whole of it. -/
theorem alone_whole (clock : Time.Instant) (s : Store RunnerValue) (c : RunnerCall) :
    Alone clock (.entered c, s) (.returned (c.whole clock s).1, (c.whole clock s).2) := by
  cases c with
  | register req => exact Alone.step rfl (Alone.step rfl Alone.refl)
  | patch id p =>
    cases found : s.retrieve id with
    | none =>
      have got : (Runners.get id).perform ⟨s, []⟩ = (.error (.notFound id), ⟨s, []⟩) := by
        rw [Runners.get_perform, found]
      refine Alone.step (y := (.returned (.patched (.error (.notFound id))), s)) ?_ ?_
      · simp [RunnerCallAt.step, andThen, got]
      · have whole : (RunnerCall.patch id p).whole clock s =
            (.patched (.error (.notFound id)), s) := by
          simp [RunnerCall.whole, answer, Runners.patchStatus, got]
        rw [whole]
        exact Alone.refl
    | some runner =>
      have got : (Runners.get id).perform ⟨s, []⟩ = (.ok runner, ⟨s, []⟩) := by
        rw [Runners.get_perform, found]
      let value := runner.value.pinged p.status clock
      have whole : (RunnerCall.patch id p).whole clock s = answer s .patched
          (Action.rephrase RunnerError.ofStore (Repository.update runner value)) := by
        simp [RunnerCall.whole, answer, Runners.patchStatus, got, Runners.checkStatus,
          RunnerChange.objection, RunnerChange.applied, value]
      rw [whole]
      refine Alone.step (y := (.retrieved p runner, s)) ?_ ?_
      · simp [RunnerCallAt.step, andThen, got]
      · exact Alone.step (y := (.checked runner value, s)) rfl (Alone.step rfl Alone.refl)
  | sweep now =>
    let stale := (s.all 0 Text.maxWord).items.filter fun r => r.value.isStale now
    have marked := @alone_marking clock now stale 0 _ s _ rfl
    rw [Nat.zero_add] at marked
    refine Alone.step (y := (.marking now stale 0, s)) ?_ ?_
    · simp [RunnerCallAt.step, andThen, Repository.all, Except.mapError, stale]
    · have whole : (RunnerCall.sweep now).whole clock s =
          (.swept (.ok ((Runners.disconnectEach stale).run ⟨s, []⟩).1),
            ((Runners.disconnectEach stale).run ⟨s, []⟩).2.store) := by
        simp only [RunnerCall.whole, answer, Runners.disconnectStale, Action.perform_bind,
          Action.perform_rephrase, Repository.all, Repository.perform_call, Except.mapError]
        rfl
      rw [whole]
      exact marked
  | purge f => exact Alone.step rfl Alone.refl

end RunnerCallAt

/-- Runners and calls over them, each known by its position, with what the clock shows. -/
structure Roster where
  clock : Time.Instant
  store : Store RunnerValue
  calls : List RunnerCallAt

inductive RosterEvent where
  /-- the clock goes on to an instant -/
  | tick (now : Time.Instant)
  /-- a new call begins -/
  | enter (c : RunnerCall)
  /-- the call at a position makes its next step -/
  | advance (i : Nat)

namespace Roster

def start (clock : Time.Instant) (s : Store RunnerValue) : Roster := ⟨clock, s, []⟩

/-- What an event makes of a roster. The clock never goes back, and a call that has returned makes
no more steps. -/
def react (t : Roster) : RosterEvent → Roster
  | .tick now => if now.before t.clock then t else { t with clock := now }
  | .enter c => { t with calls := t.calls ++ [.entered c] }
  | .advance i =>
    match t.calls[i]? with
    | none => t
    | some at_ =>
      match at_.step t.clock t.store with
      | none => t
      | some (after, store) => { t with store, calls := t.calls.set i after }

def run (t : Roster) (es : List RosterEvent) : Roster := es.foldl react t

@[simp]
theorem run_nil (t : Roster) : t.run [] = t := rfl

theorem run_append (t : Roster) (early late : List RosterEvent) :
    t.run (early ++ late) = (t.run early).run late :=
  List.foldl_append

theorem run_snoc (t : Roster) (es : List RosterEvent) (e : RosterEvent) :
    t.run (es ++ [e]) = (t.run es).react e :=
  t.run_append es [e]

/-- The step of a call stores runners and moves the call on; nothing else changes. -/
theorem react_advance_cases (t : Roster) (i : Nat) :
    t.react (.advance i) = t ∨ ∃ at_ after u, t.calls[i]? = some at_ ∧
      RunnerCallAt.Step t.clock t.store at_ after u ∧
      t.react (.advance i) = ⟨t.clock, u, t.calls.set i after⟩ := by
  cases hi : t.calls[i]? with
  | none => exact .inl (by simp [react, hi])
  | some at_ =>
    cases hstep : at_.step t.clock t.store with
    | none => exact .inl (by simp [react, hi, hstep])
    | some y =>
      have cases_ := RunnerCallAt.step_cases hstep
      exact .inr ⟨at_, y.1, y.2, rfl, cases_, by simp [react, hi, hstep]⟩

end Roster

end JobDispatch

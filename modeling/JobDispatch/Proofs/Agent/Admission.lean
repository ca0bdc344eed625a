import JobDispatch.Agent.Enrolment
import JobDispatch.Proofs.Client.Classification
import JobDispatch.Proofs.Client.Transparent
import JobDispatch.Proofs.Registry.Silence

/-!
A runner registers over a line that loses requests and replies. A registry does not know that two
registrations are one and the same: each that arrives brings in a runner of its own, and the runner
never learns of those whose replies were lost.
-/

namespace JobDispatch

open Http (Request Url)

/-- A registration whose body is not read is answered with what is amiss with it. -/
theorem Registry.serve_register_unread (now : Time.Instant) {r : Request} {a : Http.Response}
    (post : r.method = .post) (path : r.path = '/' :: "runners".toList)
    (unread : r.json (α := RegisterRunner) = .error a) : serve now r = return a := by
  have resource : Resource.ofPath? r.path = some .runners := by rw [path, Resource.ofPath?_runners]
  rw [serve_of_path resource (by simp [post])]
  simp only [answer, post, withBody, unread]

namespace Enrolment

variable {σ : Type} {register : StateM σ (Except RegistryError String)} {left pause : Nat}
  {s t u : σ} {id : String} {e : RegistryError}

theorem runFrom_answered (h : register.run s = (.ok id, t)) :
    (runFrom register (fun _ => return) left pause).run s = (.ok id, t) := by
  rw [runFrom.eq_def]
  exact run_bind_of_run h

theorem runFrom_again (h : register.run s = (.error e, u)) (transient : e.isTransient = true) :
    (runFrom register (fun _ => return) (left + 1) pause).run s =
      (runFrom register (fun _ => return) left (nextPause pause)).run u := by
  rw [runFrom.eq_def, run_bind_of_run h]
  simp only [transient]
  rfl

/-- An enrolment ends well with its first attempt, or goes on after an attempt that nobody
answered. -/
theorem runFrom_cases (h : (runFrom register (fun _ => return) left pause).run s = (.ok id, t)) :
    register.run s = (.ok id, t) ∨ ∃ n e u, left = n + 1 ∧ register.run s = (.error e, u) ∧
      e.isTransient = true ∧
      (runFrom register (fun _ => return) n (nextPause pause)).run u = (.ok id, t) := by
  rw [runFrom.eq_def] at h
  obtain ⟨x, u, attempt, rest⟩ := exists_of_bind h
  cases x with
  | ok got =>
    cases rest
    exact .inl attempt
  | error e =>
    cases transient : e.isTransient with
    | false =>
      simp only [transient] at rest
      cases rest
    | true =>
      simp only [transient] at rest
      cases left with
      | zero => cases rest
      | succ n => exact .inr ⟨n, e, u, rfl, attempt, transient, rest⟩

end Enrolment

/-- What becomes of a registration and of the reply to it. -/
inductive Fate where
  | lost (why : String)
  /-- the registry acts on the request, and its reply is lost -/
  | unheard (why : String)
  /-- the registry acts on the request, and its reply breaks off -/
  | broken
  | heard

namespace Fate

/-- Whether nobody answers, as far as the runner knows. -/
def isSilent : Fate → Bool
  | lost _ | unheard _ => true
  | _ => false

def isUnheard : Fate → Bool
  | unheard _ => true
  | _ => false

/-- The reply of a registry as the runner receives it. -/
def deliver : Fate → Reply → Reply
  | lost why, _ | unheard why, _ => .nothing why
  | broken, .full status _ => .cut status
  | _, reply => reply

/-- What comes of an attempt to register that brings in a runner if it arrives. -/
def outcome (id : String) : Fate → Except RegistryError String
  | lost why | unheard why => .error (.ofClient (.unanswered why))
  | broken => .error (.ofClient .noValue)
  | heard => .ok id

variable {fate : Fate} {id given : String} {e : RegistryError}

theorem outcome_ok (h : .ok given = fate.outcome id) : fate = .heard ∧ given = id := by
  cases fate with
  | heard => exact ⟨rfl, Except.ok.inj h⟩
  | lost why => cases h
  | unheard why => cases h
  | broken => cases h

theorem outcome_transient (h : .error e = fate.outcome id) (transient : e.isTransient = true) :
    fate.isSilent = true := by
  cases fate with
  | lost why => rfl
  | unheard why => rfl
  | broken =>
    cases h
    cases transient
  | heard => cases h

end Fate

/-- A request on its way: what happens to the runners of the registry before it arrives, the jobs
that are there then, and what becomes of it. -/
structure Journey where
  others : List RosterEvent
  jobs : Repository JobValue
  fate : Fate

/-- A registry where a runner registers. -/
structure Reception where
  roster : Roster
  /-- what the next requests will meet -/
  coming : Nat → Journey
  /-- the identities of the runners that the requests brought in -/
  admitted : List String

namespace Reception

def start (clock : Time.Instant) (coming : Nat → Journey) : Reception :=
  ⟨.start clock Registry.empty.runners.store, coming, []⟩

section

variable (w : Reception)

/-- The runners that the next request finds. -/
def found : Roster := w.roster.run (w.coming 0).others

def registry : Registry := ⟨(w.coming 0).jobs, ⟨w.found.store, []⟩⟩

/-- What there is after the next request, if it does not arrive. -/
def missed : Reception := ⟨w.found, fun n => w.coming (n + 1), w.admitted⟩

/-- What there is after the next request, if it arrives and leaves a store. -/
def served (s : Store RunnerValue) : Reception where
  roster := { w.found with store := s }
  coming n := w.coming (n + 1)
  admitted := w.admitted ++
    (s.entities.map Entity.id).filter fun id => (w.found.store.retrieve id).isNone

/-- The runner that the next request brings in if it arrives, and what is stored then. -/
def created (req : RegisterRunner) : Runner × Store RunnerValue :=
  w.found.store.create ((RunnerCreation.mk req.value).appliedAt w.found.clock)

/-- What there is after the next request. -/
def after (s : Store RunnerValue) : Reception :=
  match (w.coming 0).fate with
  | .lost _ => w.missed
  | _ => w.served s

end

variable (worded : Nat → List UInt8)

def send (u : Url) (r : Request) : StateM Reception Reply := fun w =>
  let (reply, registry) := (Registry.exchange worded w.found.clock u r).run w.registry
  ((w.coming 0).fate.deliver reply, w.after registry.runners.store)

/-- A runner registers, again and again with growing pauses as long as nobody answers. -/
def enrol (c : Client) (req : RegisterRunner) : StateM Reception (Except EnrolmentError String) :=
  Enrolment.run (c.enrol (send worded) req) fun _ => return

/-- A registration that a registry takes: it is not too large, and nothing speaks against it. -/
structure Acceptable (req : RegisterRunner) : Prop where
  small : Client.Reads req
  valid : (RunnerCreation.mk req.value).objection = none

variable {worded} {c : Client} {req : RegisterRunner} {w w' : Reception} {id : String}

theorem deliver_value_ok {α : Type} [Wire α] {fate : Fate} {reply : Reply} {a : α}
    (h : (fate.deliver reply).value = .ok a) : fate = .heard ∧ reply.value = .ok a := by
  cases fate with
  | lost why => cases h
  | unheard why => cases h
  | broken =>
    cases reply with
    | nothing why => cases h
    | cut status => cases h
    | full status body => cases h
  | heard => exact ⟨rfl, h⟩

section

variable (root : c.AtRoot)

include root

/-- One attempt, against what it would be with nothing in between. -/
theorem attempt_run (req : RegisterRunner) (worded : Nat → List UInt8) (w : Reception) :
    ∃ status body registry,
    ((c.registerRunner req).perform (Registry.exchange worded w.found.clock)).run w.registry =
      (Reply.value (.full status body), registry) ∧
    (c.enrol (send worded) req).run w =
      ((((w.coming 0).fate.deliver (.full status body)).value (α := Runner) |>.mapError
        RegistryError.ofClient).map Entity.id, w.after registry.runners.store) := by
  have asks : ∃ u, (c.registerRunner req).request =
      some (u, Request.writing .post "runners".toList req) :=
    root.requestTo (by simp) Resource.slug_runners.isPart
      (Http.Url.pathOf_single Resource.slug_runners) .post _
  obtain ⟨u, asks⟩ := asks
  refine ⟨_, _, _, Registry.perform_served asks, ?_⟩
  rw [Client.enrol, Client.seenByRunner, Call.perform, asks]
  rfl

/-- A runner gets an identity exactly as the registry gives it. -/
theorem attempt_ok (h : (c.enrol (send worded) req).run w = (.ok id, w')) :
    (w.coming 0).fate = .heard ∧ ∃ runner registry,
      ((c.registerRunner req).perform (Registry.exchange worded w.found.clock)).run w.registry =
        (.ok runner, registry) ∧
      id = runner.id ∧ w' = w.after registry.runners.store := by
  obtain ⟨status, body, registry, served, ran⟩ := attempt_run root req worded w
  obtain ⟨got, rfl⟩ := Prod.mk.inj (h.symm.trans ran)
  cases read : ((w.coming 0).fate.deliver (.full status body)).value (α := Runner) with
  | error e =>
    rw [read] at got
    cases got
  | ok runner =>
    rw [read] at got
    obtain ⟨heard, value⟩ := deliver_value_ok read
    rw [value] at served
    exact ⟨heard, runner, registry, served, Except.ok.inj got, rfl⟩

variable (live : LiveFits req.timeToLive)

include live

/-- Whatever is stored, an acceptable registration stores a runner of its own. -/
theorem exchange_acceptable (acceptable : Acceptable req) (worded : Nat → List UInt8)
    (w : Reception) :
    ((c.registerRunner req).perform (Registry.exchange worded w.found.clock)).run w.registry =
      (.ok (w.created req).1, { w.registry with runners := ⟨(w.created req).2, []⟩ }) := by
  have performed : (Runners.register w.found.clock req).perform w.registry.runners =
      (.ok (w.created req).1, ⟨(w.created req).2, []⟩) := by
    rw [registry, Runners.register_perform, acceptable.valid, created]
  rw [Client.registerRunner_exchange root live acceptable.small]
  exact Registry.outcome_of_ok (Registry.perform_onRunners performed)

/-- Whatever is stored, any other registration is refused. -/
theorem exchange_unacceptable (unacceptable : ¬ Acceptable req) (worded : Nat → List UInt8)
    (w : Reception) : ∃ e registry,
    ((c.registerRunner req).perform (Registry.exchange worded w.found.clock)).run w.registry =
      (.error e, registry) := by
  by_cases small : Client.Reads req
  · have invalid : (RunnerCreation.mk req.value).objection ≠ none :=
      fun valid => unacceptable ⟨small, valid⟩
    obtain ⟨o, objection⟩ := Option.ne_none_iff_exists'.mp invalid
    have performed : (Runners.register w.found.clock req).perform w.registry.runners =
        (.error (.refused o), ⟨w.found.store, []⟩) := by
      rw [registry, Runners.register_perform, objection]
    rw [Client.registerRunner_exchange root live small]
    exact ⟨_, _, Registry.outcome_of_error (Registry.perform_onRunners performed)⟩
  · let r := Request.writing .post "runners".toList req
    have asks : ∃ u, (c.registerRunner req).request = some (u, r) :=
      root.requestTo (by simp) Resource.slug_runners.isPart
        (Http.Url.pathOf_single Resource.slug_runners) .post _
    obtain ⟨u, asks⟩ := asks
    have refused : r.json (α := RegisterRunner) = .error (.bare 413) :=
      Request.json_of_tooLarge rfl (Nat.not_le.mp small)
    have served : Registry.serve w.found.clock r = return .bare 413 :=
      Registry.serve_register_unread w.found.clock rfl
        (Request.path_eq rfl Resource.slug_runners.isPart) refused
    have failure : isSuccess 413 = false := rfl
    refine ⟨.ofResponse 413 (some (worded 413)), w.registry, ?_⟩
    rw [Registry.perform_served asks, served]
    exact congrArg (·, w.registry) (Reply.value_of_failure failure)

end

/-- The runners of a registry are in order, and no identity was given to two of those that the
requests brought in. -/
structure Orderly (w : Reception) : Prop where
  kept : w.roster.Kept
  unique : w.admitted.Nodup
  issued : ∀ id ∈ w.admitted, ∃ n ≤ w.roster.store.issued,
    id = Store.idOf w.roster.store.label n

/-- A new runner is the only one that was not there before. -/
theorem newcomers_create {s : Store RunnerValue} (hs : s.Sound) (value : RunnerValue) :
    (((s.create value).2.entities.map Entity.id).filter fun id => (s.retrieve id).isNone) =
      [(s.create value).1.id] := by
  have stored : (s.entities.map Entity.id).filter (fun id => (s.retrieve id).isNone) = [] := by
    refine List.filter_eq_nil_iff.mpr ?_
    intro id hid
    obtain ⟨e, he, rfl⟩ := List.mem_map.mp hid
    simp [hs.retrieve_of_mem he]
  have fresh := Store.create_fresh s hs value
  change (s.entities ++ [(s.create value).1] |>.map Entity.id).filter _ = _
  rw [List.map_append, List.filter_append, stored]
  simp [fresh]

/-- What there is after the next request, if it brings in a runner. -/
def accept (w : Reception) (req : RegisterRunner) : Reception := w.served (w.created req).2

theorem Orderly.found (h : w.Orderly) : w.found.Kept ∧ w.roster.store.Onward w.found.store :=
  h.kept.run (w.coming 0).others

theorem Orderly.admitted_accept (h : w.Orderly) (req : RegisterRunner) :
    (w.accept req).admitted = w.admitted ++ [(w.created req).1.id] :=
  congrArg (w.admitted ++ ·) (newcomers_create h.found.1.sound _)

theorem Orderly.missed (h : w.Orderly) : w.missed.Orderly := by
  obtain ⟨kept, onward⟩ := h.found
  refine ⟨kept, h.unique, ?_⟩
  intro id hid
  obtain ⟨n, given, rfl⟩ := h.issued id hid
  exact ⟨n, given.trans onward.grows.issued, congrArg (Store.idOf · n) onward.grows.label.symm⟩

theorem Orderly.accept (h : w.Orderly) (valid : (RunnerCreation.mk req.value).objection = none) :
    (w.accept req).Orderly := by
  obtain ⟨kept, unique, issued⟩ := h.missed
  have step : RunnerCallAt.Step w.found.clock w.found.store (.dated req w.found.clock)
      (.returned (.registered (.ok (w.created req).1))) (w.created req).2 :=
    .registers req w.found.clock valid
  have fits : (RunnerCallAt.dated req w.found.clock).Fits w.found.clock w.found.store :=
    Time.Instant.le_refl w.found.clock
  have grows := (step.onward kept.sound fits).grows
  have fresh : (w.created req).1.id ∉ w.admitted := by
    intro given
    obtain ⟨n, low, same⟩ := issued _ given
    have next : w.found.store.issued + 1 = n := Store.idOf_injective _ _ _ same
    exact absurd low (Nat.not_le.mpr (next ▸ Nat.lt_succ_self _))
  refine ⟨⟨step.sound kept.sound, step.heard fits kept.heard, ?_⟩, ?_, ?_⟩
  · intro at_ hat
    exact (kept.calls at_ hat).later (Time.Instant.le_refl w.found.clock) grows
  · rw [h.admitted_accept]
    exact List.Nodup.append unique (List.nodup_singleton _) (by simpa using fresh)
  · rw [h.admitted_accept]
    intro id hid
    rcases List.mem_append.mp hid with hid | hid
    · obtain ⟨n, low, rfl⟩ := issued id hid
      exact ⟨n, Nat.le_succ_of_le low, rfl⟩
    · obtain rfl := List.mem_singleton.mp hid
      exact ⟨_, Nat.le_refl _, rfl⟩

/-- How a runner comes to its identity: nobody answered its first attempts, and some of these were
acted on all the same. -/
structure Enrolled (w : Reception) (last : Nat) (earlier : List String) (id : String)
    (w' : Reception) : Prop where
  silent : ∀ i < last, (w.coming i).fate.isSilent = true
  heard : (w.coming last).fate = .heard
  /-- each attempt whose reply was lost left a runner -/
  count : earlier.length = (List.range last).countP fun i => (w.coming i).fate.isUnheard
  admitted : w'.admitted = w.admitted ++ earlier ++ [id]
  unique : w'.admitted.Nodup
  stored : (w'.roster.store.retrieve id).isSome = true

theorem countP_range_succ (p : Nat → Bool) (n : Nat) : (List.range (n + 1)).countP p =
    (if p 0 then 1 else 0) + (List.range n).countP (p ∘ (· + 1)) := by
  rw [List.range_succ_eq_map, List.countP_cons, List.countP_map, Nat.add_comm]

/-- An attempt that nobody answered comes before those that are still made. -/
theorem Enrolled.succ {u : Reception} {last : Nat} {earlier new : List String}
    (h : u.Enrolled last earlier id w') (silent : (w.coming 0).fate.isSilent = true)
    (coming : u.coming = fun n => w.coming (n + 1)) (admitted : u.admitted = w.admitted ++ new)
    (count : new.length = if (w.coming 0).fate.isUnheard then 1 else 0) :
    w.Enrolled (last + 1) (new ++ earlier) id w' where
  silent i hi := by
    cases i with
    | zero => exact silent
    | succ i =>
      have later := h.silent i (Nat.lt_of_succ_lt_succ hi)
      rwa [coming] at later
  heard := by
    have later := h.heard
    rwa [coming] at later
  count := by
    have later := h.count
    rw [coming] at later
    rw [List.length_append, count, later, countP_range_succ]
    rfl
  admitted := by rw [h.admitted, admitted, List.append_assoc w.admitted]
  unique := h.unique
  stored := h.stored

/-- What a request that is acted on, or not, leaves of an orderly registry. -/
theorem Orderly.after (h : w.Orderly) (valid : (RunnerCreation.mk req.value).objection = none) :
    let u := w.after (w.created req).2
    u.Orderly ∧ u.coming = (fun n => w.coming (n + 1)) ∧
      ((w.coming 0).fate.isSilent = true → ∃ new, u.admitted = w.admitted ++ new ∧
        new.length = if (w.coming 0).fate.isUnheard then 1 else 0) := by
  cases fate : (w.coming 0).fate with
  | lost why =>
    rw [Reception.after, fate]
    exact ⟨h.missed, rfl, fun _ => ⟨[], (List.append_nil _).symm, rfl⟩⟩
  | unheard why =>
    rw [Reception.after, fate]
    exact ⟨h.accept valid, rfl, fun _ => ⟨_, h.admitted_accept req, rfl⟩⟩
  | broken =>
    rw [Reception.after, fate]
    exact ⟨h.accept valid, rfl, nofun⟩
  | heard =>
    rw [Reception.after, fate]
    exact ⟨h.accept valid, rfl, nofun⟩

section

variable (root : c.AtRoot) (live : LiveFits req.timeToLive) (acceptable : Acceptable req)

include root live acceptable

/-- An attempt with an acceptable registration. -/
theorem attempt_acceptable (worded : Nat → List UInt8) (w : Reception) :
    (c.enrol (send worded) req).run w =
      ((w.coming 0).fate.outcome (w.created req).1.id, w.after (w.created req).2) := by
  obtain ⟨status, body, registry, served, ran⟩ := attempt_run root req worded w
  obtain ⟨value, rfl⟩ := Prod.mk.inj
    (served.symm.trans (exchange_acceptable root live acceptable worded w))
  have success := (Reply.value_ok_iff.mp value).1
  rw [ran]
  cases (w.coming 0).fate with
  | lost why => rfl
  | unheard why => rfl
  | broken =>
    simp only [Fate.deliver, Reply.value, success, if_true]
    rfl
  | heard =>
    simp only [Fate.deliver, value]
    rfl

/-- The attempt that is answered brings in the runner whose identity comes back. -/
theorem enrolled_of_attempt (orderly : w.Orderly)
    (h : (c.enrol (send worded) req).run w = (.ok id, w')) : w.Enrolled 0 [] id w' := by
  obtain ⟨got, rfl⟩ :=
    Prod.mk.inj (h.symm.trans (attempt_acceptable root live acceptable worded w))
  obtain ⟨heard, rfl⟩ := Fate.outcome_ok got
  have same : w.after (w.created req).2 = w.accept req := by
    rw [Reception.after, heard, accept]
  have found : (w.created req).2.retrieve (w.created req).1.id = some (w.created req).1 := by
    rw [created, Store.retrieve_create, Store.create_fresh _ orderly.found.1.sound,
      Option.none_or, if_pos rfl]
  rw [same]
  exact
    { silent := nofun
      heard
      count := rfl
      admitted := by rw [orderly.admitted_accept, List.append_nil]
      unique := (orderly.accept acceptable.valid).unique
      stored := Option.isSome_iff_exists.mpr ⟨_, found⟩ }

/-- How a runner with up to `left` more attempts comes to its identity. -/
theorem runFrom_enrolled {left pause : Nat} (orderly : w.Orderly)
    (h : (Enrolment.runFrom (c.enrol (send worded) req) (fun _ => return) left pause).run w =
      (.ok id, w')) :
    ∃ last ≤ left, ∃ earlier, w.Enrolled last earlier id w' := by
  induction left generalizing w pause with
  | zero =>
    rcases Enrolment.runFrom_cases h with answered | ⟨n, e, u, zero, -⟩
    · exact ⟨0, Nat.le_refl 0, [], enrolled_of_attempt root live acceptable orderly answered⟩
    · cases zero
  | succ left ih =>
    rcases Enrolment.runFrom_cases h with answered | ⟨n, e, u, next, failed, transient, again⟩
    · exact ⟨0, Nat.zero_le _, [], enrolled_of_attempt root live acceptable orderly answered⟩
    · obtain rfl := Nat.succ.inj next
      obtain ⟨got, rfl⟩ :=
        Prod.mk.inj (failed.symm.trans (attempt_acceptable root live acceptable worded w))
      have silent := Fate.outcome_transient got transient
      obtain ⟨kept, coming, left_⟩ := orderly.after acceptable.valid
      obtain ⟨new, admitted, count⟩ := left_ silent
      obtain ⟨last, low, earlier, enrolled⟩ := ih kept again
      exact ⟨last + 1, Nat.succ_le_succ low, new ++ earlier,
        enrolled.succ silent coming admitted count⟩

end

/-- No runner gets an identity for a registration that is refused. -/
theorem acceptable_of_ok (root : c.AtRoot) (live : LiveFits req.timeToLive) {left pause : Nat}
    (h : (Enrolment.runFrom (c.enrol (send worded) req) (fun _ => return) left pause).run w =
      (.ok id, w')) : Acceptable req := by
  by_contra unacceptable
  have refused {u : Reception} : (c.enrol (send worded) req).run u ≠ (.ok id, w') := by
    intro answered
    obtain ⟨-, runner, registry, served, -⟩ := attempt_ok root answered
    obtain ⟨e, registry', error⟩ := exchange_unacceptable root live unacceptable worded u
    cases (Prod.mk.inj (served.symm.trans error)).1
  induction left generalizing w pause with
  | zero =>
    rcases Enrolment.runFrom_cases h with answered | ⟨n, e, u, zero, -⟩
    · exact refused answered
    · cases zero
  | succ left ih =>
    rcases Enrolment.runFrom_cases h with answered | ⟨n, e, u, next, -, -, again⟩
    · exact refused answered
    · obtain rfl := Nat.succ.inj next
      exact ih again

theorem orderly_start (clock : Time.Instant) (coming : Nat → Journey) :
    (start clock coming).Orderly where
  kept :=
    { sound := Store.sound_empty "R"
      heard := fun _ he => absurd he List.not_mem_nil
      calls := fun _ hat => absurd hat List.not_mem_nil }
  unique := List.nodup_nil
  issued := fun _ hid => absurd hid List.not_mem_nil

/-- However requests and replies are lost, and whatever goes on at a registry meanwhile: once a
runner has its identity, the registry stored a runner for each of the attempts before whose reply
was lost, and then the one with this identity, all of them different. It is the only one exactly
if no reply was lost. -/
theorem enrol_admitted (root : c.AtRoot) (live : LiveFits req.timeToLive) (clock : Time.Instant)
    (coming : Nat → Journey) (h : (enrol worded c req).run (start clock coming) = (.ok id, w')) :
    ∃ last < Enrolment.maxAttempts,
      (∀ i < last, (coming i).fate.isSilent = true) ∧ (coming last).fate = .heard ∧
      (∃ earlier, w'.admitted = earlier ++ [id] ∧
        earlier.length = (List.range last).countP fun i => (coming i).fate.isUnheard) ∧
      w'.admitted.Nodup ∧ (w'.roster.store.retrieve id).isSome = true ∧
      (w'.admitted = [id] ↔ ∀ i < last, (coming i).fate.isUnheard = false) := by
  have acceptable := acceptable_of_ok root live h
  obtain ⟨last, low, earlier, enrolled⟩ :=
    runFrom_enrolled root live acceptable (orderly_start clock coming) h
  have admitted : w'.admitted = earlier ++ [id] := enrolled.admitted
  refine ⟨last, Nat.lt_succ_of_le low, enrolled.silent, enrolled.heard,
    ⟨earlier, admitted, enrolled.count⟩, enrolled.unique, enrolled.stored, ?_⟩
  have none : earlier = [] ↔ ∀ i < last, (coming i).fate.isUnheard = false := by
    rw [← List.length_eq_zero_iff, enrolled.count, List.countP_eq_zero]
    simp [start]
  rw [← none, admitted]
  simp

/-- The reply to the first registration is lost, and no other. -/
def onceUnheard (n : Nat) : Journey :=
  ⟨[], .empty "J", if n = 0 then .unheard "timeout" else .heard⟩

def sampleRequest : RegisterRunner := ⟨some "host", some 60, some ⟨some ["c"], some ["n"]⟩⟩

theorem acceptable_sampleRequest : Acceptable sampleRequest :=
  ⟨show (Wire.write sampleRequest).utf8ByteSize ≤ Http.maxBody by decide +kernel, by decide⟩

theorem run_onceUnheard :
    ∃ w', (enrol (fun _ => []) Post.localhost sampleRequest).run (start .epoch onceUnheard) =
        (.ok "R2", w') ∧
      w'.admitted = ["R1", "R2"] ∧ w'.roster.store.entities.map Entity.id = ["R1", "R2"] := by
  have live : LiveFits sampleRequest.timeToLive := by decide
  let first := start .epoch onceUnheard
  let second := first.after (first.created sampleRequest).2
  have attempt (w : Reception) := attempt_acceptable Post.atRoot_localhost live
    acceptable_sampleRequest (fun _ => []) w
  have answered : (Post.localhost.enrol (send fun _ => []) sampleRequest).run second =
      (.ok "R2", second.after (second.created sampleRequest).2) :=
    (attempt second).trans (Prod.ext (by decide +kernel) rfl)
  refine ⟨_, (Enrolment.runFrom_again (attempt first) rfl).trans
    (Enrolment.runFrom_answered answered), ?_, ?_⟩ <;> decide +kernel

theorem enrol_admitted_onceUnheard :
    ∃ w', (enrol (fun _ => []) Post.localhost sampleRequest).run (start .epoch onceUnheard) =
        (.ok "R2", w') ∧ Post.localhost.AtRoot ∧ LiveFits sampleRequest.timeToLive ∧
      ∃ last < Enrolment.maxAttempts,
        (∀ i < last, (onceUnheard i).fate.isSilent = true) ∧ (onceUnheard last).fate = .heard ∧
        (∃ earlier, w'.admitted = earlier ++ ["R2"] ∧
          earlier.length = (List.range last).countP fun i => (onceUnheard i).fate.isUnheard) ∧
        w'.admitted.Nodup ∧ (w'.roster.store.retrieve "R2").isSome = true ∧
        (w'.admitted = ["R2"] ↔ ∀ i < last, (onceUnheard i).fate.isUnheard = false) := by
  obtain ⟨w', ran, -⟩ := run_onceUnheard
  have live : LiveFits sampleRequest.timeToLive := by decide
  exact ⟨w', ran, Post.atRoot_localhost, live,
    enrol_admitted Post.atRoot_localhost live .epoch onceUnheard ran⟩

/-- The runner with an identity is the second of two that were stored for it, and the first one
stays, of which nobody will ever be heard. -/
theorem not_alone_onceUnheard :
    ∃ w', (enrol (fun _ => []) Post.localhost sampleRequest).run (start .epoch onceUnheard) =
        (.ok "R2", w') ∧ w'.admitted ≠ ["R2"] ∧
      (w'.roster.store.retrieve "R1").isSome = true := by
  obtain ⟨w', ran, admitted, stored⟩ := run_onceUnheard
  refine ⟨w', ran, by simp [admitted], ?_⟩
  have first : "R1" ∈ w'.roster.store.entities.map Entity.id := by simp [stored]
  obtain ⟨e, he, same⟩ := List.mem_map.mp first
  exact List.find?_isSome.mpr ⟨e, he, by simp [same]⟩

end Reception

end JobDispatch

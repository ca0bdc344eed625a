import JobDispatch.Proofs.Agent.Line
import JobDispatch.Proofs.Agent.Program
import JobDispatch.Proofs.Registry.Lifecycle
import Mathlib.Data.List.Pairwise

/-!
Polling on a line that loses requests and replies. Every reservation that the runner hears of ends
in its pool or in a report, unless the poll turns fatal; a reservation that it does not hear of
leaves a job running that nobody runs.
-/

namespace JobDispatch

/-- Two patches that did not both make the same version of a job. -/
def Arrival.Apart (a b : Arrival) : Prop :=
  ∀ x y, a.reply = .ok x → b.reply = .ok y → x.id = y.id → x.version ≠ y.version

instance : Std.Symm Arrival.Apart where
  symm _ _ h x y hx hy hid hv := h y x hy hx hid.symm hv.symm

namespace Line

/-- The registry reserved a job for the runner. -/
def Reserved (l : Line) (job : Job) : Prop :=
  ∃ a ∈ l.arrivals, a.patch.reserves ∧ a.reply = .ok job

/-- The runner heard that a job was reserved for it. -/
def Got (l : Line) (job : Job) : Prop :=
  ∃ a ∈ l.arrivals, a.patch.reserves ∧ a.reply = .ok job ∧ a.heard

/-- A reserved job was accepted by the pool, or its report as done was accepted. -/
def Settled (l : Line) (job : Job) : Prop :=
  (job, .ok ()) ∈ l.given ∨
    ∃ a ∈ l.arrivals, a.id = job.id ∧ a.patch.version = job.version ∧ a.patch.reports ∧
      ∃ new, a.reply = .ok new

/-- Every patch that was accepted made a version of its own. -/
structure Versioned (l : Line) : Prop where
  sound : l.store.Sound
  known : ∀ a ∈ l.arrivals, ∀ job, a.reply = .ok job → l.store.Known job
  apart : l.arrivals.Pairwise Arrival.Apart

/-- All jobs that the runner got are settled, apart from the one that it may hold; and it gives
away and reports none but those. -/
structure Balanced (held : Option Job) (l : Line) : Prop extends Versioned l where
  holds : ∀ job, held = some job → l.Got job
  given : ∀ x ∈ l.given, l.Got x.1
  reported : ∀ a ∈ l.arrivals, a.patch.reports →
    ∃ job, l.Got job ∧ a.id = job.id ∧ a.patch.version = job.version
  settled : ∀ job, l.Got job → l.Settled job ∨ held = some job

variable {l m : Line} {held : Option Job} {job : Job}

theorem Versioned.next (h : l.Versioned) : l.next.Versioned := by
  have both : l.next.store.Sound ∧ ∀ a ∈ l.arrivals, ∀ job, a.reply = .ok job →
      l.next.store.Known job := by
    refine JobCall.sequence_keeps (P := fun s => s.Sound ∧ ∀ a ∈ l.arrivals, ∀ job,
      a.reply = .ok job → s.Known job) ?_ ⟨h.sound, h.known⟩
    intro c _ s ⟨hs, known⟩
    have effect := JobCall.whole_effect s c
    exact ⟨effect.sound hs, fun a ha job hr => (known a ha job hr).grows (effect.grows hs)⟩
  exact ⟨both.1, both.2, h.apart⟩

theorem Versioned.arrive (h : l.Versioned) {now : Time.Instant} {id : String} {p : JobPatch}
    {r : Except JobError Job} {t : Store JobValue}
    (effect : (JobCall.patch now id p).Effect l.next.store (.patched r) t) (heard : Bool) :
    (l.arrive ⟨id, p, r, heard⟩ t).Versioned := by
  have hn := h.next
  refine ⟨effect.sound hn.sound, ?_, ?_⟩
  · intro a ha job accepted
    rcases List.mem_append.mp ha with ha | ha
    · exact (hn.known a ha job accepted).grows (effect.grows hn.sound)
    · rw [List.mem_singleton.mp ha] at accepted
      obtain rfl : r = .ok job := accepted
      obtain ⟨d, value, found, -, rfl, rfl⟩ := effect.of_accepted
      have stored : (l.next.store.put ⟨id, d.version + 1, value⟩).retrieve id =
          some ⟨id, d.version + 1, value⟩ := by simp [Store.retrieve_put, found]
      exact Store.known_of_retrieve (effect.sound hn.sound) stored
  · refine List.pairwise_append.mpr ⟨h.apart, List.pairwise_singleton _ _, ?_⟩
    intro a ha b hb x y hx hy hid
    rw [List.mem_singleton.mp hb] at hy
    obtain rfl : r = .ok y := hy
    obtain ⟨d, value, found, -, rfl, rfl⟩ := effect.of_accepted
    -- what was accepted before is stored still, or the stored version is higher
    rcases (hn.known a ha x hx).latest d (hid ▸ found) with rfl | lower
    · exact Nat.ne_of_lt (Nat.lt_succ_self _)
    · exact Nat.ne_of_lt (Nat.lt_succ_of_lt lower)

/-- No job is reserved twice at one version. -/
theorem Versioned.arrival_eq (h : l.Versioned) {a b : Arrival} (ha : a ∈ l.arrivals)
    (hb : b ∈ l.arrivals) {x y : Job} (hx : a.reply = .ok x) (hy : b.reply = .ok y)
    (hid : x.id = y.id) (hv : x.version = y.version) : a = b := by
  by_contra ne
  exact h.apart.forall ha hb ne x y hx hy hid hv

theorem got_arrive {a : Arrival} {t : Store JobValue} :
    (l.arrive a t).Got job ↔ l.Got job ∨ a.patch.reserves ∧ a.reply = .ok job ∧ a.heard := by
  simp [Got, or_and_right, exists_or]

theorem Settled.arrive {a : Arrival} {t : Store JobValue} (h : l.Settled job) :
    (l.arrive a t).Settled job := by
  rcases h with given | ⟨b, hb, reported⟩
  · exact .inl given
  · exact .inr ⟨b, List.mem_append_left _ hb, reported⟩

theorem Balanced.next (h : l.Balanced held) : l.next.Balanced held :=
  ⟨h.toVersioned.next, h.holds, h.given, h.reported, h.settled⟩

/-- A reservation that is accepted is held, if the runner hears of it. -/
theorem Balanced.reserve (h : l.Balanced none) {now : Time.Instant} {id : String} {v : Nat}
    {r : Except JobError Job} {t : Store JobValue}
    (effect : (JobCall.patch now id (.reserve v)).Effect l.next.store (.patched r) t)
    (heard : Bool) :
    (l.arrive ⟨id, .reserve v, r, heard⟩ t).Balanced (if heard then r.toOption else none) := by
  have held_iff (job : Job) :
      (if heard then r.toOption else none) = some job ↔ r = .ok job ∧ heard := by
    cases heard <;> cases r <;> simp [Except.toOption]
  have reserves : (JobPatch.reserve v).reserves := beq_self_eq_true _
  refine ⟨h.toVersioned.arrive effect heard, ?_, ?_, ?_, ?_⟩
  · intro job hj
    exact got_arrive.mpr (.inr ⟨reserves, (held_iff job).mp hj⟩)
  · intro x hx
    exact got_arrive.mpr (.inl (h.given x hx))
  · intro a ha reports
    rcases List.mem_append.mp ha with ha | ha
    · obtain ⟨job, got, same⟩ := h.reported a ha reports
      exact ⟨job, got_arrive.mpr (.inl got), same⟩
    · rw [List.mem_singleton.mp ha] at reports
      exact absurd reserves (JobPatch.not_reserves_of_reports reports)
  · intro job got
    rcases got_arrive.mp got with got | ⟨-, accepted⟩
    · exact .inl ((h.settled job got).resolve_right nofun).arrive
    · exact .inr ((held_iff job).mpr accepted)

/-- A report of the job that is held; it is held still. -/
theorem Balanced.attempt (h : l.Balanced (some job)) {now : Time.Instant} {done : JobValue}
    (reports : (JobPatch.report job.version done).reports) {r : Except JobError Job}
    {t : Store JobValue}
    (effect : (JobCall.patch now job.id (.report job.version done)).Effect l.next.store
      (.patched r) t) (heard : Bool) :
    (l.arrive ⟨job.id, .report job.version done, r, heard⟩ t).Balanced (some job) := by
  have got_iff (job' : Job) :
      (l.arrive ⟨job.id, .report job.version done, r, heard⟩ t).Got job' ↔ l.Got job' := by
    rw [got_arrive]
    exact or_iff_left fun new => JobPatch.not_reserves_of_reports reports new.1
  refine ⟨h.toVersioned.arrive effect heard, ?_, ?_, ?_, ?_⟩
  · intro job' hj
    exact (got_iff job').mpr (h.holds job' hj)
  · intro x hx
    exact (got_iff x.1).mpr (h.given x hx)
  · intro a ha reports
    rcases List.mem_append.mp ha with ha | ha
    · obtain ⟨job', got, same⟩ := h.reported a ha reports
      exact ⟨job', (got_iff job').mpr got, same⟩
    · rw [List.mem_singleton.mp ha]
      exact ⟨job, (got_iff job).mpr (h.holds job rfl), rfl, rfl⟩
  · intro job' got
    exact (h.settled job' ((got_iff job').mp got)).imp Settled.arrive id

/-- A job that is settled need not be held. -/
theorem Balanced.settle (h : l.Balanced (some job)) (done : l.Settled job) : l.Balanced none := by
  refine ⟨h.toVersioned, ?_, h.given, h.reported, ?_⟩
  · intro job' hj
    cases hj
  · intro job' got
    rcases h.settled job' got with settled | same
    · exact .inl settled
    · exact .inl (Option.some.inj same ▸ done)

theorem Balanced.reserveFirst (h : l.Balanced none) {cs : List Job} {held : Option Job}
    (hr : (desk.reserveFirst cs).run l = (held, m)) : m.Balanced held := by
  induction cs generalizing l with
  | nil =>
    cases hr
    exact h
  | cons c cs ih =>
    rw [Desk.reserveFirst] at hr
    obtain ⟨a, n, hp, hr⟩ := exists_of_bind hr
    rcases patch_cases hp with ⟨why, rfl, hn⟩ | ⟨r, t, effect, rfl, rfl⟩
    · cases hn with
      | lost => exact ih h.next hr
      | unheard r t effect => exact ih (h.reserve effect false) hr
    · have reserved := h.reserve effect true
      cases r with
      | ok job =>
        cases hr
        exact reserved
      | error e => exact ih reserved hr

theorem Balanced.nextJob (h : l.Balanced none) {rules : DeskRules}
    {r : Except RegistryError (Option Job)} (hr : (desk.nextJob rules).run l = (r, m)) :
    m.Balanced (Program.reservedBy r) := by
  rw [Desk.nextJob] at hr
  obtain ⟨cs, n, hc, hr⟩ := exists_of_bind hr
  have listed : n.Balanced none := by
    rcases candidates_cases hc with rfl | rfl
    · exact h
    · exact h.next
  cases cs with
  | error e =>
    cases hr
    exact listed
  | ok cs =>
    obtain ⟨held, n, hf, hr⟩ := exists_of_bind hr
    cases hr
    exact listed.reserveFirst hf

/-- The job that is held is given to the pool, and is settled if the pool accepts it. -/
theorem Balanced.give (h : l.Balanced (some job)) {answer : Except PoolError Unit}
    (hg : (give job).run l = (answer, m)) :
    m.Balanced (some job) ∧ (answer = .ok () → m.Balanced none) := by
  cases hg
  generalize (l.openings 0).answer = answer
  have given : (l.hand job answer).Balanced (some job) := by
    refine ⟨⟨h.sound, h.known, h.apart⟩, h.holds, ?_, h.reported, ?_⟩
    · intro x hx
      rcases List.mem_append.mp hx with hx | hx
      · exact h.given x hx
      · rw [List.mem_singleton.mp hx]
        exact h.holds job rfl
    · intro job' got
      exact (h.settled job' got).imp (Or.imp_left (List.mem_append_left _)) id
  refine ⟨given, ?_⟩
  rintro rfl
  exact given.settle (.inl List.mem_concat_self)

/-- A report of the job that is held settles it, unless it turns fatal. -/
theorem Balanced.report (h : l.Balanced (some job)) {rules : DeskRules} {reason : String}
    {new : Job} (hr : (desk.report rules (job.failed reason)).run l = (.ok new, m)) :
    m.Balanced none := by
  have reports : (JobPatch.report job.version (job.failed reason).value).reports :=
    beq_self_eq_true _
  have last : Reported (Balanced (some job)) (job.failed reason) (.ok new) m := by
    refine reportFrom_cases ?_ h hr
    intro l m hl hm
    cases hm with
    | lost => exact hl.next
    | unheard r t effect => exact hl.attempt reports effect false
  cases last with
  | stored m kept new t effect =>
    have heard := kept.attempt reports effect true
    exact heard.settle (.inr ⟨_, List.mem_concat_self, rfl, rfl, reports, new, rfl⟩)

/-- A poll that does not turn fatal holds no job in the end. -/
theorem Balanced.pollFrom (h : l.Balanced none) {rules : DeskRules} {size room dispatched n : Nat}
    (hr : ((dispatch rules size).pollFrom room dispatched).run l = (.ok n, m)) :
    m.Balanced none := by
  induction room generalizing dispatched l with
  | zero =>
    cases hr
    exact h
  | succ room ih =>
    rw [Dispatch.pollFrom] at hr
    obtain ⟨idle, l', looked, hr⟩ := exists_of_bind hr
    obtain ⟨rfl, rfl⟩ := Prod.mk.inj looked
    cases idle : (l.openings 0).idle with
    | false =>
      rw [idle] at hr
      cases hr
      exact h
    | true =>
      rw [idle] at hr
      obtain ⟨r, l', next, hr⟩ := exists_of_bind hr
      have balanced := h.nextJob next
      match r with
      | .error e =>
        cases hr
        exact balanced
      | .ok none =>
        cases hr
        exact balanced
      | .ok (some job) =>
        obtain ⟨answer, l', gives, hr⟩ := exists_of_bind hr
        obtain ⟨given, accepted⟩ := balanced.give gives
        cases answer with
        | ok => exact ih (accepted rfl) hr
        | error e =>
          obtain ⟨r, l', reports, hr⟩ := exists_of_bind hr
          cases r with
          | ok new =>
            cases hr
            exact given.report reports
          | error f => cases hr

theorem balanced_start (es : List RegistryEvent) (coming : Nat → Transit)
    (openings : Nat → Opening) :
    (start (Registry.stored es) coming openings).Balanced none := by
  have none_arrived (a : Arrival) : a ∉ (start (Registry.stored es) coming openings).arrivals :=
    List.not_mem_nil
  refine ⟨⟨Registry.stored_sound es, ?_, .nil⟩, ?_, ?_, ?_, ?_⟩
  · exact fun a ha => absurd ha (none_arrived a)
  · intro job hj
    cases hj
  · exact fun x hx => absurd hx List.not_mem_nil
  · exact fun a ha => absurd ha (none_arrived a)
  · rintro job ⟨a, ha, -⟩
    exact absurd ha (none_arrived a)

/-- A reservation that the runner settled is one that it heard of. -/
theorem Balanced.heard_of_settled (h : l.Balanced held) {a : Arrival} (ha : a ∈ l.arrivals)
    (accepted : a.reply = .ok job) (done : l.Settled job) : a.heard := by
  have got : ∃ job', l.Got job' ∧ job'.id = job.id ∧ job'.version = job.version := by
    rcases done with given | ⟨b, hb, hid, hv, reports, -⟩
    · exact ⟨job, h.given _ given, rfl, rfl⟩
    · obtain ⟨job', got, hid', hv'⟩ := h.reported b hb reports
      exact ⟨job', got, hid'.symm.trans hid, hv'.symm.trans hv⟩
  obtain ⟨job', ⟨b, hb, -, accepted', heard⟩, hid, hv⟩ := got
  rwa [h.arrival_eq ha hb accepted accepted' hid.symm hv.symm]

/-- After a poll that did not turn fatal, all jobs that were reserved for the runner are settled if
and only if it heard of all their reservations. -/
theorem settled_iff_heard (rules : DeskRules) (size : Nat) (es : List RegistryEvent)
    (coming : Nat → Transit) (openings : Nat → Opening) :
    let x := (dispatch rules size).poll.run (start (Registry.stored es) coming openings)
    ((∃ n, x.1 = .ok n) → ∀ job, x.2.Reserved job → x.2.Settled job) ↔
      ((∃ n, x.1 = .ok n) →
        ∀ a ∈ x.2.arrivals, ∀ job, a.patch.reserves → a.reply = .ok job → a.heard) := by
  intro x
  have balanced (ok : ∃ n, x.1 = .ok n) : x.2.Balanced none := by
    obtain ⟨n, hn⟩ := ok
    exact (balanced_start es coming openings).pollFrom (Prod.ext hn rfl : x = (.ok n, x.2))
  constructor
  · intro h ok a ha job reserves accepted
    exact (balanced ok).heard_of_settled ha accepted (h ok job ⟨a, ha, reserves, accepted⟩)
  · rintro h ok job ⟨a, ha, reserves, accepted⟩
    have got : x.2.Got job := ⟨a, ha, reserves, accepted, h ok a ha job reserves accepted⟩
    exact ((balanced ok).settled job got).resolve_right nofun

/-- A job is reserved, but the reply is lost: it runs, and the pool has nothing to do. -/
theorem not_settled_unheard :
    let rules : DeskRules :=
      ⟨⟨some "a", some "c", some "n", some .pending, none⟩, 1, 3, ⟨0, 0⟩⟩
    let x := (dispatch rules 1).poll.run
      (start (Registry.stored [.launch .epoch ⟨some "n", some "c", some "a", []⟩])
        (fun n => ⟨[], .epoch, if n = 1 then .unheard "connection closed" else .heard⟩)
        fun _ => ⟨true, .ok ()⟩)
    ¬ ((∃ n, x.1 = .ok n) → ∀ job, x.2.Reserved job → x.2.Settled job) := by
  intro rules x h
  let value : JobValue :=
    ⟨some "n", some "c", [], none, .running, ⟨some .epoch, some .epoch, none⟩, some "a"⟩
  have ended : x.1 = .ok 0 := by decide +kernel
  have given : x.2.given = [] := by decide +kernel
  have arrivals : x.2.arrivals = [⟨"J1", .reserve 1, .ok ⟨"J1", 2, value⟩, false⟩] := by
    decide +kernel
  have reserved : x.2.Reserved ⟨"J1", 2, value⟩ :=
    ⟨_, arrivals ▸ List.mem_singleton_self _, by decide, rfl⟩
  rcases h ⟨0, ended⟩ _ reserved with accepted | ⟨a, ha, -, -, reports, -⟩
  · rw [given] at accepted
    cases accepted
  · rw [arrivals] at ha
    rw [List.mem_singleton.mp ha] at reports
    cases reports

end Line

end JobDispatch

import JobDispatch.Proofs.Registry.Cleaning
import JobDispatch.Proofs.Registry.Roster
import JobDispatch.Proofs.Time.Elapsed
import Mathlib.Data.List.Induction

/-!
Sweeps and heartbeats at the same time. A sweep marks runners as it read them, however long ago
that was; the version that guards each update sees to it that it marks those only that are still as
it read them. So a heartbeat that came since is never lost, and what is stored of when a runner was
last heard of never goes back.
-/

namespace JobDispatch

namespace RunnerValue

variable {u v w : RunnerValue} {now clock : Time.Instant}

/-- A runner is overdue when the instant at which its time to live ends lies before now, and it is
not marked yet. -/
def Overdue (now : Time.Instant) (v : RunnerValue) : Prop :=
  v.status ≠ some .disconnected ∧ ∃ ping ∈ v.lastPing, ∃ ttl ∈ v.timeToLive,
    ∃ limit ∈ ping.addSeconds ttl, limit < now

/-- The runner was last heard of when a clock shows an instant, or before. -/
def HeardBy (clock : Time.Instant) (v : RunnerValue) : Prop := ∀ ping ∈ v.lastPing, ping ≤ clock

/-- One value says that the runner was heard of no earlier than another says. -/
def HeardSince (v w : RunnerValue) : Prop := ∀ p ∈ v.lastPing, ∃ q ∈ w.lastPing, p ≤ q

theorem overdue_of_isStale (h : v.isStale now = true) : v.Overdue now := by
  unfold isStale at h
  cases hp : v.lastPing with
  | none => simp [hp] at h
  | some ping =>
    cases ht : v.timeToLive with
    | none => simp [hp, ht] at h
    | some ttl =>
      simp only [hp, ht, Bool.and_eq_true, bne_iff_ne, Option.any_eq_true] at h
      obtain ⟨marked, limit, ends, passed⟩ := h
      exact ⟨marked, ping, hp, ttl, ht, limit, ends, passed⟩

/-- Outside leap seconds a runner that is overdue has been silent for longer than its time to
live. -/
theorem Overdue.silent (h : v.Overdue now) (pings : ∀ ping ∈ v.lastPing, ping.IsPlain)
    (hnow : now.IsPlain) : v.Silent now := by
  obtain ⟨marked, ping, hp, ttl, ht, limit, ends, passed⟩ := h
  obtain ⟨plain, elapsed⟩ := Time.Instant.elapsed_addSeconds (pings ping hp) ends
  have less := (Time.Instant.before_iff plain hnow).mp passed
  rw [elapsed] at less
  exact ⟨marked, ping, hp, ttl, ht, less⟩

theorem lastPing_withStatus (v : RunnerValue) (status : RunnerStatus) :
    (v.withStatus status).lastPing = v.lastPing := by
  cases h : v.runtime <;> simp [withStatus, lastPing, h, Runtime.blank]

theorem lastPing_pinged (v : RunnerValue) (status : RunnerStatus) (instant : Time.Instant) :
    (v.pinged status instant).lastPing = some instant := rfl

theorem HeardBy.later {clock' : Time.Instant} (h : v.HeardBy clock) (hc : clock ≤ clock') :
    v.HeardBy clock' := by
  intro ping hp
  have early := h ping hp
  exact Time.Instant.le_trans early hc

theorem HeardSince.refl (v : RunnerValue) : v.HeardSince v :=
  fun p hp => ⟨p, hp, Time.Instant.le_refl p⟩

theorem HeardSince.trans (huv : u.HeardSince v) (hvw : v.HeardSince w) : u.HeardSince w := by
  intro p hp
  obtain ⟨q, hq, hpq⟩ := huv p hp
  obtain ⟨r, hr, hqr⟩ := hvw q hq
  exact ⟨r, hr, Time.Instant.le_trans hpq hqr⟩

/-- A heartbeat says that the runner was heard of when the clock was read. -/
theorem HeardBy.pinged (h : v.HeardBy clock) (status : RunnerStatus) :
    v.HeardSince (v.pinged status clock) :=
  fun p hp => ⟨clock, lastPing_pinged v status clock, h p hp⟩

theorem heardSince_withStatus (v : RunnerValue) (status : RunnerStatus) :
    v.HeardSince (v.withStatus status) := by
  intro p hp
  rw [← lastPing_withStatus v status] at hp
  exact ⟨p, hp, Time.Instant.le_refl p⟩

end RunnerValue

namespace Store

/-- What can become of stored runners: no version and no last ping goes back. -/
structure Onward (s t : Store RunnerValue) : Prop where
  grows : s.Grows t
  heard : ∀ id d e, s.retrieve id = some d → t.retrieve id = some e → d.value.HeardSince e.value

namespace Onward

variable {s t u : Store RunnerValue}

theorem refl (s : Store RunnerValue) : s.Onward s :=
  ⟨Grows.refl s, carries_refl RunnerValue.HeardSince.refl s⟩

theorem trans (hs : s.Sound) (hst : s.Onward t) (htu : t.Onward u) : s.Onward u :=
  ⟨hst.grows.trans htu.grows,
    Carries.trans (fun _ _ _ => .trans) hs hst.grows htu.grows hst.heard htu.heard⟩

theorem create (s : Store RunnerValue) (value : RunnerValue) : s.Onward (s.create value).2 :=
  ⟨grows_create s value, carries_create RunnerValue.HeardSince.refl s value⟩

theorem put {d e : Runner} (stored : s.retrieve e.id = some d) (version : d.version < e.version)
    (heard : d.value.HeardSince e.value) : s.Onward (s.put e) :=
  ⟨grows_put s d e stored version, carries_put RunnerValue.HeardSince.refl stored heard⟩

theorem deleteFrom (hs : s.Sound) (f : Filter) : s.Onward (s.deleteFrom f).2 :=
  ⟨grows_deleteFrom s hs f, carries_deleteFrom RunnerValue.HeardSince.refl hs f⟩

end Onward

end Store

namespace RunnerCallAt

variable {clock clock' : Time.Instant} {s t : Store RunnerValue} {at_ after : RunnerCallAt}

/-- What holds of a call between its steps: whatever it has in hand is stored or was, and no instant
that it noted lies ahead of the clock. -/
def Fits (clock : Time.Instant) (s : Store RunnerValue) : RunnerCallAt → Prop
  | .entered _ => True
  | .dated _ now => now ≤ clock
  | .retrieved _ runner => s.Known runner ∧ runner.value.HeardBy clock
  | .checked runner value =>
    s.Known runner ∧ runner.value.HeardSince value ∧ value.HeardBy clock
  | .marking now left _ => ∀ r ∈ left, s.Known r ∧ r.value.Overdue now
  | .returned _ => True

/-- The other calls may go on meanwhile, and the clock too. -/
theorem Fits.later (h : at_.Fits clock s) (hc : clock ≤ clock') (hst : s.Grows t) :
    at_.Fits clock' t := by
  cases at_ with
  | entered c => trivial
  | dated req now => exact Time.Instant.le_trans h hc
  | retrieved p runner => exact ⟨h.1.grows hst, h.2.later hc⟩
  | checked runner value =>
    obtain ⟨known, since, heard⟩ := h
    exact ⟨known.grows hst, since, heard.later hc⟩
  | marking now left marked =>
    intro r hr
    obtain ⟨known, overdue⟩ := h r hr
    exact ⟨known.grows hst, overdue⟩
  | returned r => trivial

/-- Whether a call is a sweep as of an instant. -/
def SweepsAsOf (now : Time.Instant) : RunnerCallAt → Prop
  | .entered (.sweep n) => n = now
  | .marking n _ _ => n = now
  | _ => False

theorem Step.sound (h : Step clock s at_ after t) (hs : s.Sound) : t.Sound := by
  cases h with
  | registers => exact hs.create _
  | patches => exact hs.put _
  | marks => exact hs.put _
  | purges => exact hs.deleteFrom _
  | dates => exact hs
  | retrieves => exact hs
  | checks => exact hs
  | reads => exact hs
  | passes => exact hs
  | ends => exact hs

/-- Whatever a step does to the stored runners, none is heard of less lately: what a step stores is
made of the very runner that it replaces. -/
theorem Step.onward (h : Step clock s at_ after t) (hs : s.Sound) (fits : at_.Fits clock s) :
    s.Onward t := by
  cases h with
  | registers => exact .create s _
  | patches runner value d stored version =>
    obtain ⟨known, since, -⟩ := fits
    obtain rfl := known.eq_of_version stored version
    exact .put stored (Nat.lt_succ_self _) since
  | marks now r rs marked d stored version =>
    obtain ⟨known, -⟩ := fits r List.mem_cons_self
    obtain rfl := known.eq_of_version stored version
    exact .put stored (Nat.lt_succ_self _) (r.value.heardSince_withStatus .disconnected)
  | purges f => exact .deleteFrom hs f
  | dates => exact .refl s
  | retrieves => exact .refl s
  | checks => exact .refl s
  | reads => exact .refl s
  | passes => exact .refl s
  | ends => exact .refl s

/-- A step stores nothing that was heard of after the clock's instant. -/
theorem Step.heard (h : Step clock s at_ after t) (fits : at_.Fits clock s)
    (heard : ∀ e ∈ s.entities, e.value.HeardBy clock) :
    ∀ e ∈ t.entities, e.value.HeardBy clock := by
  intro e he
  cases h with
  | registers req now valid =>
    rcases List.mem_append.mp he with he | he
    · exact heard e he
    · rw [List.mem_singleton.mp he]
      rintro ping ⟨⟩
      exact fits
  | patches runner value d stored version =>
    rcases Store.mem_replace he with rfl | he
    · exact fits.2.2
    · exact heard e he
  | marks now r rs marked d stored version =>
    rcases Store.mem_replace he with rfl | he
    · obtain ⟨known, -⟩ := fits r List.mem_cons_self
      obtain rfl := known.eq_of_version stored version
      intro ping hp
      rw [RunnerValue.lastPing_withStatus] at hp
      exact heard r (Store.retrieve_mem stored).1 ping hp
    · exact heard e he
  | purges f => exact heard e (List.mem_filter.mp he).1
  | dates => exact heard e he
  | retrieves => exact heard e he
  | checks => exact heard e he
  | reads => exact heard e he
  | passes => exact heard e he
  | ends => exact heard e he

theorem Step.fits (h : Step clock s at_ after t) (hs : s.Sound) (fits : at_.Fits clock s)
    (heard : ∀ e ∈ s.entities, e.value.HeardBy clock) : after.Fits clock t := by
  have grows := (h.onward hs fits).grows
  cases h with
  | dates req => exact Time.Instant.le_refl clock
  | retrieves id p runner stored =>
    have mem := (Store.retrieve_mem stored).1
    exact ⟨Store.known_of_retrieve hs stored, heard runner mem⟩
  | checks p runner =>
    obtain ⟨known, by_⟩ := fits
    refine ⟨known, by_.pinged p.status, ?_⟩
    rintro ping ⟨⟩
    exact Time.Instant.le_refl clock
  | reads now =>
    intro r hr
    obtain ⟨read, stale⟩ := List.mem_filter.mp hr
    have mem : r ∈ s.entities := Page.mem_of_window read
    have known := Store.known_of_retrieve hs (hs.retrieve_of_mem mem)
    exact ⟨known, RunnerValue.overdue_of_isStale stale⟩
  | marks now r rs marked d stored version =>
    intro q hq
    obtain ⟨known, overdue⟩ := fits q (List.mem_cons_of_mem r hq)
    exact ⟨known.grows grows, overdue⟩
  | passes now r rs marked =>
    intro q hq
    exact fits q (List.mem_cons_of_mem r hq)
  | registers => trivial
  | patches => trivial
  | purges => trivial
  | ends => trivial

end RunnerCallAt

namespace Roster

/-- What every event leaves as it is: the stored runners have identities of their own, and neither
they nor the calls were ahead of the clock. -/
structure Kept (t : Roster) : Prop where
  sound : t.store.Sound
  heard : ∀ e ∈ t.store.entities, e.value.HeardBy t.clock
  calls : ∀ at_ ∈ t.calls, at_.Fits t.clock t.store

namespace Kept

variable {t : Roster}

theorem tick (h : t.Kept) (now : Time.Instant) :
    (t.react (.tick now)).Kept ∧ t.store.Onward (t.react (.tick now)).store := by
  simp only [react]
  split_ifs with back
  · exact ⟨h, .refl t.store⟩
  · have later : t.clock ≤ now := Bool.eq_false_iff.mpr back
    refine ⟨⟨h.sound, ?_, ?_⟩, .refl t.store⟩
    · intro e he
      exact (h.heard e he).later later
    · intro at_ hat
      exact (h.calls at_ hat).later later (.refl t.store)

theorem enter (h : t.Kept) (c : RunnerCall) :
    (t.react (.enter c)).Kept ∧ t.store.Onward (t.react (.enter c)).store := by
  refine ⟨⟨h.sound, h.heard, ?_⟩, .refl t.store⟩
  intro at_ hat
  rcases List.mem_append.mp hat with hat | hat
  · exact h.calls at_ hat
  · rw [List.mem_singleton.mp hat]
    trivial

theorem advance (h : t.Kept) (i : Nat) :
    (t.react (.advance i)).Kept ∧ t.store.Onward (t.react (.advance i)).store := by
  rcases t.react_advance_cases i with same | ⟨at_, after, u, hi, step, moved⟩
  · rw [same]
    exact ⟨h, .refl t.store⟩
  · have fits := h.calls at_ (List.mem_of_getElem? hi)
    have onward := step.onward h.sound fits
    rw [moved]
    refine ⟨⟨step.sound h.sound, step.heard fits h.heard, ?_⟩, onward⟩
    intro other hother
    rcases List.mem_or_eq_of_mem_set hother with hother | rfl
    · exact (h.calls other hother).later (Time.Instant.le_refl t.clock) onward.grows
    · exact step.fits h.sound fits h.heard

theorem react (h : t.Kept) (e : RosterEvent) :
    (t.react e).Kept ∧ t.store.Onward (t.react e).store := by
  cases e with
  | tick now => exact h.tick now
  | enter c => exact h.enter c
  | advance i => exact h.advance i

/-- Over a whole run no version and no last ping goes back. -/
theorem run (h : t.Kept) (es : List RosterEvent) :
    (t.run es).Kept ∧ t.store.Onward (t.run es).store := by
  induction es generalizing t with
  | nil => exact ⟨h, .refl t.store⟩
  | cons e es ih =>
    obtain ⟨kept, step⟩ := h.react e
    obtain ⟨kept, rest⟩ := ih kept
    exact ⟨kept, step.trans h.sound rest⟩

end Kept

/-- The next step of a sweep as of an instant changes a runner that is stored. -/
structure Marks (t : Roster) (i : Nat) (now : Time.Instant) (runner : Runner) : Prop where
  sweeps : ∃ at_, t.calls[i]? = some at_ ∧ at_.SweepsAsOf now
  stored : t.store.retrieve runner.id = some runner
  changed : (t.react (.advance i)).store.retrieve runner.id ≠ some runner

/-- With the next step of a call a heartbeat of a runner succeeds. -/
structure Hears (t : Roster) (i : Nat) (id : String) : Prop where
  patches : ∃ runner value, t.calls[i]? = some (.checked runner value)
  succeeds : ∃ new : Runner, (t.react (.advance i)).calls[i]? =
    some (.returned (.patched (.ok new))) ∧ new.id = id

/-- What sweeps may do among heartbeats, in a run that events make of a roster. -/
structure Attentive (t : Roster) (es : List RosterEvent) : Prop where
  /-- what a sweep changes is a runner that is overdue as it is stored at that very moment, and
  nothing about it but its status -/
  overdue : ∀ i now runner, (t.run es).Marks i now runner →
    runner.value.Overdue now ∧
    ((∀ ping ∈ runner.value.lastPing, ping.IsPlain) → now.IsPlain → runner.value.Silent now) ∧
    ((t.run es).react (.advance i)).store =
      (t.run es).store.put ⟨runner.id, runner.version + 1, runner.value.disconnected⟩
  /-- ever since the sweep read the runners it was stored like that, and no heartbeat of it
  succeeded -/
  unheard : ∀ i now runner, (t.run es).Marks i now runner →
    ∃ early late, es = early ++ .advance i :: late ∧
      (t.run early).calls[i]? = some (.entered (.sweep now)) ∧
      (∀ mid rest, late = mid ++ rest →
        (t.run (early ++ .advance i :: mid)).store.retrieve runner.id = some runner) ∧
      ∀ mid j rest, late = mid ++ .advance j :: rest →
        ¬ (t.run (early ++ .advance i :: mid)).Hears j runner.id
  /-- what is stored of when a runner was last heard of never goes back -/
  onward : ∀ early late, es = early ++ late → ∀ id d e,
    (t.run early).store.retrieve id = some d → (t.run es).store.retrieve id = some e →
    d.value.HeardSince e.value

/-- A sweep that marks a runner has it in hand as it is stored. -/
theorem Marks.step {t : Roster} {i : Nat} {now : Time.Instant} {runner : Runner}
    (h : t.Marks i now runner) (kept : t.Kept) :
    (∃ left marked, t.calls[i]? = some (.marking now (runner :: left) marked)) ∧
      (t.react (.advance i)).store = t.store.put
        ⟨runner.id, runner.version + 1, runner.value.withStatus .disconnected⟩ := by
  obtain ⟨⟨at_, hi, sweeps⟩, stored, changed⟩ := h
  rcases t.react_advance_cases i with same | ⟨at_', after, u, hi', step, moved⟩
  · rw [same] at changed
    exact absurd stored changed
  · obtain rfl : at_ = at_' := Option.some.inj (hi.symm.trans hi')
    have fits := kept.calls at_ (List.mem_of_getElem? hi)
    rw [moved] at changed ⊢
    cases step with
    | marks now' r rs marked d stored' version =>
      obtain rfl : now' = now := sweeps
      obtain ⟨known, -⟩ := fits r List.mem_cons_self
      obtain rfl := known.eq_of_version stored' version
      rw [Store.retrieve_put, stored, Option.map_some] at changed
      by_cases same : runner.id = r.id
      · rw [same, stored', Option.some.injEq] at stored
        subst stored
        exact ⟨⟨rs, marked, hi⟩, rfl⟩
      · rw [if_neg same] at changed
        exact absurd rfl changed
    | reads => exact absurd stored changed
    | passes => exact absurd stored changed
    | ends => exact absurd stored changed
    | dates => cases sweeps
    | registers => cases sweeps
    | retrieves => cases sweeps
    | checks => cases sweeps
    | patches => cases sweeps
    | purges => cases sweeps

/-- A heartbeat that succeeds stores the runner under the next version. -/
theorem Hears.step {t : Roster} {i : Nat} {id : String} (h : t.Hears i id) :
    ∃ d new, t.store.retrieve id = some d ∧
      (t.react (.advance i)).store.retrieve id = some new ∧ new.version = d.version + 1 := by
  obtain ⟨⟨runner, value, hi⟩, new, after, rfl⟩ := h
  rcases t.react_advance_cases i with same | ⟨at_, next, u, hi', step, moved⟩
  · rw [same, hi] at after
    cases after
  · obtain rfl : .checked runner value = at_ := Option.some.inj (hi.symm.trans hi')
    obtain ⟨hlt, -⟩ := List.getElem?_eq_some_iff.mp hi
    rw [moved] at after ⊢
    rw [List.getElem?_set_self hlt, Option.some.injEq] at after
    subst after
    cases step with
    | patches _ _ d stored version =>
      refine ⟨d, ⟨runner.id, d.version + 1, value⟩, stored, ?_, rfl⟩
      rw [Store.retrieve_put, stored, Option.map_some, if_pos rfl]
    | ends _ _ none => cases none

/-- A sweep that has runners in hand read them at some time before, and they were stored then. -/
theorem read_before {t : Roster} (idle : t.calls = []) (es : List RosterEvent) {i : Nat}
    {now : Time.Instant} {left : List Runner} {marked : Nat}
    (h : (t.run es).calls[i]? = some (.marking now left marked)) :
    ∃ early late, es = early ++ .advance i :: late ∧
      (t.run early).calls[i]? = some (.entered (.sweep now)) ∧
      ∀ r ∈ left, r ∈ (t.run early).store.entities := by
  induction es using List.reverseRecOn generalizing left marked with
  | nil => simp [idle] at h
  | append_singleton es e ih =>
    rw [run_snoc] at h
    -- where the event leaves the sweep as it was, it was read when it was read before
    have before {left' : List Runner} {marked' : Nat}
        (h : (t.run es).calls[i]? = some (.marking now left' marked'))
        (sub : ∀ r ∈ left, r ∈ left') :
        ∃ early late, es ++ [e] = early ++ .advance i :: late ∧
          (t.run early).calls[i]? = some (.entered (.sweep now)) ∧
          ∀ r ∈ left, r ∈ (t.run early).store.entities := by
      obtain ⟨early, late, split, entered, read⟩ := ih h
      refine ⟨early, late ++ [e], by rw [split, List.append_assoc, List.cons_append], entered, ?_⟩
      intro r hr
      exact read r (sub r hr)
    have same (h : (t.run es).calls[i]? = some (.marking now left marked)) := before h fun _ => id
    cases e with
    | tick clock =>
      simp only [react] at h
      split_ifs at h
      · exact same h
      · exact same h
    | enter c =>
      simp only [react, List.getElem?_append, List.getElem?_singleton] at h
      split_ifs at h with hlt
      · exact same h
      · cases h
    | advance j =>
      rcases (t.run es).react_advance_cases j with stays | ⟨at_, after, u, hj, step, moved⟩
      · rw [stays] at h
        exact same h
      · rw [moved] at h
        by_cases hij : j = i
        · subst hij
          obtain ⟨hlt, -⟩ := List.getElem?_eq_some_iff.mp hj
          rw [List.getElem?_set_self hlt, Option.some.injEq] at h
          subst h
          cases step with
          | reads =>
            refine ⟨es, [], rfl, hj, ?_⟩
            intro r hr
            exact Page.mem_of_window (List.mem_filter.mp hr).1
          | marks _ r => exact before hj fun q hq => List.mem_cons_of_mem r hq
          | passes _ r => exact before hj fun q hq => List.mem_cons_of_mem r hq
        · rw [List.getElem?_set_ne hij] at h
          exact same h

/-- A runner that is stored at two moments as the same is so in between. -/
theorem Kept.retrieve_between {t : Roster} (h : t.Kept) (mid rest : List RosterEvent)
    {runner : Runner} (first : t.store.retrieve runner.id = some runner)
    (last : (t.run (mid ++ rest)).store.retrieve runner.id = some runner) :
    (t.run mid).store.retrieve runner.id = some runner := by
  obtain ⟨kept, onward⟩ := h.run mid
  obtain ⟨-, onward'⟩ := kept.run rest
  rw [run_append] at last
  have known := (Store.known_of_retrieve h.sound first).grows onward.grows
  rcases onward'.grows.stored runner.id runner last with ⟨d, stored, rfl | less⟩ | ⟨n, hn, hid⟩
  · exact stored
  · rcases known.latest d stored with rfl | greater
    · exact stored
    · omega
  · exact absurd hid (known.issued n hn)

/-- Sweeps, heartbeats, registrations and purges may go on at the same time in every way. -/
theorem attentive_run {clock : Time.Instant} {s : Store RunnerValue} (sound : s.Sound)
    (heard : ∀ e ∈ s.entities, e.value.HeardBy clock) (es : List RosterEvent) :
    (start clock s).Attentive es := by
  have start_kept : (start clock s).Kept :=
    ⟨sound, heard, fun _ hat => absurd hat List.not_mem_nil⟩
  obtain ⟨kept, -⟩ := start_kept.run es
  refine ⟨?_, ?_, ?_⟩
  · intro i now runner marks
    obtain ⟨⟨left, marked, hi⟩, put⟩ := marks.step kept
    obtain ⟨-, overdue⟩ := kept.calls _ (List.mem_of_getElem? hi) runner List.mem_cons_self
    have ⟨_, ping, hp, _⟩ := overdue
    refine ⟨overdue, overdue.silent, ?_⟩
    rw [put, RunnerValue.withStatus_of_heard hp]
  · intro i now runner marks
    obtain ⟨⟨left, marked, hi⟩, -⟩ := marks.step kept
    obtain ⟨early, late, rfl, entered, read⟩ := read_before rfl es hi
    obtain ⟨kept_early, -⟩ := start_kept.run early
    have first := kept_early.sound.retrieve_of_mem (read runner List.mem_cons_self)
    have same (mid rest : List RosterEvent) (split : late = mid ++ rest) :
        ((start clock s).run (early ++ .advance i :: mid)).store.retrieve runner.id =
          some runner := by
      have last := marks.stored
      rw [split, ← List.cons_append, run_append] at last
      rw [run_append]
      exact kept_early.retrieve_between (.advance i :: mid) rest first last
    refine ⟨early, late, rfl, entered, same, ?_⟩
    intro mid j rest split hears
    obtain ⟨d, new, before, after, version⟩ := hears.step
    have unchanged := same mid (.advance j :: rest) split
    have still := same (mid ++ [.advance j]) rest (by simp [split])
    rw [← List.cons_append, ← List.append_assoc, run_snoc, after, Option.some.injEq] at still
    rw [unchanged, Option.some.injEq] at before
    subst still before
    omega
  · rintro early late rfl id d e hd he
    obtain ⟨kept, -⟩ := start_kept.run early
    obtain ⟨-, onward⟩ := kept.run late
    rw [run_append] at he
    exact onward.heard id d e hd he

/-- Two runners that were not heard of for two minutes. -/
def quiet : Store RunnerValue :=
  ⟨"R", 2, [Registry.heardAt "a" .idle .epoch, Registry.heardAt "b" .running .epoch]⟩

theorem quiet_sound : quiet.Sound := by
  refine ⟨by decide, ?_⟩
  intro n _ e he h
  have first := congrArg (fun text : String => text.toList.head?) h
  simp only [quiet, List.mem_cons, List.not_mem_nil, or_false] at he
  rcases he with rfl | rfl
  · simp [quiet, Registry.heardAt, Store.idOf] at first
  · simp [quiet, Registry.heardAt, Store.idOf] at first

/-- A sweep reads both runners, and then one of them is heard of: the sweep passes over it and marks
the other one. -/
theorem attentive_quiet :
    let now : Time.Instant := ⟨120, 0, by decide⟩
    let es : List RosterEvent := [.enter (.sweep now), .enter (.patch "a" ⟨.running⟩), .advance 0,
      .advance 1, .advance 1, .advance 1, .advance 0]
    quiet.Sound ∧ (∀ e ∈ quiet.entities, e.value.HeardBy now) ∧
      (start now quiet).Attentive es ∧
      ((start now quiet).run es).Marks 0 now (Registry.heardAt "b" .running .epoch) ∧
      (((start now quiet).run (es ++ [.advance 0])).store.entities.map fun e =>
        (e.id, e.version, e.value.status)) =
          [("a", 2, some .running), ("b", 2, some .disconnected)] := by
  have heard : ∀ e ∈ quiet.entities, e.value.HeardBy ⟨120, 0, by decide⟩ := by
    intro e he ping hp
    simp only [quiet, List.mem_cons, List.not_mem_nil, or_false] at he
    rcases he with rfl | rfl
    · cases hp
      decide
    · cases hp
      decide
  refine ⟨quiet_sound, heard, attentive_run quiet_sound heard _, ⟨⟨_, rfl, rfl⟩, ?_, ?_⟩, ?_⟩
  · decide +kernel
  · decide +kernel
  · decide +kernel

end Roster

end JobDispatch

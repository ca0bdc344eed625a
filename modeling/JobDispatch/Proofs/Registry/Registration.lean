import JobDispatch.Proofs.Registry.Silence

/-!
What a registration lays down about a runner. The registry checks a runner then and never again:
sweeps and heartbeats store what they put together from what they read. Still nothing that was
checked gets lost, and nothing that was laid down changes, however these calls are mixed.
-/

namespace JobDispatch

/-- What is laid down about a runner when it is registered. -/
structure Registration where
  callback : Option String
  timeToLive : Option Int
  competencies : Option Competencies
  created : Option Time.Instant
  deriving DecidableEq

namespace RunnerValue

variable {v : RunnerValue} {clock : Time.Instant}

def registration (v : RunnerValue) : Registration :=
  ⟨v.callback, v.timeToLive, v.competencies, v.runtime.bind Runtime.created⟩

/-- One value says what another says of what is laid down. -/
def SameRegistration (v w : RunnerValue) : Prop := w.registration = v.registration

theorem SameRegistration.refl (v : RunnerValue) : v.SameRegistration v := rfl

theorem SameRegistration.trans (u v w : RunnerValue) (first : u.SameRegistration v)
    (second : v.SameRegistration w) : u.SameRegistration w :=
  Eq.trans second first

/-- Nothing is missing about a runner, its time to live is positive, and it was last heard of when
it was created or since. -/
structure Complete (v : RunnerValue) : Prop where
  callback : v.callback ≠ none
  timeToLive : ∃ ttl ∈ v.timeToLive, 0 < ttl
  competencies : ∃ k ∈ v.competencies, k.categories ≠ none ∧ k.names ≠ none
  runtime : ∃ r ∈ v.runtime, r.status ≠ none ∧
    ∃ created ∈ r.created, ∃ ping ∈ r.lastPing, created ≤ ping

/-- A runner that may be registered is complete then. -/
theorem complete_appliedAt (valid : (RunnerCreation.mk v).objection = none)
    (now : Time.Instant) : ((RunnerCreation.mk v).appliedAt now).Complete := by
  have heard : ∃ r ∈ ((RunnerCreation.mk v).appliedAt now).runtime, r.status ≠ none ∧
      ∃ created ∈ r.created, ∃ ping ∈ r.lastPing, created ≤ ping :=
    ⟨_, rfl, Option.some_ne_none _, now, rfl, now, rfl, Time.Instant.le_refl now⟩
  simp only [RunnerCreation.objection] at valid
  split_ifs at valid with callback
  cases ttl : v.timeToLive with
  | none => simp [ttl] at valid
  | some n =>
    simp only [ttl] at valid
    split_ifs at valid with positive
    cases competencies : v.competencies with
    | none => simp [competencies] at valid
    | some k =>
      simp only [competencies] at valid
      split_ifs at valid with categories names
      exact ⟨callback, ⟨n, ttl, not_le.mp positive⟩, ⟨k, competencies, categories, names⟩, heard⟩

theorem sameRegistration_withStatus (v : RunnerValue) (status : RunnerStatus) :
    v.SameRegistration (v.withStatus status) := by
  cases h : v.runtime <;>
    simp [SameRegistration, registration, RunnerValue.withStatus, h, Runtime.blank]

theorem sameRegistration_pinged (v : RunnerValue) (status : RunnerStatus) (now : Time.Instant) :
    v.SameRegistration (v.pinged status now) := by
  cases h : v.runtime <;>
    simp [SameRegistration, registration, RunnerValue.pinged, h, Runtime.blank]

theorem Complete.withStatus (h : v.Complete) (status : RunnerStatus) :
    (v.withStatus status).Complete := by
  obtain ⟨r, hr, -, heard⟩ := h.runtime
  refine ⟨h.callback, h.timeToLive, h.competencies, { r with status := some status }, ?_,
    Option.some_ne_none status, heard⟩
  simp [RunnerValue.withStatus, Option.mem_def.mp hr]

/-- A heartbeat comes no earlier than the last one, and so after the registration. -/
theorem Complete.pinged (h : v.Complete) (heard : v.HeardBy clock) (status : RunnerStatus) :
    (v.pinged status clock).Complete := by
  obtain ⟨r, hr, -, created, hc, ping, hp, order⟩ := h.runtime
  have last : ping ∈ v.lastPing := by simp [lastPing, Option.mem_def.mp hr, Option.mem_def.mp hp]
  refine ⟨h.callback, h.timeToLive, h.competencies,
    { r with status := some status, lastPing := some clock }, ?_,
    Option.some_ne_none status, created, hc, clock, rfl,
    Time.Instant.le_trans order (heard ping last)⟩
  simp [RunnerValue.pinged, Option.mem_def.mp hr]

end RunnerValue

namespace RunnerCallAt

variable {clock : Time.Instant} {s t : Store RunnerValue} {at_ after : RunnerCallAt}

/-- What holds of a call between its steps: it has only complete runners in hand, and what it is
about to store says of a runner what is laid down. -/
def Conforms : RunnerCallAt → Prop
  | .retrieved _ runner => runner.value.Complete
  | .checked runner value => value.Complete ∧ runner.value.SameRegistration value
  | .marking _ left _ => ∀ r ∈ left, r.value.Complete
  | _ => True

theorem Step.complete (h : Step clock s at_ after t) (conforms : at_.Conforms)
    (complete : ∀ e ∈ s.entities, e.value.Complete) : ∀ e ∈ t.entities, e.value.Complete := by
  intro e he
  cases h with
  | registers req now valid =>
    rcases List.mem_append.mp he with he | he
    · exact complete e he
    · rw [List.mem_singleton.mp he]
      exact RunnerValue.complete_appliedAt valid now
  | patches runner value d stored version =>
    rcases Store.mem_replace he with rfl | he
    · exact conforms.1
    · exact complete e he
  | marks now r rs marked d stored version =>
    rcases Store.mem_replace he with rfl | he
    · exact (conforms r List.mem_cons_self).withStatus .disconnected
    · exact complete e he
  | purges f => exact complete e (List.mem_filter.mp he).1
  | dates => exact complete e he
  | retrieves => exact complete e he
  | checks => exact complete e he
  | reads => exact complete e he
  | passes => exact complete e he
  | ends => exact complete e he

theorem Step.conforms (h : Step clock s at_ after t) (fits : at_.Fits clock s)
    (conforms : at_.Conforms) (complete : ∀ e ∈ s.entities, e.value.Complete) :
    after.Conforms := by
  cases h with
  | retrieves id p runner stored => exact complete runner (Store.retrieve_mem stored).1
  | checks p runner =>
    exact ⟨conforms.pinged fits.2 p.status, runner.value.sameRegistration_pinged p.status clock⟩
  | reads now =>
    intro r hr
    exact complete r (Page.mem_of_window (List.mem_filter.mp hr).1)
  | marks now r rs marked d stored version =>
    intro q hq
    exact conforms q (List.mem_cons_of_mem r hq)
  | passes now r rs marked =>
    intro q hq
    exact conforms q (List.mem_cons_of_mem r hq)
  | dates => trivial
  | registers => trivial
  | patches => trivial
  | purges => trivial
  | ends => trivial

/-- What a step stores in a runner's place is made of that very runner. -/
theorem Step.carries (h : Step clock s at_ after t) (hs : s.Sound) (fits : at_.Fits clock s)
    (conforms : at_.Conforms) : s.Carries RunnerValue.SameRegistration t := by
  have same := Store.carries_refl RunnerValue.SameRegistration.refl s
  cases h with
  | registers => exact Store.carries_create .refl s _
  | patches runner value d stored version =>
    obtain rfl := fits.1.eq_of_version stored version
    exact Store.carries_put .refl stored conforms.2
  | marks now r rs marked d stored version =>
    obtain ⟨known, -⟩ := fits r List.mem_cons_self
    obtain rfl := known.eq_of_version stored version
    exact Store.carries_put .refl stored (r.value.sameRegistration_withStatus .disconnected)
  | purges f => exact Store.carries_deleteFrom .refl hs f
  | dates => exact same
  | retrieves => exact same
  | checks => exact same
  | reads => exact same
  | passes => exact same
  | ends => exact same

end RunnerCallAt

namespace Roster

/-- What every event leaves as it is, as long as only registrations bring in runners: they are
complete. -/
structure KeptComplete (t : Roster) : Prop extends t.Kept where
  complete : ∀ e ∈ t.store.entities, e.value.Complete
  conforms : ∀ at_ ∈ t.calls, at_.Conforms

namespace KeptComplete

variable {t : Roster}

theorem react (h : t.KeptComplete) (e : RosterEvent) :
    (t.react e).KeptComplete ∧
      t.store.Carries RunnerValue.SameRegistration (t.react e).store := by
  have same := Store.carries_refl RunnerValue.SameRegistration.refl t.store
  obtain ⟨kept, -⟩ := h.toKept.react e
  cases e with
  | tick now =>
    simp only [Roster.react] at kept ⊢
    split_ifs at kept ⊢
    · exact ⟨h, same⟩
    · exact ⟨⟨kept, h.complete, h.conforms⟩, same⟩
  | enter c =>
    refine ⟨⟨kept, h.complete, ?_⟩, same⟩
    intro at_ hat
    rcases List.mem_append.mp hat with hat | hat
    · exact h.conforms at_ hat
    · rw [List.mem_singleton.mp hat]
      trivial
  | advance i =>
    rcases t.react_advance_cases i with stays | ⟨at_, after, u, hi, step, moved⟩
    · rw [stays]
      exact ⟨h, same⟩
    · have fits := h.calls at_ (List.mem_of_getElem? hi)
      have conforms := h.conforms at_ (List.mem_of_getElem? hi)
      rw [moved] at kept ⊢
      refine ⟨⟨kept, step.complete conforms h.complete, ?_⟩,
        step.carries h.sound fits conforms⟩
      intro other hother
      rcases List.mem_or_eq_of_mem_set hother with hother | rfl
      · exact h.conforms other hother
      · exact step.conforms fits conforms h.complete

theorem run (h : t.KeptComplete) (es : List RosterEvent) :
    (t.run es).KeptComplete ∧
      t.store.Carries RunnerValue.SameRegistration (t.run es).store := by
  induction es generalizing t with
  | nil => exact ⟨h, Store.carries_refl RunnerValue.SameRegistration.refl t.store⟩
  | cons e es ih =>
    obtain ⟨-, onward⟩ := h.toKept.react e
    obtain ⟨kept, same⟩ := h.react e
    obtain ⟨-, later⟩ := kept.toKept.run es
    obtain ⟨last, rest⟩ := ih kept
    exact ⟨last, .trans RunnerValue.SameRegistration.trans h.sound onward.grows later.grows
      same rest⟩

end KeptComplete

/-- What registrations stand for in a run that events make of a roster. -/
structure Binding (t : Roster) (es : List RosterEvent) : Prop where
  complete : ∀ e ∈ (t.run es).store.entities, e.value.Complete
  /-- what is laid down about a runner stays as long as it is stored -/
  lasting : ∀ early late, es = early ++ late → ∀ id d e,
    (t.run early).store.retrieve id = some d → (t.run es).store.retrieve id = some e →
    e.value.registration = d.value.registration

/-- Registrations, heartbeats, sweeps and purges may go on at the same time in every way: where
there were no runners at first, all that are stored are complete, and registered as ever. -/
theorem binding_run (clock : Time.Instant) (label : String) (es : List RosterEvent) :
    (start clock (.empty label)).Binding es := by
  have first : (start clock (.empty label)).KeptComplete :=
    { sound := Store.sound_empty label
      heard := fun _ he => absurd he List.not_mem_nil
      calls := fun _ hat => absurd hat List.not_mem_nil
      complete := fun _ he => absurd he List.not_mem_nil
      conforms := fun _ hat => absurd hat List.not_mem_nil }
  obtain ⟨kept, -⟩ := first.run es
  refine ⟨kept.complete, ?_⟩
  rintro early late rfl
  obtain ⟨kept, -⟩ := first.run early
  rw [run_append]
  exact (kept.run late).2

/-- A runner is registered, marked by a sweep, and then heard of again. -/
example :
    let req : RegisterRunner := ⟨some "http://r", some 30, some ⟨some [], some []⟩⟩
    let start := start .epoch (.empty "R")
    let es : List RosterEvent := [.enter (.register req), .advance 0, .advance 0,
      .tick ⟨120, 0, by decide⟩, .enter (.sweep ⟨90, 0, by decide⟩), .advance 1, .advance 1,
      .enter (.patch "R1" ⟨.running⟩), .advance 2, .advance 2, .advance 2]
    (start.run es).store.entities = [⟨"R1", 3, some "http://r", some 30, some ⟨some [], some []⟩,
      some ⟨some .running, some .epoch, some ⟨120, 0, by decide⟩⟩⟩] := by
  decide +kernel

end Roster

end JobDispatch

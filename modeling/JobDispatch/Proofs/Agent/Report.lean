import JobDispatch.Proofs.Agent.Line
import JobDispatch.Proofs.Registry.Lifecycle

/-!
Reports of a runner that nobody else gets in the way of. An attempt that is not answered may have
arrived all the same; the registry then holds what was reported, and refuses the next attempt. When
a refusal is a sign that the registry does not hold the report is told exactly.
-/

namespace JobDispatch

/-- Whether the status is there as it was reported, and the result, if one was. -/
def JobValue.Shows (v reported : JobValue) : Prop :=
  v.status = reported.status ∧ ∀ text, reported.result = some text → v.result = some text

theorem Jobs.checkPatch_shows {now : Time.Instant} {job : Job} {n : Nat}
    {reported value : JobValue} (accepted : checkPatch now job (.report n reported) = .ok value) :
    value.Shows reported := by
  obtain ⟨-, -, rfl⟩ := (checkPatch_eq_ok_iff now job _ value).mp accepted
  refine ⟨JobChange.appliedAt_status _ now, ?_⟩
  intro text reports
  simp [JobPatch.applyTo, JobPatch.report, reports]

/-- Whether the status and the result of a job are what is stored for it. -/
def Store.Holds (s : Store JobValue) (job : Job) : Prop :=
  ∃ d, s.retrieve job.id = some d ∧ d.value.Shows job.value

theorem Lasting.holds_iff {s : Store JobValue} {job : Job} {Q : Prop}
    (h : Lasting s job.id fun d => d.value.Shows job.value ↔ Q) :
    s.Holds job ↔ s.retrieve job.id ≠ none ∧ Q := by
  constructor
  · rintro ⟨d, hd, shows⟩
    exact ⟨by simp [hd], (h.stored d hd).mp shows⟩
  · rintro ⟨present, hq⟩
    obtain ⟨d, hd⟩ := Option.ne_none_iff_exists'.mp present
    exact ⟨d, hd, (h.stored d hd).mpr hq⟩

/-- From its first letter on, a refusal reads differently from a report that was given up. -/
theorem RegistryError.head_ofJob (e : JobError) : (ofJob e).message.toList.head? ≠ some 'g' := by
  have conflict (why : String) : (conflict why).message.toList.head? = some 'v' := by
    change ("version conflict: " ++ why).toList.head? = _
    simp [String.toList_append]
  have rejected (status : Nat) (text : String) :
      (rejected status text).message.toList.head? = some 'r' := by
    change ("registry rejected the request (status " ++ _ ++ _ ++ text).toList.head? = _
    simp [String.toList_append]
  cases e <;> simp [ofJob, conflict, rejected]

/-- A report that turned fatal because the registry refused it, as the reason tells. -/
def FatalError.Refusal (f : FatalError) : Prop :=
  ∃ e : JobError, f.reason = (RegistryError.ofJob e).message

theorem FatalError.not_refusal_of_gaveUp {f : FatalError} {text : String}
    (h : f.reason = "gave up after " ++ text) : ¬ f.Refusal := by
  rintro ⟨e, he⟩
  apply RegistryError.head_ofJob e
  rw [← he, h]
  simp [String.toList_append]

namespace Line

/-- What is so until an attempt at a report is heard: the registry holds what is reported, if it has
the job, exactly if it did `before` or accepted an attempt. -/
structure Awaiting (before : Prop) (job : Job) (l : Line) : Prop where
  alone : ∀ n, ∀ c ∈ (l.coming n).before, ∀ now p, c ≠ .patch now job.id p
  sound : l.store.Sound
  unheard : ∀ a ∈ l.arrivals, a.heard = false
  shown : Lasting l.store job.id fun d =>
    d.value.Shows job.value ↔ before ∨ ∃ a ∈ l.arrivals, ∃ new, a.reply = .ok new

variable {before : Prop} {job : Job} {l m : Line}

theorem Awaiting.next (h : Awaiting before job l) : Awaiting before job l.next :=
  ⟨fun n => h.alone (n + 1), JobCall.sequence_sound h.sound _, h.unheard,
    h.shown.sequence h.sound (h.alone 0)⟩

theorem Awaiting.silent (h : Awaiting before job l)
    (hm : l.Silent job.id (.report job.version job.value) m) : Awaiting before job m := by
  cases hm with
  | lost => exact h.next
  | unheard r t effect =>
    have hn := h.next
    refine ⟨hn.alone, effect.sound hn.sound, ?_, ?_⟩
    · intro a ha
      rcases List.mem_append.mp ha with ha | ha
      · exact h.unheard a ha
      · rw [List.mem_singleton.mp ha]
    · cases effect with
      | changed _ _ _ d value found accepted =>
        refine ⟨hn.shown.issued, ?_⟩
        intro new hnew
        rw [arrive_store, Store.retrieve_put, found] at hnew
        obtain rfl := Option.some.inj hnew
        simp only [if_true]
        exact iff_of_true (Jobs.checkPatch_shows accepted) (.inr ⟨_, List.mem_concat_self, _, rfl⟩)
      | kept _ _ none =>
        cases r with
        | ok new => simp [JobReply.job?] at none
        | error e => simpa using hn.shown

theorem awaiting_start {es : List RegistryEvent} {coming : Nat → Transit} {job : Job}
    (issued : ∀ n, (Registry.stored es).issued < n →
      job.id ≠ Store.idOf (Registry.stored es).label n)
    (alone : ∀ n, ∀ c ∈ (coming n).before, ∀ now p, c ≠ .patch now job.id p)
    (openings : Nat → Opening) :
    Awaiting ((Registry.stored es).Holds job) job (start (Registry.stored es) coming openings) := by
  refine ⟨alone, Registry.stored_sound es, fun a ha => absurd ha List.not_mem_nil, issued, ?_⟩
  intro d hd
  change (Registry.stored es).retrieve job.id = some d at hd
  simp [start, Store.Holds, hd]

/-- A refusal is a sign that the registry does not hold the report if and only if the registry did
not hold it before and accepted no attempt, unless the job was deleted meanwhile. -/
theorem not_holds_of_refusal_iff (rules : DeskRules) (es : List RegistryEvent)
    (coming : Nat → Transit) (openings : Nat → Opening) (job : Job)
    (issued : ∀ n, (Registry.stored es).issued < n →
      job.id ≠ Store.idOf (Registry.stored es).label n)
    (alone : ∀ n, ∀ c ∈ (coming n).before, ∀ now p, c ≠ .patch now job.id p) :
    let x := (desk.report rules job).run (start (Registry.stored es) coming openings)
    (∀ f ∈ x.2.raised, x.1 = .error f → f.Refusal → ¬ x.2.store.Holds job) ↔
      ∀ a ∈ x.2.arrivals, a.heard → ∀ e, a.reply = .error e →
        x.2.store.retrieve job.id ≠ none →
        ¬ (Registry.stored es).Holds job ∧ ∀ b ∈ x.2.arrivals, ∀ new, b.reply ≠ .ok new := by
  intro x
  obtain ⟨r, l, hx⟩ : ∃ r l, x = (r, l) := ⟨_, _, rfl⟩
  have last := reportFrom_cases (fun l m hl hm => hl.silent hm)
    (awaiting_start issued alone openings) hx
  rw [hx]
  -- only the last attempt can have been heard, so a refusal that was heard is the end of the report
  cases last with
  | gaveUp m kept f text reason =>
    refine iff_of_true ?_ ?_
    · rintro f' - hf refusal
      obtain rfl := Except.error.inj hf
      exact absurd refusal (FatalError.not_refusal_of_gaveUp reason)
    · intro a ha heard
      rw [kept.unheard a ha] at heard
      cases heard
  | stored m kept new t effect =>
    refine iff_of_true ?_ ?_
    · rintro f - hf
      cases hf
    · intro a ha heard e he
      rcases List.mem_append.mp ha with ha | ha
      · rw [kept.unheard a ha] at heard
        cases heard
      · rw [List.mem_singleton.mp ha] at he
        cases he
  | refused m kept e f reason =>
    simp only [raise_arrivals, raise_store, arrive_arrivals, arrive_store]
    -- the refusal changed nothing: what was so while nothing was heard still is
    rw [kept.next.shown.holds_iff]
    constructor
    · intro h a ha heard e' he present
      have neither := h f List.mem_concat_self rfl ⟨e, reason⟩
      have nothing := fun accepted => neither ⟨present, accepted⟩
      refine ⟨fun held => nothing (.inl held), ?_⟩
      intro b hb new accepted
      rcases List.mem_append.mp hb with hb | hb
      · exact nothing (.inr ⟨b, hb, new, accepted⟩)
      · rw [List.mem_singleton.mp hb] at accepted
        cases accepted
    · rintro h f' - hf - ⟨present, held | ⟨b, hb, new, accepted⟩⟩
      · exact (h _ List.mem_concat_self rfl e rfl present).1 held
      · have nothing := (h _ List.mem_concat_self rfl e rfl present).2
        exact nothing b (List.mem_append_left _ hb) new accepted

/-- The first attempt is lost, and the second names a version that is no longer the stored one. -/
theorem not_holds_of_refusal_outdated :
    let es := [.launch .epoch ⟨some "n", some "c", some "a", []⟩, .patch .epoch "J1" (.reserve 1)]
    let job := ⟨"J1", 1, JobValue.blank.withStatus .done (some .success)⟩
    let x := (desk.report ⟨⟨none, none, none, none, none⟩, 1, 3, ⟨0, 0⟩⟩ job).run
      (start (Registry.stored es)
        (fun n => ⟨[], .epoch, if n = 0 then .lost "connection refused" else .heard⟩)
        fun _ => ⟨true, .ok ()⟩)
    ∀ f ∈ x.2.raised, x.1 = .error f → f.Refusal → ¬ x.2.store.Holds job := by
  intro es job x
  have running : ((Registry.stored es).retrieve "J1").map (fun d => d.value.status) =
      some .running := by decide +kernel
  obtain ⟨d, hd, status⟩ := Option.map_eq_some_iff.mp running
  have lasting := lasting_of_retrieve (Q := fun _ => True) (Registry.stored_sound es) hd trivial
  have alone (n : Nat) (c : JobCall) (hc : c ∈ []) (now : Time.Instant) (p : JobPatch) :
      c ≠ .patch now job.id p := absurd hc List.not_mem_nil
  apply (not_holds_of_refusal_iff _ es _ _ job lasting.issued fun n => alone n).mpr
  intro a ha heard e he present
  constructor
  · rintro ⟨d', hd', shown, -⟩
    obtain rfl : d = d' := Option.some.inj (hd.symm.trans hd')
    rw [status] at shown
    cases shown
  · intro b hb new accepted
    have refused : ∀ b ∈ x.2.arrivals, b.reply.isOk = false := by decide +kernel
    have error := refused b hb
    rw [accepted] at error
    cases error

/-- The first attempt arrives, but its reply is lost, and the second attempt is refused. -/
theorem holds_of_refusal_unheard :
    let es := [.launch .epoch ⟨some "n", some "c", some "a", []⟩, .patch .epoch "J1" (.reserve 1)]
    let job := ⟨"J1", 2, JobValue.blank.withStatus .done (some .success)⟩
    let x := (desk.report ⟨⟨none, none, none, none, none⟩, 1, 3, ⟨0, 0⟩⟩ job).run
      (start (Registry.stored es)
        (fun n => ⟨[], .epoch, if n = 0 then .unheard "connection closed" else .heard⟩)
        fun _ => ⟨true, .ok ()⟩)
    ¬ ∀ f ∈ x.2.raised, x.1 = .error f → f.Refusal → ¬ x.2.store.Holds job := by
  intro es job x h
  let e : JobError := .versionConflict "J1" 2 3
  let f : FatalError := ⟨"", "J1", (RegistryError.ofJob e).message⟩
  have ended : x.1 = .error f := by decide +kernel
  have raised : f ∈ x.2.raised := by decide +kernel
  have held : (x.2.store.retrieve "J1").map (fun d => d.value.status) =
      some (.done .success) := by decide +kernel
  obtain ⟨d, hd, status⟩ := Option.map_eq_some_iff.mp held
  refine h f raised ended ⟨e, rfl⟩ ⟨d, hd, status, ?_⟩
  intro text reported
  cases reported

end Line

end JobDispatch

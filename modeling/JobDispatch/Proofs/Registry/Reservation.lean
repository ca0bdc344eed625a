import JobDispatch.Proofs.Registry.Progress

/-!
Reservations: as long as patches do nothing but reserve jobs and report them as done, no job is
reserved twice. A reserved job is running until it is done, and is never pending again.
-/

namespace JobDispatch

/-- A patch that only reserves its job. -/
def JobPatch.reserves (p : JobPatch) : Bool := p == .reserve p.version

/-- A patch that reports its job as done. -/
def JobPatch.reports (p : JobPatch) : Bool := p.status.bind JobStatus.run == some .done

theorem JobPatch.not_reserves_of_reports {p : JobPatch} (h : p.reports) : ¬ p.reserves := by
  intro reserve
  rw [eq_of_beq reserve] at h
  cases h

/-- What runners, owners and the cleaner ask for: patches reserve a job or report it as done. -/
def JobCall.Plain : JobCall → Prop
  | patch _ _ p => p.reserves ∨ p.reports
  | _ => True

namespace JobLog

/-- Whether a call reserved the job of an identity. -/
def reserved (id : String) : JobCall × JobReply → Bool
  | (.patch _ id' p, .patched (.ok _)) => id' == id && p.reserves
  | _ => false

/-- How often a job was reserved. -/
def reservations (id : String) (log : JobLog) : Nat := log.countP (reserved id)

theorem reserved_of_job_none {c : JobCall} {r : JobReply} (h : r.job? = none) (id : String) :
    reserved id (c, r) = false := by
  unfold reserved
  split
  · next same =>
    cases same
    cases h
  · rfl

/-- A plain call takes no job back: what it reserves is running, what it reports is done. -/
theorem not_takesBack_of_plain {c : JobCall} (plain : c.Plain) (s : Store JobValue) :
    ¬ c.TakesBack s := by
  cases c with
  | patch now id p =>
    rintro ⟨job, -, -, -, st, hp, back⟩
    have ahead : st.run = some .running ∨ st.run = some .done := by
      rcases plain with reserve | report
      · rw [eq_of_beq reserve] at hp
        obtain rfl : JobStatus.running = st := Option.some.inj hp
        exact .inl rfl
      · have done := eq_of_beq report
        rw [hp] at done
        exact .inr done
    rcases ahead with h | h <;> simp [h] at back
  | _ => exact id

/-- A patch that reserves its job is accepted only if the job does not run already. -/
theorem run_of_reserves {now : Time.Instant} {job : Job} {p : JobPatch} {value : JobValue}
    (reserve : p.reserves) (accepted : Jobs.checkPatch now job p = .ok value) :
    value.status.run = some .running ∧ job.value.status.run ≠ some .running ∧
      job.value.status.run ≠ some .done := by
  obtain ⟨status, open_, running⟩ := Jobs.checkPatch_status accepted
  have now_running : value.status.run = some .running := by
    rw [status, eq_of_beq reserve]
    rfl
  exact ⟨now_running, fun h => (running h).1 now_running, open_⟩

/-- A job that runs or ran is not reserved again. -/
theorem not_reserved_of_reached {s t : Store JobValue} {c : JobCall} {r : JobReply} {id : String}
    (h : Reached s id .running) (he : c.Effect s r t) : reserved id (c, r) = false := by
  cases he with
  | changed now id' p job value stored accepted =>
    by_contra hr
    obtain ⟨rfl, reserve⟩ : id' = id ∧ p.reserves := by simpa [reserved] using hr
    obtain ⟨-, not_running, open_⟩ := run_of_reserves reserve accepted
    obtain ⟨b, hb, ahead⟩ := h.beyond job stored
    cases b with
    | pending => cases ahead
    | running => exact not_running hb
    | done => exact open_ hb
  | kept c r none => exact reserved_of_job_none none id
  | _ => rfl

/-- A job that was just reserved runs. -/
theorem reached_of_reserved {s t : Store JobValue} {c : JobCall} {r : JobReply} {id : String}
    (hs : s.Sound) (he : c.Effect s r t) (h : reserved id (c, r)) : Reached t id .running := by
  cases he with
  | changed now id' p job value stored accepted =>
    obtain ⟨rfl, reserve⟩ : id' = id ∧ p.reserves := by simpa [reserved] using h
    obtain ⟨running, -⟩ := run_of_reserves reserve accepted
    have now_stored : (s.put ⟨id', job.version + 1, value⟩).retrieve id' =
        some ⟨id', job.version + 1, value⟩ := by simp [Store.retrieve_put, stored]
    exact reached_of_retrieve (hs.put _) now_stored running
  | kept c r none =>
    rw [reserved_of_job_none none] at h
    cases h
  | _ => cases h

/-- A job is reserved at most once, and runs or is done from then on. -/
theorem Leads.reservations_cases {s t : Store JobValue} {log : JobLog} (h : Leads s log t)
    (hs : s.Sound) (plain : ∀ x ∈ log, x.1.Plain) (id : String) :
    log.reservations id = 0 ∨ log.reservations id = 1 ∧ Reached t id .running := by
  induction h with
  | nil => exact .inl rfl
  | @snoc log t u c r before last ih =>
    have effect := JobCall.effect_of_whole last
    have ht := before.sound hs
    have hn : JobLog.reservations id (log ++ [(c, r)]) =
        log.reservations id + if reserved id (c, r) then 1 else 0 := by
      simp [JobLog.reservations, List.countP_append, List.countP_singleton]
    rw [hn]
    rcases ih fun x hx => plain x (by simp [hx]) with none | ⟨one, reached⟩
    · by_cases hr : reserved id (c, r)
      · exact .inr ⟨by simp [none, hr], reached_of_reserved ht effect hr⟩
      · exact .inl (by simp [none, hr])
    · have again := not_reserved_of_reached reached effect
      have forth := not_takesBack_of_plain (plain (c, r) (by simp)) t
      exact .inr ⟨by simp [one, again], reached.effect ht effect forth⟩

end JobLog

end JobDispatch

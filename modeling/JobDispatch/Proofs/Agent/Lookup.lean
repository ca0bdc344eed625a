import JobDispatch.Proofs.Agent.Candidates
import JobDispatch.Proofs.Pattern.Plain
import JobDispatch.Proofs.Query.Criteria
import JobDispatch.Proofs.Registry.Roster

/-!
Whether a runner can be looked up under the texts of its configuration. As values these tell which
jobs it asks for, and as patterns which jobs it is competent for. The two agree as long as the texts
are plain.
-/

namespace JobDispatch.RunnerConfig

/-- What a runner of a configuration is stored as when it registers. -/
def registered (c : RunnerConfig) (now : Time.Instant) : RunnerValue :=
  (RunnerCreation.mk c.registration.value).appliedAt now

/-- A runner is found by its category together with each of the names of its jobs. -/
def Findable (c : RunnerConfig) (now : Time.Instant) : Prop :=
  ∀ n ∈ c.jobNames, (RunnerCriteria.filter ⟨some c.category, some n, none⟩).accepts
    (c.registered now).document = true

/-- A registration of a configuration without a flaw lacks nothing. -/
theorem objection_registration {c : RunnerConfig} (valid : c.flaw = none) :
    (RunnerCreation.mk c.registration.value).objection = none := by
  have live : ¬ c.timeToLive ≤ 0 := by
    simp only [flaw, check_eq_none_iff] at valid
    obtain ⟨-, -, -, -, -, -, live, -⟩ := valid
    exact live
  simp [RunnerCreation.objection, registration, RegisterRunner.value, live]

theorem accepts_registered_iff (c : RunnerConfig) (now : Time.Instant) (k n : String) :
    (RunnerCriteria.filter ⟨some k, some n, none⟩).accepts (c.registered now).document = true ↔
      Pattern.fits c.category k = true ∧ ∃ p ∈ c.jobNames, Pattern.fits p n = true := by
  have competencies : (c.registered now).competencies =
      some ⟨some [c.category], some c.jobNames⟩ := rfl
  rw [RunnerCriteria.accepts_filter_iff]
  simp [RunnerCriteria.holds_iff, RunnerValue.Competent, competencies]

/-- A runner whose category and names of jobs are plain texts is found. -/
theorem findable_of_plain {c : RunnerConfig} {now : Time.Instant}
    (category : Pattern.Plain c.category.toList)
    (names : ∀ n ∈ c.jobNames, Pattern.Plain n.toList) : c.Findable now := by
  intro n hn
  rw [accepts_registered_iff]
  exact ⟨Pattern.fits_self category, n, hn, Pattern.fits_self (names n hn)⟩

/-- Without dots, too, it is found by these texts alone. -/
theorem accepts_registered_iff_of_dotless {c : RunnerConfig} {now : Time.Instant}
    (category : Pattern.Plain c.category.toList ∧ '.' ∉ c.category.toList)
    (names : ∀ p ∈ c.jobNames, Pattern.Plain p.toList ∧ '.' ∉ p.toList) (k n : String) :
    (RunnerCriteria.filter ⟨some k, some n, none⟩).accepts (c.registered now).document = true ↔
      k = c.category ∧ n ∈ c.jobNames := by
  rw [accepts_registered_iff, Pattern.fits_iff_of_dotless category.1 category.2]
  constructor
  · rintro ⟨rfl, p, hp, covered⟩
    have same := (Pattern.fits_iff_of_dotless (names p hp).1 (names p hp).2).mp covered
    exact ⟨rfl, same ▸ hp⟩
  · rintro ⟨rfl, hn⟩
    exact ⟨rfl, n, hn, Pattern.fits_self (names n hn).1⟩

/-- The registry takes every runner of a sound configuration in. It finds the runner under the texts
of its configuration if and only if these, as patterns, cover themselves, as plain texts do. -/
theorem findable_iff {c : RunnerConfig} (valid : c.flaw = none) (now : Time.Instant) :
    (∀ s : Store RunnerValue, (Runners.register now c.registration).perform ⟨s, []⟩ =
        (.ok (s.create (c.registered now)).1, ⟨(s.create (c.registered now)).2, []⟩)) ∧
      (c.Findable now ↔ Pattern.fits c.category c.category = true ∧
        ∀ n ∈ c.jobNames, ∃ p ∈ c.jobNames, Pattern.fits p n = true) ∧
      (Pattern.Plain c.category.toList → (∀ n ∈ c.jobNames, Pattern.Plain n.toList) →
        c.Findable now) := by
  obtain ⟨named, -⟩ := of_flaw_none valid
  refine ⟨?_, ?_, findable_of_plain⟩
  · intro s
    rw [Runners.register_perform, objection_registration valid]
    rfl
  · simp only [Findable, accepts_registered_iff]
    constructor
    · intro h
      obtain ⟨first, hfirst⟩ := List.exists_mem_of_ne_nil _ named
      exact ⟨(h first hfirst).1, fun n hn => (h n hn).2⟩
    · rintro ⟨category, names⟩ n hn
      exact ⟨category, names n hn⟩

theorem findable_iff_standard :
    (standard "host").flaw = none ∧ (standard "host").Findable .epoch := by
  have valid : (standard "host").flaw = none := by decide
  have category : Pattern.Plain (standard "host").category.toList := by decide
  have names : ∀ n ∈ (standard "host").jobNames, Pattern.Plain n.toList := by decide
  exact ⟨valid, (findable_iff valid .epoch).2.2 category names⟩

/-- As a pattern, this category stands for rows of one letter. -/
theorem not_findable_plus :
    (ofBasics "host" "http://localhost:8080" "default" "c++" ["n"]).flaw = none ∧
      ¬ (ofBasics "host" "http://localhost:8080" "default" "c++" ["n"]).Findable .epoch := by
  refine ⟨by decide, ?_⟩
  intro h
  have found := h "n" (by decide)
  rw [accepts_registered_iff] at found
  have none : Pattern.fits "c++" "c++" = false := by decide +kernel
  rw [ofBasics, none] at found
  cases found.1

end JobDispatch.RunnerConfig

import JobDispatch.Agent.Desk
import JobDispatch.Client.Runner
import JobDispatch.Proofs.Client.Listing
import JobDispatch.Proofs.Query.Criteria
import JobDispatch.Proofs.Query.Names

/-!
The jobs that a runner asks for. What a configuration is built from decides which jobs it wants, and
a listing with its rules gives just these, the oldest ones first, also over a client.
-/

namespace JobDispatch

namespace RunnerConfig

/-- The jobs that a runner is there for: the pending ones of its account and category that have one
of its names. -/
def Wants (c : RunnerConfig) (v : JobValue) : Prop :=
  v.status.run = some .pending ∧ v.accountId = some c.accountId ∧
    v.category = some c.category ∧ ∃ n ∈ c.jobNames, v.name = some n

instance (c : RunnerConfig) (v : JobValue) : Decidable (c.Wants v) :=
  inferInstanceAs (Decidable (_ ∧ _))

/-- The first stored jobs that a runner wants, as many as it looks at. -/
def candidates (c : RunnerConfig) (s : Store JobValue) : List Job :=
  (s.entities.filter fun job => c.Wants job.value).take c.candidateWindow

/-- A configuration whose rules say what is meant: its names can be written as a list, and its
window can be asked for. -/
structure Ready (c : RunnerConfig) : Prop where
  plain : ∀ n ∈ c.jobNames, PlainName n
  named : c.jobNames ≠ []
  positive : c.candidateWindow ≠ 0
  fits : c.candidateWindow ≤ Text.maxWord

/-- The variables that decide which jobs a configuration asks for. -/
structure Built (env : Environment) (c : RunnerConfig) : Prop where
  registry : env "REGISTRY_URL" = some c.registryUrl
  account : env "RUNNER_ACCOUNT_ID" = some c.accountId
  category : env "RUNNER_CATEGORY" = some c.category
  names : ∃ raw, env "RUNNER_JOB_NAMES" = some raw ∧ c.jobNames = splitNames raw
  window : c.candidateWindow ≤ Text.maxWord

section Building

variable {α β : Type} {env : Environment} {key : String}

theorem exists_of_bind_ok {x : Except Gap α} {k : α → Except Gap β} {b : β}
    (h : (x >>= k) = .ok b) : ∃ a, x = .ok a ∧ k a = .ok b := by
  cases x with
  | error e => cases h
  | ok a => exact ⟨a, rfl, h⟩

theorem required_ok {raw : String} (h : required env key = .ok raw) : env key = some raw := by
  unfold required at h
  split at h
  · next found =>
    cases h
    exact found
  · cases h

/-- A variable gives what is standard, or what its value is read as. -/
theorem parsed_ok {read : String → Option α} {standard a : α}
    (h : parsed env key read standard = .ok a) : a = standard ∨ ∃ s, read s = some a := by
  unfold parsed at h
  split at h
  · cases h
    exact .inl rfl
  · split at h
    · next raw _ a' found =>
      cases h
      exact .inr ⟨_, found⟩
    · cases h

theorem count_le {s : String} {n : Nat} (h : count s = some n) : n ≤ Text.maxWord := by
  obtain ⟨-, bounded⟩ := Option.filter_eq_some_iff.mp h
  simpa using bounded

theorem built_of_ok {callback : String} {c : RunnerConfig}
    (h : ofEnvironment callback env = .ok c) : Built env c := by
  obtain ⟨url, hurl, h⟩ := exists_of_bind_ok h
  obtain ⟨account, haccount, h⟩ := exists_of_bind_ok h
  obtain ⟨category, hcategory, h⟩ := exists_of_bind_ok h
  obtain ⟨raw, hraw, h⟩ := exists_of_bind_ok h
  obtain ⟨timeToLive, -, h⟩ := exists_of_bind_ok h
  obtain ⟨workerCount, -, h⟩ := exists_of_bind_ok h
  obtain ⟨pollInterval, -, h⟩ := exists_of_bind_ok h
  obtain ⟨heartbeatInterval, -, h⟩ := exists_of_bind_ok h
  obtain ⟨window, hwindow, h⟩ := exists_of_bind_ok h
  obtain ⟨updateMaxAttempts, -, h⟩ := exists_of_bind_ok h
  obtain ⟨updateRetryDelay, -, h⟩ := exists_of_bind_ok h
  obtain ⟨workerWaitTimeout, -, h⟩ := exists_of_bind_ok h
  obtain ⟨shutdownTimeout, -, h⟩ := exists_of_bind_ok h
  cases h
  have bounded : window ≤ Text.maxWord := by
    rcases parsed_ok hwindow with rfl | ⟨s, read⟩
    · change 10 ≤ Text.maxWord
      decide
    · exact count_le read
  exact ⟨required_ok hurl, required_ok haccount, required_ok hcategory,
    ⟨raw, required_ok hraw, rfl⟩, bounded⟩

/-- A check that finds nothing passes, and so do the checks after it. -/
theorem check_eq_none_iff {P : Prop} [Decidable P] {f : Flaw} {rest : Option Flaw} :
    (if P then some f else rest) = none ↔ ¬ P ∧ rest = none := by
  split_ifs with h <;> simp [h]

/-- A configuration without a flaw names a job and looks at a candidate. -/
theorem of_flaw_none {c : RunnerConfig} (h : c.flaw = none) :
    c.jobNames ≠ [] ∧ c.candidateWindow ≠ 0 := by
  simp only [flaw, check_eq_none_iff] at h
  obtain ⟨-, -, -, -, -, named, -, -, -, -, positive, -⟩ := h
  exact ⟨named, positive⟩

theorem Built.ready {c : RunnerConfig} (built : Built env c) (accepted : c.flaw = none) :
    c.Ready := by
  obtain ⟨named, positive⟩ := of_flaw_none accepted
  obtain ⟨raw, -, split⟩ := built.names
  refine ⟨?_, named, positive, built.window⟩
  intro n hn
  rw [split] at hn
  exact plainName_of_mem_splitNames hn

end Building

section Listing

variable {c : RunnerConfig} (ready : c.Ready)

include ready

/-- The names of a configuration come back from the list that is made of them. -/
theorem query_deskRules : c.deskRules.params.query =
    ⟨[⟨some c.accountId, some c.category, c.jobNames, some .pending, none⟩]⟩ := by
  have list : c.deskRules.params.names = some (joinNames c.jobNames) := by
    have named : c.jobNames.isEmpty = false := by simpa using ready.named
    simp [deskRules, JobParams.withNames, named]
  have names : (c.deskRules.params.names.map splitNames).getD [] = c.jobNames := by
    rw [list]
    exact splitNames_joinNames ready.plain
  rw [JobParams.query, names]
  rfl

/-- The filter of the rules accepts what is wanted, and nothing else. -/
theorem accepts_deskRules_iff (v : JobValue) :
    c.deskRules.params.query.filter.accepts v.document = true ↔ c.Wants v := by
  rw [JobQuery.accepts_filter_iff, query_deskRules ready, List.forall_mem_singleton]
  constructor
  · intro h
    have name := h.names.resolve_left ready.named
    exact ⟨h.run _ rfl, h.account _ rfl, h.category _ rfl, name⟩
  · rintro ⟨pending, account, category, name⟩
    refine ⟨?_, ?_, .inr name, ?_, ?_⟩
    · rintro a ⟨⟩
      exact account
    · rintro k ⟨⟩
      exact category
    · rintro s ⟨⟩
      exact pending
    · rintro s ⟨⟩

theorem items_search_deskRules (s : Store JobValue) :
    (s.search c.deskRules.params.query.filter 0 (c.candidateWindow - 1)).items =
      c.candidates s := by
  have wanted : s.matching c.deskRules.params.query.filter =
      s.entities.filter fun job => c.Wants job.value := by
    apply List.filter_congr
    intro job _
    rw [Bool.eq_iff_iff, decide_eq_true_iff]
    exact accepts_deskRules_iff ready job.value
  have window : c.candidateWindow - 1 + 1 = c.candidateWindow :=
    Nat.sub_one_add_one ready.positive
  rw [Store.search, Page.items_window_take, wanted, window, candidates]

end Listing

end RunnerConfig

/-- Over a client a runner gets the candidates that are stored, and the registry stays as it is. -/
theorem Client.candidates_exchange {cfg : RunnerConfig} (ready : cfg.Ready) {c : Client}
    (root : c.AtRoot) (worded : Nat → List UInt8) (now : Time.Instant) {reg : Registry}
    {s : Store JobValue} (stored : reg.jobs = Jobs.inMemory s) (fits : reg.Fits) :
    (Client.candidates (Registry.exchange worded now) c cfg.deskRules.params
      cfg.deskRules.window).run reg = (.ok (cfg.candidates s), reg) := by
  have window : (⟨0, cfg.candidateWindow - 1⟩ : Window).Fits :=
    ⟨Nat.zero_le _, (Nat.sub_le _ _).trans ready.fits⟩
  let page := s.search cfg.deskRules.params.query.filter 0 (cfg.candidateWindow - 1)
  have searched : (Jobs.search cfg.deskRules.params.query 0 (cfg.candidateWindow - 1)).perform
      reg.jobs = (.ok page, reg.jobs) := by
    rw [stored]
    exact Jobs.search_perform _ _ _ s
  have performed := Registry.perform_onJobs searched
  have answered : ((c.listJobs cfg.deskRules.params ⟨0, cfg.candidateWindow - 1⟩).perform
      (Registry.exchange worded now)).run reg = (.ok page, reg) := by
    obtain ⟨u, r, -, -, -, listed⟩ := Client.listJobs_exchange root fits window cfg.deskRules.params
    rw [listed]
    exact Registry.outcome_of_ok performed
  have seen : (seenByRunner (Registry.exchange worded now)
      (c.listJobs cfg.deskRules.params ⟨0, cfg.candidateWindow - 1⟩)).run reg =
        (.ok page, reg) := by
    rw [seenByRunner, run_bind_of_run answered]
    rfl
  have listing : Client.candidates (Registry.exchange worded now) c cfg.deskRules.params
      cfg.deskRules.window = do
        return (← seenByRunner (Registry.exchange worded now)
          (c.listJobs cfg.deskRules.params ⟨0, cfg.candidateWindow - 1⟩)).map Page.items :=
    if_neg ready.positive
  rw [listing, run_bind_of_run seen, ← RunnerConfig.items_search_deskRules ready s]
  rfl

end JobDispatch

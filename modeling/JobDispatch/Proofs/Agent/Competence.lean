import JobDispatch.Proofs.Agent.Candidates
import JobDispatch.Proofs.Agent.Inquiry

/-!
Competence: a runner that was configured from its environment asks for the jobs that it is there
for, and for no others. Whatever others do in the meantime, each job that it reserves was one of
them until the very step that reserved it.
-/

namespace JobDispatch

/-- The value of a pending job that is taken to be run. -/
def JobValue.taken (v : JobValue) (now : Time.Instant) : JobValue :=
  { v with status := .running, processing := { v.processing with started := some now } }

/-- What an accepted reservation makes of a pending job. -/
theorem Jobs.checkPatch_reserve {now : Time.Instant} {job : Job} {v : Nat} {value : JobValue}
    (accepted : checkPatch now job (.reserve v) = .ok value)
    (pending : job.value.status.run = some .pending) :
    job.version = v ∧ value = job.value.taken now := by
  obtain ⟨version, -, applied⟩ := (checkPatch_eq_ok_iff now job _ value).mp accepted
  refine ⟨version, ?_⟩
  have starts : job.value.status.run = some .pending ∧
      ((JobPatch.reserve v).applyTo job.value).status.run = some .running := ⟨pending, rfl⟩
  rw [← applied, JobChange.appliedAt, if_pos starts]
  simp [JobPatch.applyTo, JobPatch.reserve, JobValue.taken]

namespace Inquiry

variable {α : Type} {p : Program α} {es before : List InquiryEvent} {i : Nat}

/-- What a search gave is what was stored at its moment. -/
theorem Answered.page_eq {q : JobQuery} {start stop : Nat} {page : Page Job}
    (h : Answered p es before i (.search q start stop) (.found (.ok page))) :
    page = (stored p before).search q.filter start stop := by
  have whole := h.whole
  simp only [JobCall.whole, JobCall.answer, Jobs.search_perform] at whole
  obtain ⟨found, -⟩ := Prod.mk.inj whole
  cases found
  rfl

/-- The job that a patch gave was computed from the one that was stored right before it, and was
stored by it. -/
theorem Answered.job_eq {now : Time.Instant} {id : String} {patch : JobPatch} {job : Job}
    (h : Answered p es before i (.patch now id patch) (.patched (.ok job))) :
    ∃ old value, (stored p before).retrieve id = some old ∧
      Jobs.checkPatch now old patch = .ok value ∧ job = ⟨id, old.version + 1, value⟩ ∧
      (stored p (before ++ [.serves i])).retrieve id = some job := by
  obtain ⟨old, value, found, accepted, rfl, put⟩ := (JobCall.effect_of_whole h.whole).of_accepted
  refine ⟨old, value, found, accepted, rfl, ?_⟩
  rw [put, Store.retrieve_put, found]
  simp

/-- The identities of what is stored stand in the order in which they were launched. -/
theorem ids_sublist_launched (p : Program α) (es : List InquiryEvent) :
    ((stored p es).entities.map Entity.id).Sublist (run p es).traffic.log.launched :=
  (tidy_run p es).steady.leads.ids_sublist

end Inquiry

namespace RunnerConfig

open Program (desk)

/-- How a runner lists its candidates. -/
def listing (c : RunnerConfig) : Program (Except RegistryError (List Job)) :=
  desk.candidates c.deskRules.params c.deskRules.window

/-- How a runner gets its next job. -/
def taking (c : RunnerConfig) : Program (Except RegistryError (Option Job)) :=
  desk.nextJob c.deskRules

/-- A job that a runner got: one of its own calls reserved it, by the step that came after the
events `before`. Right before this step `old` was stored, which it wanted, and was pending; right
after it the job was stored, running and stamped as started. -/
structure Got (c : RunnerConfig) (es : List InquiryEvent) (job : Job) (before : List InquiryEvent)
    (call : Nat) (now : Time.Instant) (old : Job) : Prop where
  reserved : Inquiry.Answered c.taking es before call
    (.patch now job.id (.reserve old.version)) (.patched (.ok job))
  found : (Inquiry.stored c.taking before).retrieve job.id = some old
  wanted : c.Wants old.value
  taken : job = ⟨old.id, old.version + 1, old.value.taken now⟩
  kept : (Inquiry.stored c.taking (before ++ [.serves call])).retrieve job.id = some job

/-- A runner that asks for what its environment tells it to. -/
structure Competent (env : Environment) (c : RunnerConfig) : Prop where
  built : c.Built env
  /-- candidates are the first jobs that were stored and wanted at one moment -/
  lists : ∀ es jobs, (Inquiry.run c.listing es).program = .ends (.ok jobs) →
    ∃ before call page, Inquiry.Answered c.listing es before call
      (.search c.deskRules.params.query 0 (c.candidateWindow - 1)) (.found (.ok page)) ∧
      jobs = c.candidates (Inquiry.stored c.listing before)
  /-- the first jobs are those that were launched first -/
  ordered : ∀ {α : Type} (p : Program α) (es : List InquiryEvent),
    ((Inquiry.stored p es).entities.map Entity.id).Sublist (Inquiry.run p es).traffic.log.launched
  /-- over a client the runner gets them -/
  sends : ∀ (worded : Nat → List UInt8) (now : Time.Instant) (reg : Registry) (s : Store JobValue),
    reg.jobs = Jobs.inMemory s → reg.Fits → (Client.ofAddress c.registryUrl).AtRoot →
    (Client.candidates (Registry.exchange worded now) (Client.ofAddress c.registryUrl)
      c.deskRules.params c.deskRules.window).run reg = (.ok (c.candidates s), reg)
  takes : ∀ es job, (Inquiry.run c.taking es).program = .ends (.ok (some job)) →
    ∃ before call now old, c.Got es job before call now old

section

variable {c : RunnerConfig} (ready : c.Ready)

include ready

/-- A program that asks for the candidates of a runner is told what is stored at one moment. -/
theorem candidates_of_told {α : Type} {p : Program α} {es : List InquiryEvent} {jobs : List Job}
    (told : Inquiry.Told p es (.listing c.deskRules.params c.deskRules.window) (.ok jobs)) :
    ∃ before call page, Inquiry.Answered p es before call
      (.search c.deskRules.params.query 0 (c.candidateWindow - 1)) (.found (.ok page)) ∧
      jobs = c.candidates (Inquiry.stored p before) := by
  have window : c.deskRules.window = c.candidateWindow - 1 + 1 :=
    (Nat.sub_one_add_one ready.positive).symm
  rw [window] at told
  obtain ⟨before, call, page, answered, rfl⟩ := told jobs rfl
  refine ⟨before, call, page, answered, ?_⟩
  rw [answered.page_eq]
  exact items_search_deskRules ready _

theorem got_of_ends {es : List InquiryEvent} {job : Job}
    (ends : (Inquiry.run c.taking es).program = .ends (.ok (some job))) :
    ∃ before call now old, c.Got es job before call now old := by
  have reaches := Inquiry.reaches_run c.taking es
  rw [ends] at reaches
  obtain ⟨cs, listed, d, hd, reserved⟩ := reaches.of_nextJob
  obtain ⟨seen, _, _, listing, rfl⟩ := candidates_of_told ready listed
  obtain ⟨before, call, now, answered⟩ := reserved job rfl
  obtain ⟨old, value, found, accepted, rfl, kept⟩ := answered.job_eq
  -- the candidate is what was stored when the reservation was accepted: their versions agree
  have version := ((Jobs.checkPatch_eq_ok_iff now old _ value).mp accepted).1
  obtain ⟨stored, wanted⟩ := List.mem_filter.mp (List.mem_of_mem_take hd)
  have listed : (Inquiry.stored c.taking seen).retrieve d.id = some d :=
    (Inquiry.sound_stored _ seen).retrieve_of_mem stored
  have same : old = d :=
    Inquiry.eq_of_version ((List.prefix_append _ _).trans answered.moment)
      ((List.prefix_append _ _).trans listing.moment) found listed version
  subst same
  have wants : c.Wants old.value := by simpa using wanted
  obtain ⟨-, rfl⟩ := Jobs.checkPatch_reserve accepted wants.1
  exact ⟨before, call, now, old, answered, found, wants, rfl, kept⟩

end

/-- A configuration that an environment gives, and that has no flaw, makes a competent runner. -/
theorem competent_ofEnvironment {callback : String} {env : Environment} {c : RunnerConfig}
    (made : ofEnvironment callback env = .ok c) (accepted : c.flaw = none) : Competent env c := by
  have built := built_of_ok made
  have ready := built.ready accepted
  refine ⟨built, ?_, Inquiry.ids_sublist_launched, ?_, fun es job => got_of_ends ready⟩
  · intro es jobs ends
    have reaches := Inquiry.reaches_run c.listing es
    rw [ends] at reaches
    exact candidates_of_told ready reaches.of_candidates
  · intro worded now reg s stored fits root
    exact Client.candidates_exchange ready root worded now stored fits

/-- The names are written with blanks and empty places between them. One job is of another account,
and somebody else reserves the first candidate between the listing and the reservation: the runner
gets the second one. -/
theorem competent_contended :
    let env : Environment := fun key =>
      [("REGISTRY_URL", "http://localhost/"), ("RUNNER_ACCOUNT_ID", "a"), ("RUNNER_CATEGORY", "c"),
        ("RUNNER_JOB_NAMES", " m ,, n,"), ("CANDIDATE_WINDOW", " 2 ")].lookup key
    let c : RunnerConfig :=
      { ofBasics "r" "http://localhost/" "a" "c" ["m", "n"] with candidateWindow := 2 }
    let launch (account name : String) : InquiryEvent :=
      .enters (.launch .epoch ⟨some name, some "c", some account, []⟩)
    let es : List InquiryEvent :=
      [launch "b" "m", launch "a" "m", launch "a" "n", launch "a" "n", .serves 0, .serves 1,
        .serves 2, .serves 3, .asks .epoch, .serves 4, .enters (.patch .epoch "J2" (.reserve 1)),
        .serves 5, .hears, .asks .epoch, .serves 5, .serves 6, .hears, .asks .epoch, .serves 7,
        .serves 7, .hears]
    ofEnvironment "r" env = .ok c ∧ c.flaw = none ∧ Competent env c ∧
      (Client.ofAddress c.registryUrl).AtRoot ∧
      ((Inquiry.run c.taking es).program.result?.bind fun r =>
        r.toOption.join).map (fun job => (job.id, job.version)) = some ("J3", 2) := by
  intro env c launch es
  have made : ofEnvironment "r" env = .ok c := by decide +kernel
  have accepted : c.flaw = none := by decide +kernel
  have address : Client.ofAddress c.registryUrl = Post.localhost := by decide +kernel
  refine ⟨made, accepted, competent_ofEnvironment made accepted, ?_, by decide +kernel⟩
  rw [address]
  exact Post.atRoot_localhost

end RunnerConfig

end JobDispatch

import JobDispatch.Proofs.Client.Exchange
import JobDispatch.Proofs.Http.Segment
import JobDispatch.Proofs.Registry.Roster

/-!
Calls about the job or the runner of an identity, which is written at the end of an address as it
is. Which identities the calls are right for, whatever is stored: exactly those that the path of a
request still stands for.
-/

namespace JobDispatch

open Http (Request Response Url)
open Http.Url (Legible Slug)
open Registry (exchange outcome outcome_of_ok outcome_of_error perform_discard perform_onJobs
  perform_onRunners serve reply onJobs onRunners)
open Resource (slug_jobs slug_runners)

variable {c : Client} {now : Time.Instant} {reg : Registry} {worded : Nat → List UInt8}
  {id : String}

namespace Resource

/-- A request whose path names the entity of an identity. -/
def Names (kind : List Char → Resource) (id : String) (r : Request) : Prop :=
  ∃ segment, ofPath? r.path = some (kind segment) ∧ identity? segment = some id

/-- The path of a request below a collection, with an identity at its end. -/
def pathTo (collection : List Char) (id : String) : List Char :=
  Url.pathOf ('/' :: Url.pathPart (collection ++ '/' :: id.toList))

/-- The path of a legible identity ends with a segment that stands for it. -/
theorem pathTo_legible {collection : List Char} (slug : Slug collection)
    (legible : Legible id.toList) : ∃ segment, segment ≠ [] ∧ '/' ∉ segment ∧
      identity? segment = some id ∧
      pathTo collection id = '/' :: (collection ++ '/' :: segment) := by
  have whole : '/' ∉ Http.percentEncode Url.isPathEscaped id.toList :=
    fun slash => (legible.written.marks _ slash).1 rfl
  refine ⟨_, legible.percentEncode_ne_nil, whole, ?_, ?_⟩
  · rw [identity?, legible.percentDecode_eq, Text.decodeStrict_utf8, Option.map_some,
      String.ofList_toList]
  · rw [pathTo, Url.pathPart_append slug.isPart, legible.pathPart_eq, legible.pathOf_eq slug]

theorem names_job {r : Request} (path : r.path = pathTo "jobs".toList id)
    (legible : Legible id.toList) : Names .job id r := by
  obtain ⟨segment, nonempty, whole, names, ends⟩ := pathTo_legible slug_jobs legible
  exact ⟨segment, by rw [path, ends, ofPath?_job nonempty whole], names⟩

theorem names_runner {r : Request} (path : r.path = pathTo "runners".toList id)
    (legible : Legible id.toList) : Names .runner id r := by
  obtain ⟨segment, nonempty, whole, names, ends⟩ := pathTo_legible slug_runners legible
  exact ⟨segment, by rw [path, ends, ofPath?_runner nonempty whole], names⟩

theorem segments_of_job {path segment : List Char} (h : ofPath? path = some (.job segment)) :
    segment ≠ [] ∧ path.splitOn '/' = [[], "jobs".toList, segment] := by
  unfold ofPath? at h
  split at h
  · split_ifs at h <;> cases h
  · next parts =>
    split_ifs at h with empty jobs
    · cases h
      rw [jobs] at parts
      exact ⟨empty, parts⟩
    · cases h
  · cases h

/-- An identity is legible if the path that it ends names the job of it. -/
theorem legible_of_names {r : Request} (path : r.path = pathTo "jobs".toList id)
    (names : Names .job id r) : Legible id.toList := by
  obtain ⟨segment, resource, identity⟩ := names
  let segments := Url.follow ["jobs".toList] (Url.split (Url.pathPart id.toList))
  have member {s : List Char} (hs : s ∈ segments) :
      s = "jobs".toList ∨ Url.Written (Url.split (Url.pathPart id.toList)) s :=
    (Url.mem_follow hs).imp_left List.mem_singleton.mp
  have whole : ∀ s ∈ segments, '/' ∉ s := by
    intro s hs slash
    obtain rfl | written := member hs
    · exact slug_jobs.whole slash
    · exact (written.marks _ slash).1 rfl
  have parts : r.path.splitOn '/' = [] :: segments := by
    rw [path, pathTo, Url.pathPart_append slug_jobs.isPart, Url.pathOf_below slug_jobs,
      splitOn_segments whole]
  obtain ⟨nonempty, two⟩ := segments_of_job resource
  have last : segment ∈ segments := by
    rw [parts] at two
    simp [List.cons.inj two]
  obtain rfl | written := member last
  · rw [identity?_slug slug_jobs] at identity
    rw [← Option.some.inj identity, String.toList_ofList]
    exact slug_jobs.legible
  · obtain ⟨s, read, rfl⟩ := Option.map_eq_some_iff.mp identity
    rw [String.toList_ofList] at written ⊢
    exact Url.legible_of_written nonempty written read

end Resource

namespace Registry

variable {r : Request}

theorem serve_getJob (now : Time.Instant) (get : r.method = .get)
    (names : Resource.Names .job id r) :
    serve now r = reply (.json 200) JobError.response (onJobs (Jobs.get id)) := by
  obtain ⟨segment, resource, identity⟩ := names
  rw [serve_of_path resource (by simp [get])]
  simp only [answer, get, withIdentity, identity]
  rfl

theorem serve_patchJob (now : Time.Instant) {p : JobPatch} (patch : r.method = .patch)
    (names : Resource.Names .job id r) (read : r.json = .ok p) :
    serve now r = reply (.json 200) JobError.response (onJobs (Jobs.patch now id p)) := by
  obtain ⟨segment, resource, identity⟩ := names
  rw [serve_of_path resource (by simp [patch])]
  simp only [answer, patch, withIdentity, identity, withBody, read]
  rfl

theorem serve_getRunner (now : Time.Instant) (get : r.method = .get)
    (names : Resource.Names .runner id r) :
    serve now r = reply (.json 200) RunnerError.response (onRunners (Runners.get id)) := by
  obtain ⟨segment, resource, identity⟩ := names
  rw [serve_of_path resource (by simp [get])]
  simp only [answer, get, withIdentity, identity]
  rfl

theorem serve_patchStatus (now : Time.Instant) {p : RunnerStatusPatch} (patch : r.method = .patch)
    (names : Resource.Names .runner id r) (read : r.json = .ok p) :
    serve now r = reply (fun _ => .bare 204) RunnerError.response
      (onRunners (Runners.patchStatus now id p)) := by
  obtain ⟨segment, resource, identity⟩ := names
  rw [serve_of_path resource (by simp [patch])]
  simp only [answer, patch, withIdentity, identity, withBody, read]
  rfl

end Registry

namespace Client

/-- The body of a value is not too large to be read. -/
def Reads {α : Type} [Wire α] (a : α) : Prop := (Wire.write a).utf8ByteSize ≤ Http.maxBody

theorem getJob_asks (c : Client) (id : String) : (c.getJob id).request =
    Call.requestTo .get (c.base ++ "/jobs/" ++ id) [] none := by
  rw [getJob]

theorem patchJob_writes (c : Client) (id : String) (p : JobPatch) : (c.patchJob id p).request =
    Call.requestTo .patch (c.base ++ "/jobs/" ++ id) [] (some (Wire.toJson p)) := by
  rw [patchJob]

theorem getRunner_asks (c : Client) (id : String) : (c.getRunner id).request =
    Call.requestTo .get (c.base ++ "/runners/" ++ id) [] none := by
  rw [getRunner]

theorem patchRunnerStatus_writes (c : Client) (id : String) (status : RunnerStatus) :
    (c.patchRunnerStatus id status).request = Call.requestTo .patch (c.base ++ "/runners/" ++ id) []
      (some (Wire.toJson (⟨status⟩ : RunnerStatusPatch))) := by
  rw [patchRunnerStatus]

theorem toList_job (c : Client) (id : String) : (c.base ++ "/jobs/" ++ id).toList =
    c.base.toList ++ '/' :: ("jobs".toList ++ '/' :: id.toList) := by
  simp

theorem toList_runner (c : Client) (id : String) : (c.base ++ "/runners/" ++ id).toList =
    c.base.toList ++ '/' :: ("runners".toList ++ '/' :: id.toList) := by
  simp

section

variable (root : c.AtRoot)

include root

/-- The request for an address below a collection, whatever stands at its end. -/
theorem AtRoot.requestTo_below {request : Option (Url × Request)} {address : String}
    {method : Http.Method} {body : Option Json} {collection : List Char}
    (asks : request = Call.requestTo method address [] body)
    (below : address.toList = c.base.toList ++ '/' :: (collection ++ '/' :: id.toList)) :
    ∃ u r, request = some (u, r) ∧ r.method = method ∧ r.path = Resource.pathTo collection id ∧
      r.contentType = (body.map fun _ => "application/json") ∧
      r.body = (body.map Json.compact).getD "" := by
  obtain ⟨u, url, path, -⟩ := root.read?_below below
  have unmarked : ∀ d ∈ u.path, (d != '?' && d != '#') = true := by
    intro d hd
    rw [path] at hd
    simp [Url.pathOf_unmarked _ d hd]
  have target : ((u.withForm []).target.takeWhile fun d => d != '?' && d != '#') = u.path := by
    have same : (u.withForm []).path = u.path := by
      unfold Url.withForm
      split <;> rfl
    rw [Url.target, same]
    split
    · exact List.takeWhile_eq_self_iff.mpr unmarked
    · rw [List.takeWhile_append_of_pos unmarked, List.takeWhile_cons_of_neg (by decide),
        List.append_nil]
  refine ⟨_, _, by rw [asks, Call.requestTo, url]; rfl, rfl, ?_, rfl, rfl⟩
  exact target.trans path

theorem getJob_exchange (fits : reg.Fits) (legible : Legible id.toList) :
    ((c.getJob id).perform (exchange worded now)).run reg =
      (outcome JobError.refusal (onJobs (Jobs.get id))).run reg := by
  obtain ⟨u, r, asks, get, path, -, -⟩ :=
    root.requestTo_below (c.getJob_asks id) (c.toList_job id)
  have served := Registry.serve_getJob now get (Resource.names_job path legible)
  refine Registry.perform_exchange asks served ?_ (Registry.value_jobError worded)
  intro job reg' performed
  obtain ⟨jobs, got⟩ := Registry.ok_of_onJobs performed
  have version := fits.jobVersions job (Jobs.mem_of_get got).1
  have success : isSuccess 200 = true := rfl
  exact Reply.value_json worded success (job.faithful_job_iff.mpr version.le)

theorem patchJob_exchange (fits : reg.Fits) (legible : Legible id.toList) {p : JobPatch}
    (version : p.version ≤ Text.maxWord) (small : Reads p) :
    ((c.patchJob id p).perform (exchange worded now)).run reg =
      (outcome JobError.refusal (onJobs (Jobs.patch now id p))).run reg := by
  obtain ⟨u, r, asks, patch, path, type, written⟩ :=
    root.requestTo_below (c.patchJob_writes id p) (c.toList_job id)
  have read : r.json = .ok p := Request.json_write type (written ▸ small) written
    (JobPatch.faithful version)
  have served := Registry.serve_patchJob now patch (Resource.names_job path legible) read
  refine Registry.perform_exchange asks served ?_ (Registry.value_jobError worded)
  intro job reg' performed
  obtain ⟨jobs, patched⟩ := Registry.ok_of_onJobs performed
  obtain ⟨d, stored, next⟩ := Jobs.version_of_patch patched
  have before := fits.jobVersions d stored
  have after : job.version ≤ Text.maxWord := by omega
  have success : isSuccess 200 = true := rfl
  exact Reply.value_json worded success (job.faithful_job_iff.mpr after)

/-- A patch with too large a body is refused, whatever is stored. -/
theorem patchJob_tooLarge (legible : Legible id.toList) {p : JobPatch} (large : ¬ Reads p) :
    ∃ e : ClientError, e.status? = some 413 ∧
      ((c.patchJob id p).perform (exchange worded now)).run reg = (.error e, reg) := by
  obtain ⟨u, r, asks, patch, path, type, written⟩ :=
    root.requestTo_below (c.patchJob_writes id p) (c.toList_job id)
  have refused : r.json (α := JobPatch) = .error (.bare 413) :=
    Request.json_of_tooLarge type (written ▸ Nat.not_le.mp large)
  obtain ⟨segment, resource, identity⟩ := Resource.names_job path legible
  have served : serve now r = return .bare 413 := by
    rw [Registry.serve_of_path resource (by simp [patch])]
    simp only [Registry.answer, patch, Registry.withIdentity, identity, Registry.withBody, refused]
  refine ⟨.ofResponse 413 (some (worded 413)), rfl, ?_⟩
  rw [Registry.perform_served asks, served]
  have failure : isSuccess 413 = false := rfl
  exact congrArg (·, reg) (Reply.value_of_failure failure)

theorem getRunner_exchange (fits : reg.Fits) (legible : Legible id.toList) :
    ((c.getRunner id).perform (exchange worded now)).run reg =
      (outcome RunnerError.refusal (onRunners (Runners.get id))).run reg := by
  obtain ⟨u, r, asks, get, path, -, -⟩ :=
    root.requestTo_below (c.getRunner_asks id) (c.toList_runner id)
  have served := Registry.serve_getRunner now get (Resource.names_runner path legible)
  refine Registry.perform_exchange asks served ?_ (Registry.value_runnerError worded)
  intro runner reg' performed
  obtain ⟨runners, got⟩ := Registry.ok_of_onRunners performed
  have stored := Runners.mem_of_get got
  have version := fits.runnerVersions runner stored
  have success : isSuccess 200 = true := rfl
  exact Reply.value_json worded success
    (Entity.faithful_runner version.le (fits.lives runner stored))

theorem patchRunnerStatus_exchange (legible : Legible id.toList) (status : RunnerStatus) :
    ((c.patchRunnerStatus id status).perform (exchange worded now)).run reg =
      (outcome RunnerError.refusal
        (discard (onRunners (Runners.patchStatus now id ⟨status⟩)))).run reg := by
  let p : RunnerStatusPatch := ⟨status⟩
  obtain ⟨u, r, asks, patch, path, type, written⟩ :=
    root.requestTo_below (c.patchRunnerStatus_writes id status) (c.toList_runner id)
  have small : Reads p := by
    unfold Reads
    cases status <;> decide +kernel
  have read : r.json = .ok p := Request.json_write type (written ▸ small) written p.faithful
  have served := Registry.serve_patchStatus now patch (Resource.names_runner path legible) read
  rw [Registry.reply_discard] at served
  exact Registry.perform_exchange asks served (fun _ _ _ => rfl) (Registry.bare_runnerError worded)

end

end Client

namespace Registry

/-- A registry with a job in the place of the one with its identity. -/
def putJob (reg : Registry) (job : Job) : Registry :=
  { reg with jobs := { reg.jobs with store := reg.jobs.store.put job } }

/-- A registry with a runner in the place of the one with its identity. -/
def putRunner (reg : Registry) (runner : Runner) : Registry :=
  { reg with runners := { reg.runners with store := reg.runners.store.put runner } }

end Registry

namespace Client

/-- What a call comes to: what is known of the entity that is found; or, where none is, an error
that says so, and then nothing is changed. -/
def Finds {α β : Type} (found : Option (Entity α))
    (known : Entity α → Except ClientError β × Registry) (reg : Registry)
    (x : Except ClientError β × Registry) : Prop :=
  match found with
  | some e => x = known e
  | none => ∃ e : ClientError, e.isNotFound ∧ x = (.error e, reg)

/-- The calls with an identity are about the job or the runner that is stored under it, and about no
other. -/
structure Exact (c : Client) (worded : Nat → List UInt8) (now : Time.Instant) (reg : Registry)
    (id : String) : Prop where
  getJob : Finds (reg.jobs.store.retrieve id) (fun job => (.ok job, reg)) reg
    (((c.getJob id).perform (exchange worded now)).run reg)
  patchJob : ∀ p : JobPatch, p.version ≤ Text.maxWord → Reads p →
    Finds (reg.jobs.store.retrieve id) (fun job => match Jobs.checkPatch now job p with
        | .ok value => (.ok ⟨id, job.version + 1, value⟩, reg.putJob ⟨id, job.version + 1, value⟩)
        | .error e => (.error e.refusal, reg))
      reg (((c.patchJob id p).perform (exchange worded now)).run reg)
  /-- a patch with too large a body is refused, whatever is stored -/
  patchJob_tooLarge : ∀ p : JobPatch, ¬ Reads p → ∃ e : ClientError, e.status? = some 413 ∧
    ((c.patchJob id p).perform (exchange worded now)).run reg = (.error e, reg)
  getRunner : Finds (reg.runners.store.retrieve id) (fun runner => (.ok runner, reg)) reg
    (((c.getRunner id).perform (exchange worded now)).run reg)
  patchRunnerStatus : ∀ status : RunnerStatus,
    Finds (reg.runners.store.retrieve id)
      (fun runner => (.ok (), reg.putRunner
        ⟨id, runner.version + 1, runner.value.pinged status now⟩))
      reg (((c.patchRunnerStatus id status).perform (exchange worded now)).run reg)

theorem finds_of_cases {α β : Type} {found : Option (Entity α)}
    {known : Entity α → Except ClientError β × Registry} {x : Except ClientError β × Registry}
    {e : ClientError} (unknown : e.isNotFound) (stored : ∀ d, found = some d → x = known d)
    (missing : found = none → x = (.error e, reg)) : Finds found known reg x := by
  cases found with
  | none => exact ⟨e, unknown, missing rfl⟩
  | some d => exact stored d rfl

theorem exact_of_legible (root : c.AtRoot) (fits : reg.Fits) (jobs : reg.jobs.plan = [])
    (runners : reg.runners.plan = []) (legible : Legible id.toList) :
    c.Exact worded now reg id := by
  obtain ⟨⟨s, plan⟩, ⟨t, plan'⟩⟩ := reg
  obtain rfl : plan = [] := jobs
  obtain rfl : plan' = [] := runners
  have noJob : (JobError.refusal (.notFound id)).isNotFound = true := rfl
  have noRunner : (RunnerError.refusal (.notFound id)).isNotFound = true := rfl
  refine ⟨?_, fun p version small => ?_, fun _ => patchJob_tooLarge root legible, ?_,
    fun status => ?_⟩
  · have performed := Jobs.get_perform id s
    rw [getJob_exchange root fits legible]
    refine finds_of_cases noJob (fun job stored => ?_) fun missing => ?_
    · rw [stored] at performed
      exact outcome_of_ok (perform_onJobs performed)
    · rw [missing] at performed
      exact outcome_of_error (perform_onJobs performed)
  · have performed := Jobs.patch_perform now id p s
    rw [patchJob_exchange root fits legible version small]
    refine finds_of_cases noJob (fun job stored => ?_) fun missing => ?_
    · rw [stored] at performed
      cases checked : Jobs.checkPatch now job p with
      | ok value =>
        simp only [checked] at performed
        exact outcome_of_ok (perform_onJobs performed)
      | error e =>
        simp only [checked] at performed
        exact outcome_of_error (perform_onJobs performed)
    · rw [missing] at performed
      exact outcome_of_error (perform_onJobs performed)
  · have performed := Runners.get_perform t id
    rw [getRunner_exchange root fits legible]
    refine finds_of_cases noRunner (fun runner stored => ?_) fun missing => ?_
    · rw [stored] at performed
      exact outcome_of_ok (perform_onRunners performed)
    · rw [missing] at performed
      exact outcome_of_error (perform_onRunners performed)
  · have performed := Runners.patchStatus_perform t now id ⟨status⟩
    rw [patchRunnerStatus_exchange root legible]
    refine finds_of_cases noRunner (fun runner stored => ?_) fun missing => ?_
    · rw [stored] at performed
      refine outcome_of_ok ?_
      rw [perform_discard (perform_onRunners performed)]
      rfl
    · rw [missing] at performed
      refine outcome_of_error ?_
      rw [perform_discard (perform_onRunners performed)]
      rfl

end Client

namespace Reply

variable {α : Type} [Wire α] {status : Nat} {body : List UInt8}

theorem success_of_value {a : α} (h : value (.full status body) = .ok a) :
    isSuccess status = true := by
  cases success : isSuccess status with
  | true => rfl
  | false =>
    rw [value_of_failure success] at h
    cases h

/-- Nothing else is told as not found. -/
theorem status_of_notFound {e : ClientError}
    (h : (value (.full status body) : Except ClientError α) = .error e) (missing : e.isNotFound) :
    status = 404 := by
  simp only [value] at h
  split_ifs at h
  · split at h
    · cases h
    · cases h
      cases missing
  · cases h
    simpa [ClientError.isNotFound, ClientError.status?, ClientError.ofResponse] using missing

end Reply

namespace Registry

/-- A registry with nothing but a job of an identity. -/
def holding (id : String) : Registry :=
  { empty with jobs := Jobs.inMemory ⟨"J", 1, [⟨id, 1, .blank⟩]⟩ }

theorem fits_empty : empty.Fits :=
  ⟨by decide, fun _ h => absurd h List.not_mem_nil, by decide,
    fun _ h => absurd h List.not_mem_nil, fun _ h => absurd h List.not_mem_nil⟩

theorem fits_holding (id : String) : (holding id).Fits := by
  refine ⟨?_, ?_, Nat.zero_le _, fun _ h => absurd h List.not_mem_nil,
    fun _ h => absurd h List.not_mem_nil⟩
  · change 1 ≤ Text.maxWord
    decide
  · intro e he
    rw [List.mem_singleton.mp he]
    change 1 < Text.maxWord
    decide

/-- A request that finds nothing in an empty registry, and something once a job of an identity is
there, names this job. -/
theorem names_of_served {r : Request} (get : r.method = .get)
    (missing : ((serve now r).run empty).1.status = 404)
    (found : isSuccess ((serve now r).run (holding id)).1.status = true) :
    Resource.Names .job id r := by
  cases path : Resource.ofPath? r.path with
  | none =>
    simp only [serve, path] at found
    cases found
  | some resource =>
    rw [serve_of_path path (by simp [get])] at missing found
    cases resource with
    | health =>
      have counted : ((answer now r .health).run empty).1.status = 200 := by
        simp only [answer, get]
        rfl
      rw [counted] at missing
      cases missing
    | jobs =>
      simp only [answer, get, listJobs] at missing
      split at missing
      · cases (show 200 = 404 from missing)
      · cases missing
    | runners =>
      simp only [answer, get, listRunners] at missing
      split at missing
      · cases (show 200 = 404 from missing)
      · cases missing
    | job segment =>
      simp only [answer, get, withIdentity] at found
      split at found
      · next id' identity =>
        by_cases same : id = id'
        · exact ⟨segment, path, same ▸ identity⟩
        · have gone : (holding id).jobs.store.retrieve id' = none := by
            simp [holding, Jobs.inMemory, Store.retrieve, same]
          have performed := Jobs.get_perform id' (holding id).jobs.store
          rw [gone] at performed
          rw [replyJobs, reply_error (perform_onJobs performed)] at found
          cases found
      · cases found
    | runner segment =>
      simp only [answer, get, withIdentity] at found
      split at found
      · cases (show false = true from found)
      · cases found

end Registry

namespace Client

/-- The calls with an identity are right whatever a registry holds, exactly if the identity is one
that stands for itself at the end of an address. -/
theorem exact_iff (root : c.AtRoot) (worded : Nat → List UInt8) (now : Time.Instant)
    (id : String) :
    (∀ reg : Registry, reg.Fits → reg.jobs.plan = [] → reg.runners.plan = [] →
      c.Exact worded now reg id) ↔ Legible id.toList := by
  refine ⟨fun exact => ?_, fun legible reg fits jobs runners =>
    exact_of_legible root fits jobs runners legible⟩
  obtain ⟨u, r, asks, get, path, -, -⟩ :=
    root.requestTo_below (c.getJob_asks id) (c.toList_job id)
  have none := (exact _ Registry.fits_empty rfl rfl).getJob
  have one := (exact _ (Registry.fits_holding id) rfl rfl).getJob
  have stored : (Registry.holding id).jobs.store.retrieve id = some ⟨id, 1, .blank⟩ := by
    simp [Registry.holding, Jobs.inMemory, Store.retrieve]
  rw [Registry.perform_served asks] at none one
  rw [stored] at one
  obtain ⟨e, notFound, missing⟩ := none
  have found := (Prod.mk.inj one).1
  exact Resource.legible_of_names path (Registry.names_of_served get
    (Reply.status_of_notFound (Prod.mk.inj missing).1 notFound) (Reply.success_of_value found))

/-- Blanks, percent signs and letters of all kinds do no harm inside an identity. -/
theorem exact_assorted :
    Post.localhost.AtRoot ∧ Legible "50% of café".toList ∧
      Registry.assorted.Fits ∧ Registry.assorted.jobs.plan = [] ∧
      Registry.assorted.runners.plan = [] ∧
      Post.localhost.Exact (fun _ => []) .epoch Registry.assorted "50% of café" := by
  have legible : Legible "50% of café".toList :=
    ⟨by decide, by simp [Url.isSlash], by simp, by simp, by simp, by decide, by decide⟩
  exact ⟨Post.atRoot_localhost, legible, Registry.fits_assorted, rfl, rfl,
    (exact_iff Post.atRoot_localhost _ _ _).mpr legible _ Registry.fits_assorted rfl rfl⟩

/-- What stands behind a question mark is no part of a path: another job is found. -/
theorem not_exact_marked :
    Post.localhost.AtRoot ∧ Registry.assorted.Fits ∧ Registry.assorted.jobs.plan = [] ∧
      Registry.assorted.runners.plan = [] ∧
      Registry.assorted.jobs.store.retrieve "J1?x" = none ∧
      ¬ Post.localhost.Exact (fun _ => []) .epoch Registry.assorted "J1?x" := by
  have missing : Registry.assorted.jobs.store.retrieve "J1?x" = none := by decide
  refine ⟨Post.atRoot_localhost, Registry.fits_assorted, rfl, rfl, missing, fun exact => ?_⟩
  have served : ((Post.localhost.getJob "J1?x").request.map fun p =>
      ((serve .epoch p.2).run Registry.assorted).1.status) = some 200 := by
    decide +kernel
  obtain ⟨⟨u, r⟩, asks, status⟩ := Option.map_eq_some_iff.mp served
  have finds := exact.getJob
  rw [missing, Registry.perform_served asks] at finds
  obtain ⟨e, notFound, run⟩ := finds
  have other := Reply.status_of_notFound (Prod.mk.inj run).1 notFound
  rw [status] at other
  cases other

end Client

end JobDispatch

import JobDispatch.Proofs.Client.Address

/-!
Calls of the registry over a client come to what the registry's own services do and give: what is
written is read as the same value, and every error comes back with its status and its message.
-/

namespace JobDispatch

open Http (Request Response Url)
open Http.Url (Slug)
open Registry (exchange outcome serve reply onJobs onRunners)
open Resource (slug_jobs slug_runners)

variable {c : Client} {now : Time.Instant} {reg : Registry} {worded : Nat → List UInt8}

namespace Registry

variable {r : Request}

theorem serve_launch (now : Time.Instant) {req : CreateJob} (post : r.method = .post)
    (path : r.path = '/' :: "jobs".toList) (read : r.json = .ok req) :
    serve now r = reply (.json 201) JobError.response (onJobs (Jobs.launch now req)) := by
  have resource : Resource.ofPath? r.path = some .jobs := by rw [path, Resource.ofPath?_jobs]
  rw [serve_of_path resource (by simp [post])]
  simp only [answer, post, withBody, read]
  rfl

theorem serve_register (now : Time.Instant) {req : RegisterRunner} (post : r.method = .post)
    (path : r.path = '/' :: "runners".toList) (read : r.json = .ok req) :
    serve now r =
      reply (.json 201) RunnerError.response (onRunners (Runners.register now req)) := by
  have resource : Resource.ofPath? r.path = some .runners := by rw [path, Resource.ofPath?_runners]
  rw [serve_of_path resource (by simp [post])]
  simp only [answer, post, withBody, read]
  rfl

end Registry

namespace Client

/-- The calls of a client come to the services of the registry, with the errors that these give. -/
structure Transparent (c : Client) (worded : Nat → List UInt8) (now : Time.Instant)
    (reg : Registry) : Prop where
  launchJob : ∀ req : CreateJob, Reads req →
    ((c.launchJob req).perform (exchange worded now)).run reg =
      (outcome JobError.refusal (onJobs (Jobs.launch now req))).run reg
  getJob : ∀ id : String, Slug id.toList →
    ((c.getJob id).perform (exchange worded now)).run reg =
      (outcome JobError.refusal (onJobs (Jobs.get id))).run reg
  patchJob : ∀ (id : String) (p : JobPatch), Slug id.toList → p.version ≤ Text.maxWord →
    Reads p → ((c.patchJob id p).perform (exchange worded now)).run reg =
      (outcome JobError.refusal (onJobs (Jobs.patch now id p))).run reg
  registerRunner : ∀ req : RegisterRunner, LiveFits req.timeToLive → Reads req →
    ((c.registerRunner req).perform (exchange worded now)).run reg =
      (outcome RunnerError.refusal (onRunners (Runners.register now req))).run reg
  getRunner : ∀ id : String, Slug id.toList →
    ((c.getRunner id).perform (exchange worded now)).run reg =
      (outcome RunnerError.refusal (onRunners (Runners.get id))).run reg
  /-- nothing is told of a runner that was updated -/
  patchRunnerStatus : ∀ (id : String) (status : RunnerStatus), Slug id.toList →
    ((c.patchRunnerStatus id status).perform (exchange worded now)).run reg =
      (outcome RunnerError.refusal
        (discard (onRunners (Runners.patchStatus now id ⟨status⟩)))).run reg
  /-- a registry gives out no other identities -/
  issued : ∀ n, Slug (Store.idOf Registry.empty.jobs.store.label n).toList ∧
    Slug (Store.idOf Registry.empty.runners.store.label n).toList
  /-- a runner sees conflicts of versions apart, and all other errors with status and message -/
  jobErrors : ∀ e : JobError, RegistryError.ofClient e.refusal =
    if e.isConflict then .conflict e.refusal.message else .rejected e.status e.message
  runnerErrors : ∀ e : RunnerError, RegistryError.ofClient e.refusal =
    if e.isConflict then .conflict e.refusal.message else .rejected e.status e.message

section

variable (root : c.AtRoot)

include root

theorem launchJob_exchange {req : CreateJob} (small : Reads req) :
    ((c.launchJob req).perform (exchange worded now)).run reg =
      (outcome JobError.refusal (onJobs (Jobs.launch now req))).run reg := by
  let r := Request.writing .post "jobs".toList req
  have asks : ∃ u, (c.launchJob req).request = some (u, r) :=
    root.requestTo (by simp) slug_jobs.isPart (Url.pathOf_single slug_jobs) .post _
  obtain ⟨u, asks⟩ := asks
  have read : r.json = .ok req := Request.json_writing small req.faithful
  have served := Registry.serve_launch now (r := r) rfl
    (Request.path_eq rfl slug_jobs.isPart) read
  refine Registry.perform_exchange asks served ?_ (Registry.value_jobError worded)
  intro job reg' performed
  obtain ⟨jobs, launched⟩ := Registry.ok_of_onJobs performed
  have version : job.version ≤ Text.maxWord := by
    rw [Jobs.version_of_launch launched]
    decide
  have success : isSuccess 201 = true := rfl
  exact Reply.value_json worded success (job.faithful_job_iff.mpr version)

theorem registerRunner_exchange {req : RegisterRunner} (live : LiveFits req.timeToLive)
    (small : Reads req) :
    ((c.registerRunner req).perform (exchange worded now)).run reg =
      (outcome RunnerError.refusal (onRunners (Runners.register now req))).run reg := by
  let r := Request.writing .post "runners".toList req
  have asks : ∃ u, (c.registerRunner req).request = some (u, r) :=
    root.requestTo (by simp) slug_runners.isPart (Url.pathOf_single slug_runners) .post _
  obtain ⟨u, asks⟩ := asks
  have read : r.json = .ok req := Request.json_writing small (RegisterRunner.faithful live)
  have served := Registry.serve_register now (r := r) rfl
    (Request.path_eq rfl slug_runners.isPart) read
  refine Registry.perform_exchange asks served ?_ (Registry.value_runnerError worded)
  intro runner reg' performed
  obtain ⟨runners, registered⟩ := Registry.ok_of_onRunners performed
  obtain ⟨first, same⟩ := Runners.eq_of_register registered
  have version : runner.version ≤ Text.maxWord := by
    rw [first]
    decide
  have success : isSuccess 201 = true := rfl
  exact Reply.value_json worded success (Entity.faithful_runner version (same ▸ live))

/-- A client of a registry at the root of a host is transparent. -/
theorem transparent_atRoot (fits : reg.Fits) : c.Transparent worded now reg where
  launchJob _ small := launchJob_exchange root small
  getJob _ slug := getJob_exchange root fits slug.legible
  patchJob _ _ slug version small := patchJob_exchange root fits slug.legible version small
  registerRunner _ live small := registerRunner_exchange root live small
  getRunner _ slug := getRunner_exchange root fits slug.legible
  patchRunnerStatus _ status slug := patchRunnerStatus_exchange root slug.legible status
  issued n := ⟨(plain_idOf (by decide) (by decide) n).slug,
    (plain_idOf (by decide) (by decide) n).slug⟩
  jobErrors e := e.ofClient_refusal
  runnerErrors e := e.ofClient_refusal

end

/-- A patch of a job that names an older version is refused as by the registry itself. -/
theorem transparent_localhost :
    Post.localhost.AtRoot ∧ Registry.assorted.Fits ∧
      Post.localhost.Transparent (fun _ => []) .epoch Registry.assorted ∧
      (((Post.localhost.patchJob "J1" (.reserve 2)).perform
        (exchange (fun _ => []) .epoch)).run Registry.assorted).1 =
          .error (.refused 409 "job J1 is at version 3, not 2") := by
  have transparent : Post.localhost.Transparent (fun _ => []) .epoch Registry.assorted :=
    transparent_atRoot Post.atRoot_localhost Registry.fits_assorted
  refine ⟨Post.atRoot_localhost, Registry.fits_assorted, transparent, ?_⟩
  rw [transparent.patchJob "J1" (.reserve 2) (Url.slug_of_all (by decide) (by decide)) (by decide)
    (by unfold Reads; decide +kernel)]
  decide +kernel

end Client

end JobDispatch

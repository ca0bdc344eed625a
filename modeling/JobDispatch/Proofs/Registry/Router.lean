import JobDispatch.Client.Call
import JobDispatch.Proofs.Http.Percent
import JobDispatch.Proofs.Http.Url
import JobDispatch.Proofs.Registry.Call
import JobDispatch.Proofs.Text.Utf8
import JobDispatch.Proofs.Wire.Job
import JobDispatch.Registry.Router

/-!
Patches of jobs on their way through the server: which request is a patch of which job, what becomes
of it, and that nothing else in the answer to such a request looks like a job.
-/

namespace JobDispatch

open Http (Request Response)
open Http.Url (Slug)

/-- The identities of a store are plain where its label is one. -/
theorem plain_idOf {label : String} (nonempty : label.toList ≠ [])
    (letters : label.toList.all Char.isAlphanum = true) (n : Nat) :
    Http.Url.Plain (Store.idOf label n).toList := by
  have parts : (Store.idOf label n).toList = label.toList ++ Text.digits n := by
    simp [Store.idOf, Text.decimal]
  rw [parts]
  refine ⟨by simp [nonempty], ?_⟩
  intro d hd
  rcases List.mem_append.mp hd with hd | hd
  · exact List.all_eq_true.mp letters d hd
  · simp [Char.isAlphanum, Text.isDigit_of_mem_digits hd]

theorem identity?_slug {s : List Char} (h : Slug s) : identity? s = some (String.ofList s) := by
  have other (c : Char) (hc : c ∈ s) : c ≠ '%' := Http.Url.ne_of_isSlug (h.2 c hc) '%' rfl
  rw [identity?, Http.percentDecode_plain other, Text.decodeStrict_utf8]
  rfl

/-- Segments are told apart at the slashes before them. -/
theorem splitOn_segments {segments : List (List Char)} (whole : ∀ s ∈ segments, '/' ∉ s) :
    (segments.flatMap ('/' :: ·)).splitOn '/' = [] :: segments := by
  have joined : segments.flatMap ('/' :: ·) = List.intercalate ['/'] ([] :: segments) := by
    clear whole
    induction segments with
    | nil => rfl
    | cons s ss ih =>
      rw [List.flatMap_cons, ih, List.intercalate_cons_cons]
      cases ss with
      | nil => simp
      | cons t ts => simp [List.intercalate_cons_cons]
  rw [joined]
  exact List.splitOn_intercalate '/' (List.forall_mem_cons.mpr ⟨List.not_mem_nil, whole⟩) (by simp)

namespace Resource

variable {s : List Char}

theorem slug_jobs : Slug "jobs".toList := Http.Url.slug_of_all (by decide) (by decide)

theorem slug_runners : Slug "runners".toList := Http.Url.slug_of_all (by decide) (by decide)

/-- What stands in the path of an entity of a collection. -/
theorem splitOn_entity {collection : List Char} (slug : Slug collection) (whole : '/' ∉ s) :
    ('/' :: (collection ++ '/' :: s)).splitOn '/' = [[], collection, s] := by
  have path : '/' :: (collection ++ '/' :: s) = [collection, s].flatMap ('/' :: ·) := by simp
  rw [path]
  refine splitOn_segments ?_
  simp only [List.forall_mem_cons]
  exact ⟨slug.whole, whole, by simp⟩

theorem ofPath?_job (nonempty : s ≠ []) (whole : '/' ∉ s) :
    ofPath? ('/' :: ("jobs".toList ++ '/' :: s)) = some (.job s) := by
  rw [ofPath?, splitOn_entity slug_jobs whole]
  exact (if_neg nonempty).trans (if_pos rfl)

theorem ofPath?_runner (nonempty : s ≠ []) (whole : '/' ∉ s) :
    ofPath? ('/' :: ("runners".toList ++ '/' :: s)) = some (.runner s) := by
  rw [ofPath?, splitOn_entity slug_runners whole]
  exact (if_neg nonempty).trans ((if_neg (by decide)).trans (if_pos rfl))

theorem ofPath?_jobs : ofPath? ('/' :: "jobs".toList) = some .jobs := by decide

theorem ofPath?_runners : ofPath? ('/' :: "runners".toList) = some .runners := by decide

end Resource

namespace Registry

open Jobs (inMemory)

/-- What can come of a request that patches something: a job is patched and answered with, or the
answer has no body or is no success and the jobs stay as they are. -/
inductive PatchAnswer (now : Time.Instant) (r : Request) (s : Store JobValue) :
    Response → Store JobValue → Prop
  | patched (id : String) (p : JobPatch) (job : Job) (value : JobValue)
      (asked : r.json = .ok p) (stored : s.retrieve id = some job)
      (accepted : Jobs.checkPatch now job p = .ok value) :
      PatchAnswer now r s (.json 200 (⟨id, job.version + 1, value⟩ : Job))
        (s.put ⟨id, job.version + 1, value⟩)
  | other (a : Response) (plain : a.body = none ∨ isSuccess a.status = false) :
      PatchAnswer now r s a s

theorem JobError.not_success (e : JobError) : isSuccess e.response.status = false := by
  cases e <;> rfl

theorem RunnerError.not_success (e : RunnerError) : isSuccess e.response.status = false := by
  cases e <;> rfl

theorem Request.json_error {α : Type} [Wire α] {r : Request} {a : Response}
    (h : r.json (α := α) = .error a) : a.body = none := by
  unfold Http.Request.json at h
  split_ifs at h
  · cases h
    rfl
  · cases h
    rfl
  · split at h
    · cases h
    · cases h
      rfl
    · cases h
      rfl

variable {now : Time.Instant} {r : Request} {reg : Registry} {s : Store JobValue}

section

variable {ε β : Type} {ok : β → Response} {error : ε → Response}

theorem reply_ok {a : Action Registry ε β} {reg' : Registry} {b : β}
    (h : a.perform reg = (.ok b, reg')) : (reply ok error a).run reg = (ok b, reg') := by
  have ran : StateT.run (ExceptT.run a) reg = (.ok b, reg') := h
  simp only [reply, bind_pure_comp, StateT.run_map, ran]
  rfl

theorem reply_error {a : Action Registry ε β} {reg' : Registry} {e : ε}
    (h : a.perform reg = (.error e, reg')) : (reply ok error a).run reg = (error e, reg') := by
  have ran : StateT.run (ExceptT.run a) reg = (.error e, reg') := h
  simp only [reply, bind_pure_comp, StateT.run_map, ran]
  rfl

theorem perform_onJobs {a : Action (Repository JobValue) ε β} {x : Except ε β}
    {jobs : Repository JobValue} (h : a.perform reg.jobs = (x, jobs)) :
    (onJobs a).perform reg = (x, { reg with jobs }) :=
  Action.perform_onPart h

theorem perform_onRunners {a : Action (Repository RunnerValue) ε β} {x : Except ε β}
    {runners : Repository RunnerValue} (h : a.perform reg.runners = (x, runners)) :
    (onRunners a).perform reg = (x, { reg with runners }) :=
  Action.perform_onPart h

end

/-- A request that patches a job is answered with it, or with an error. -/
theorem patchAnswer_job (h : reg.jobs = inMemory s) {p : JobPatch} (asked : r.json = .ok p)
    (id : String) : ∃ a t,
      (replyJobs (.json 200) (Jobs.patch now id p)).run reg =
        (a, { reg with jobs := inMemory t }) ∧ PatchAnswer now r s a t := by
  have performed : (Jobs.patch now id p).perform reg.jobs = _ :=
    (congrArg _ h).trans (Jobs.patch_perform now id p s)
  cases stored : s.retrieve id with
  | none =>
    rw [stored] at performed
    exact ⟨_, s, reply_error (perform_onJobs performed), .other _ (.inr rfl)⟩
  | some job =>
    rw [stored] at performed
    cases accepted : Jobs.checkPatch now job p with
    | error e =>
      simp only [accepted] at performed
      exact ⟨_, s, reply_error (perform_onJobs performed), .other _ (.inr (JobError.not_success e))⟩
    | ok value =>
      simp only [accepted] at performed
      have what := PatchAnswer.patched id p job value asked stored accepted
      exact ⟨_, _, reply_ok (perform_onJobs performed), what⟩

/-- Whatever a request wants to patch, it is a job that is patched, or no answer looks like one. -/
theorem serve_patch (now : Time.Instant) (h : reg.jobs = inMemory s)
    (patch : r.method = .patch) : ∃ a reg' t,
      (serve now r).run reg = (a, reg') ∧ reg'.jobs = inMemory t ∧ PatchAnswer now r s a t := by
  have bare (status : Nat) : ∃ a reg' t,
      (pure (Response.bare status) : StateM Registry Response).run reg = (a, reg') ∧
        reg'.jobs = inMemory t ∧ PatchAnswer now r s a t :=
    ⟨_, reg, s, rfl, h, .other _ (.inl rfl)⟩
  have get : r.method ≠ .head := by simp [patch]
  unfold serve
  cases Resource.ofPath? r.path with
  | none => exact bare 404
  | some resource =>
    simp only [if_neg get]
    cases resource with
    | health =>
      simp only [answer, patch]
      exact bare 405
    | jobs =>
      simp only [answer, patch]
      exact bare 405
    | job segment =>
      simp only [answer, patch, withIdentity]
      cases identity? segment with
      | none => exact bare 400
      | some id =>
        simp only [withBody]
        cases asked : r.json (α := JobPatch) with
        | error a => exact ⟨a, reg, s, rfl, h, .other a (.inl (Request.json_error asked))⟩
        | ok p =>
          obtain ⟨a, t, ran, what⟩ := patchAnswer_job h asked id
          exact ⟨a, _, t, ran, rfl, what⟩
    | runners =>
      simp only [answer, patch]
      exact bare 405
    | runner segment =>
      simp only [answer, patch, withIdentity]
      cases identity? segment with
      | none => exact bare 400
      | some id =>
        simp only [withBody]
        cases asked : r.json (α := RunnerStatusPatch) with
        | error a => exact ⟨a, reg, s, rfl, h, .other a (.inl (Request.json_error asked))⟩
        | ok p =>
          obtain ⟨x, runners, performed⟩ : ∃ x runners,
              (Runners.patchStatus now id p).perform reg.runners = (x, runners) := ⟨_, _, rfl⟩
          cases x with
          | ok runner =>
            exact ⟨_, _, s, reply_ok (perform_onRunners performed), h, .other _ (.inl rfl)⟩
          | error e =>
            exact ⟨_, _, s, reply_error (perform_onRunners performed), h,
              .other _ (.inr (RunnerError.not_success e))⟩

theorem health_state (h : reg.jobs = inMemory s) : (health.run reg).2.jobs = inMemory s := by
  have all : (Repository.all 0 0 : Action (Repository JobValue) _ _).perform reg.jobs =
      (.ok (s.all 0 0), inMemory s) := (congrArg _ h).trans (Repository.perform_call .all "all" _ s)
  obtain ⟨x, runners, performed⟩ : ∃ x runners,
      (Repository.all 0 0 : Action (Repository RunnerValue) _ _).perform reg.runners =
        (x, runners) := ⟨_, _, rfl⟩
  have counted : (onRunners (Repository.all 0 0)).perform { reg with jobs := inMemory s } = _ :=
    perform_onRunners performed
  have state {ε β : Type} (ok : β → Response) (error : ε → Response) (a : Action Registry ε β) :
      ((reply ok error a).run reg).2 = (a.perform reg).2 := rfl
  rw [health, state]
  simp only [Action.perform_bind, perform_onJobs all, counted]
  cases x <;> rfl

/-- What a request asks for is looked at, not changed. -/
theorem serve_get (now : Time.Instant) (h : reg.jobs = inMemory s) (get : r.method = .get) :
    ((serve now r).run reg).2.jobs = inMemory s := by
  have other : r.method ≠ .head := by simp [get]
  unfold serve
  cases Resource.ofPath? r.path with
  | none => exact h
  | some resource =>
    simp only [if_neg other]
    cases resource with
    | health =>
      simp only [answer, get]
      exact health_state h
    | jobs =>
      simp only [answer, get, listJobs]
      split
      · next p w _ _ =>
        have found := Jobs.search_perform p.query w.start w.stop s
        exact congrArg Prod.snd ((congrArg _ h).trans found)
      · exact h
    | job segment =>
      simp only [answer, get, withIdentity]
      cases identity? segment with
      | none => exact h
      | some id =>
        have found := Jobs.get_perform id s
        refine (congrArg Prod.snd ((congrArg _ h).trans found)).trans ?_
        cases s.retrieve id <;> rfl
    | runners =>
      simp only [answer, get, listRunners]
      split
      · exact h
      · exact h
    | runner segment =>
      simp only [answer, get, withIdentity]
      cases identity? segment with
      | none => exact h
      | some id => exact h

/-- A request finds its way by its path. -/
theorem serve_of_path {resource : Resource} (path : Resource.ofPath? r.path = some resource)
    (other : r.method ≠ .head) : serve now r = answer now r resource := by
  simp only [serve, path, if_neg other]

/-- A request for a job's path is about the job. -/
theorem serve_job (patch : r.method = .patch) {id : String} (slug : Slug id.toList)
    (path : r.path = '/' :: ("jobs".toList ++ '/' :: id.toList)) :
    serve now r = withBody r fun p : JobPatch => replyJobs (.json 200) (Jobs.patch now id p) := by
  have resource : Resource.ofPath? r.path = some (.job id.toList) := by
    rw [path, Resource.ofPath?_job slug.1 slug.whole]
  rw [serve_of_path resource (by simp [patch])]
  simp only [answer, patch, withIdentity, identity?_slug slug, String.ofList_toList]

end Registry

namespace Http.Request

variable {α : Type} [Wire α] {r : Request}

theorem read_of_json {a : α} (h : r.json = .ok a) : Wire.read r.body = .ok a := by
  unfold Request.json at h
  split_ifs at h
  split at h
  · next b read => rw [read, Except.ok.inj h]
  · cases h
  · cases h

theorem isJson_applicationJson :
    (MediaType.read? "application/json").any MediaType.isJson = true := by
  decide +kernel

/-- A body that is too large is not read. -/
theorem json_of_tooLarge (type : r.contentType = some "application/json")
    (large : maxBody < r.body.utf8ByteSize) : r.json (α := α) = .error (.bare 413) := by
  have json : (r.contentType.bind MediaType.read?).any MediaType.isJson = true := by
    rw [type]
    exact isJson_applicationJson
  simp [Request.json, json, large]

/-- Any other body is read if it is what is written of a faithful value. -/
theorem json_write (type : r.contentType = some "application/json")
    (small : r.body.utf8ByteSize ≤ maxBody) {a : α} (written : r.body = Wire.write a)
    (faithful : Wire.Faithful a) : r.json = .ok a := by
  have json : (r.contentType.bind MediaType.read?).any MediaType.isJson = true := by
    rw [type]
    exact isJson_applicationJson
  rw [Request.json, json, if_neg (by simp), if_neg (Nat.not_lt.mpr small), written,
    faithful.read_write]

end Http.Request

end JobDispatch

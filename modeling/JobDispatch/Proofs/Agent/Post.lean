import JobDispatch.Agent.Desk
import JobDispatch.Agent.Processor
import JobDispatch.Client.Runner
import JobDispatch.Proofs.Registry.Router
import JobDispatch.Proofs.Registry.Running

/-!
A runner that talks to its registry over HTTP: every request arrives and is served, and every
response comes back. A job that the runner reserves this way is stored as it comes back.
-/

namespace JobDispatch

open Http (Request Response Url)
open Http.Url (Authority Slug)

/-- A request on its way: what happens at the registry before it arrives, and when it does. -/
structure Errand where
  before : List RegistryEvent
  now : Time.Instant

structure Post where
  registry : Registry
  /-- what the next requests will meet -/
  coming : Nat → Errand
  raised : List FatalError

abbrev PostM := StateM Post

namespace Post

def start (registry : Registry) (coming : Nat → Errand) : Post := ⟨registry, coming, []⟩

/-- The post when the next request arrives. -/
def next (w : Post) : Post :=
  { w with
    registry := (w.coming 0).before.foldl Registry.react w.registry
    coming := fun n => w.coming (n + 1) }

/-- The body of a response as it travels. A success without a body has none; what else the server
does not word itself is left open. -/
def bytes (worded : Nat → List UInt8) (a : Response) : List UInt8 :=
  match a.body with
  | some j => Text.utf8 j.write
  | none => if isSuccess a.status then [] else worded a.status

variable (worded : Nat → List UInt8)

def send (_ : Url) (r : Request) : PostM Reply := fun w =>
  let (a, registry) := (Registry.serve (w.coming 0).now r).run w.next.registry
  (.full a.status (bytes worded a), { w.next with registry })

/-- The desk of a runner with a client. -/
def desk (c : Client) : Desk PostM where
  candidates params window := c.candidates (send worded) params window
  patch id p := Client.seenByRunner (send worded) (c.patchJob id p)
  sleep _ := return
  correlation := return ""
  raise e := modify fun w => { w with raised := w.raised ++ [e] }

end Post

/-- A client of a registry that answers at the root of a host. -/
def Client.AtRoot (c : Client) : Prop :=
  ∃ secure authority host port, Authority secure authority host port ∧
    c.base = String.ofList (Url.scheme secure ++ "://".toList ++ authority)

def Post.localhost : Client := ⟨"http://localhost"⟩

theorem Post.atRoot_localhost : localhost.AtRoot := by
  have parts : "localhost".toList.all (fun d => Url.isPart d && !Url.isSlash d) = true := by
    decide +kernel
  refine ⟨false, "localhost".toList, "localhost", 80, ⟨by decide +kernel, ?_⟩, by decide +kernel⟩
  intro d hd
  simpa using List.all_eq_true.mp parts d hd

namespace Client.AtRoot

variable {c : Client} {address : String} {path : List Char}

/-- An address below the root of the host is read as the host and what it keeps behind it. -/
theorem read?_below (root : c.AtRoot) (below : address.toList = c.base.toList ++ '/' :: path) :
    ∃ u, Url.read? address = some u ∧ u.path = Url.pathOf ('/' :: Url.pathPart path) ∧
      u.query = Url.queryPart path := by
  obtain ⟨secure, authority, host, port, reads, base⟩ := root
  have written : address = String.ofList (Url.scheme secure ++ "://".toList ++ authority ++
      '/' :: path) := by
    rw [← String.toList_inj, below, base]
    simp
  exact ⟨_, written ▸ Url.read?_below reads path, rfl, rfl⟩

/-- A path that stays as it is is all that is kept. -/
theorem read? (root : c.AtRoot) (below : address.toList = c.base.toList ++ '/' :: path)
    (parts : ∀ d ∈ path, Url.isPart d = true) (stays : Url.pathOf ('/' :: path) = '/' :: path) :
    ∃ u, Url.read? address = some u ∧ u.path = '/' :: path ∧ u.query = none := by
  obtain ⟨u, url, kept, query⟩ := root.read?_below below
  obtain ⟨all, none⟩ := Url.pathPart_parts parts
  rw [all, stays] at kept
  exact ⟨u, url, kept, query.trans none⟩

theorem requestTo (root : c.AtRoot) (below : address.toList = c.base.toList ++ '/' :: path)
    (parts : ∀ d ∈ path, Url.isPart d = true) (stays : Url.pathOf ('/' :: path) = '/' :: path)
    (method : Http.Method) (body : Option Json) :
    ∃ u, Call.requestTo method address [] body = some (u, ⟨method, '/' :: path,
      body.map fun _ => "application/json", (body.map Json.compact).getD ""⟩) := by
  obtain ⟨u, url, path_, query⟩ := root.read? below parts stays
  have unasked : u.withForm [] = u := by simp only [Url.withForm, query]
  have target : u.target = '/' :: path := by simp only [Url.target, query, path_]
  refine ⟨u, ?_⟩
  simp only [Call.requestTo, url, Option.map_some, unasked, target]

/-- A form becomes the query of the target. -/
theorem requestTo_form (root : c.AtRoot) (below : address.toList = c.base.toList ++ '/' :: path)
    (parts : ∀ d ∈ path, Url.isPart d = true) (stays : Url.pathOf ('/' :: path) = '/' :: path)
    {form : Http.Form} (full : form ≠ []) (method : Http.Method) :
    ∃ u, Call.requestTo method address form none =
      some (u, ⟨method, '/' :: (path ++ '?' :: form.encode), none, ""⟩) := by
  obtain ⟨u, url, path_, query⟩ := root.read? below parts stays
  obtain ⟨p, ps, rfl⟩ := List.exists_cons_of_ne_nil full
  have asked : (u.withForm (p :: ps)).target =
      '/' :: (path ++ '?' :: Http.Form.encode (p :: ps)) := by
    simp only [Url.withForm, query, Url.target, path_, List.cons_append]
  refine ⟨u.withForm (p :: ps), ?_⟩
  simp only [Call.requestTo, url, Option.map_some, asked]
  rfl

end Client.AtRoot

/-- The request that a patch of a job is. -/
theorem Client.patchJob_request {c : Client} (root : c.AtRoot) {id : String}
    (slug : Slug id.toList) (p : JobPatch) : ∃ u, (c.patchJob id p).request =
      some (u, ⟨.patch, '/' :: ("jobs".toList ++ '/' :: id.toList), some "application/json",
        Wire.write p⟩) :=
  root.requestTo (by simp) (Url.isPart_pair Resource.slug_jobs slug)
    (Url.pathOf_pair Resource.slug_jobs slug) .patch (some (Wire.toJson p))

theorem Client.patchJob_asks {c : Client} {id : String} {p : JobPatch} {u : Url} {r : Request}
    (h : (c.patchJob id p).request = some (u, r)) :
    r.method = .patch ∧ r.body = Wire.write p := by
  obtain ⟨v, -, same⟩ := Option.map_eq_some_iff.mp h
  cases same
  exact ⟨rfl, rfl⟩

theorem Client.listJobs_asks {c : Client} {params : JobParams} {window : Window} {u : Url}
    {r : Request} (h : (c.listJobs params window).request = some (u, r)) : r.method = .get := by
  obtain ⟨v, -, same⟩ := Option.map_eq_some_iff.mp h
  cases same
  rfl

theorem Except.eq_ok_of_mapError {ε ε' α : Type} {f : ε → ε'} {x : Except ε α} {a : α}
    (h : x.mapError f = .ok a) : x = .ok a := by
  cases x with
  | error e => cases h
  | ok b => rw [Except.ok.inj h]

namespace Registry

variable {now : Time.Instant} {r : Request} {es : List RegistryEvent} {a : Response}
  {t : Store JobValue}

/-- A patch is one more event at most. -/
theorem PatchAnswer.stored (what : PatchAnswer now r (stored es) a t) : ∃ fs, t = stored fs := by
  cases what with
  | patched id p job value asked found accepted =>
    refine ⟨es ++ [.patch now id p], ?_⟩
    rw [stored_snoc, RegistryEvent.call, JobCall.patch_whole, found]
    simp only [accepted]
  | other a plain => exact ⟨es, rfl⟩

end Registry

namespace Reply

variable {α : Type} [Wire α] {status : Nat} {body : List UInt8}

theorem decode?_utf8 (j : Json) :
    (decode? (Text.utf8 j.write) : Option α) = (Wire.read j.compact).toOption := by
  rw [decode?, Text.decodeStrict_utf8]
  rfl

theorem value_of_failure (h : isSuccess status = false) :
    (value (.full status body) : Except ClientError α) =
      .error (.ofResponse status (some body)) := by
  simp [value, h]

theorem value_of_decode? (h : isSuccess status = true) {a : α} (read : decode? body = some a) :
    value (.full status body) = .ok a := by
  simp [value, h, read]

theorem value_of_unread (h : isSuccess status = true) (read : (decode? body : Option α) = none) :
    (value (.full status body) : Except ClientError α) = .error .noValue := by
  simp [value, h, read]

end Reply

namespace Post

open Registry (PatchAnswer)

variable {worded : Nat → List UInt8} {c : Client} {w w' : Post}

/-- A job that is read in the answer to a patch is the job as it was patched, at a version that fits
64 bits. -/
theorem patched_of_value {now : Time.Instant} {r : Request} {s t : Store JobValue} {a : Response}
    (what : PatchAnswer now r s a t) {job : Job}
    (read : Reply.value (.full a.status (bytes worded a)) = .ok job) :
    ∃ id p old value, r.json = .ok p ∧ s.retrieve id = some old ∧
      Jobs.checkPatch now old p = .ok value ∧ job = ⟨id, old.version + 1, value⟩ ∧
      t = s.put job ∧ job.version ≤ Text.maxWord := by
  cases what with
  | patched id p old value asked stored accepted =>
    let new : Job := ⟨id, old.version + 1, value⟩
    have body : (Reply.decode? (bytes worded (.json 200 new)) : Option Job) =
        (Wire.read (Wire.write new)).toOption := Reply.decode?_utf8 (Wire.toJson new)
    cases got : (Wire.read (Wire.write new) : Except Misread Job) with
    | error e =>
      rw [got] at body
      cases (Reply.value_of_unread rfl body).symm.trans read
    | ok d =>
      obtain ⟨rfl, fits⟩ := Entity.eq_of_read_job got
      rw [got] at body
      obtain rfl := Except.ok.inj ((Reply.value_of_decode? rfl body).symm.trans read)
      exact ⟨id, p, old, value, asked, stored, accepted, rfl, rfl, fits⟩
  | other a plain =>
    cases success : isSuccess a.status with
    | false => cases (Reply.value_of_failure success).symm.trans read
    | true =>
      have none : a.body = none := plain.resolve_right (by simp [success])
      have nothing : bytes worded a = [] := by simp [bytes, none, success]
      have unread : (Reply.decode? [] : Option Job) = .none := by
        rw [Reply.decode?, Text.decodeStrict]
        rfl
      rw [nothing] at read
      cases (Reply.value_of_unread success unread).symm.trans read

/-- A post whose jobs are stored as they are after some events, from which nothing was raised, and
which meets what was to come. -/
structure Underway (coming : Nat → Errand) (w : Post) (es : List RegistryEvent) : Prop where
  jobs : w.registry.jobs = Jobs.inMemory (Registry.stored es)
  calm : w.raised = []
  ahead : ∀ n, ∃ m, w.coming n = coming m

/-- A job that is stored as it is known, at a version that fits 64 bits, and runs. -/
structure Held (es : List RegistryEvent) (job : Job) : Prop where
  found : (Registry.stored es).retrieve job.id = some job
  fits : job.version ≤ Text.maxWord
  runs : job.value.status.run = some .running

theorem underway_start (es : List RegistryEvent) (coming : Nat → Errand) :
    Underway coming (start (Registry.run es) coming) es :=
  ⟨Registry.run_jobs es, rfl, fun n => ⟨n, rfl⟩⟩

variable {coming : Nat → Errand} {es : List RegistryEvent}

theorem Underway.next (h : Underway coming w es) :
    Underway coming w.next (es ++ (w.coming 0).before) :=
  ⟨Registry.foldl_react_jobs h.jobs _, h.calm, fun n => h.ahead (n + 1)⟩

theorem Underway.withRegistry (h : Underway coming w es) {registry : Registry}
    {fs : List RegistryEvent} (jobs : registry.jobs = Jobs.inMemory (Registry.stored fs)) :
    Underway coming { w with registry } fs :=
  ⟨jobs, h.calm, h.ahead⟩

theorem patch_run {id : String} {p : JobPatch} {u : Url} {r : Request}
    (asks : (c.patchJob id p).request = some (u, r)) {a : Response} {registry : Registry}
    (served : (Registry.serve (w.coming 0).now r).run w.next.registry = (a, registry)) :
    ((desk worded c).patch id p).run w =
      ((Reply.value (.full a.status (bytes worded a))).mapError .ofClient,
        { w.next with registry }) := by
  have sent : send worded u r w = (.full a.status (bytes worded a), { w.next with registry }) := by
    rw [send, served]
  have performed : ((c.patchJob id p).perform (send worded)).run w =
      (Reply.value (send worded u r w).1, (send worded u r w).2) := by
    rw [Call.perform, asks]
    rfl
  have seen : ((desk worded c).patch id p).run w =
      ((((c.patchJob id p).perform (send worded)).run w).1.mapError .ofClient,
        (((c.patchJob id p).perform (send worded)).run w).2) := rfl
  rw [seen, performed, sent]

/-- A patch leaves the post underway, and a job that comes back is stored as the patch made it. -/
theorem Underway.patch (h : Underway coming w es) {id : String} {p : JobPatch}
    {x : Except RegistryError Job} (ran : ((desk worded c).patch id p).run w = (x, w')) :
    ∃ fs, Underway coming w' fs ∧ ∀ job, x = .ok job →
      (Registry.stored fs).retrieve job.id = some job ∧ job.version ≤ Text.maxWord ∧
        ∀ st, p.status = some st → job.value.status = st := by
  cases asks : (c.patchJob id p).request with
  | none =>
    have unsent : ((desk worded c).patch id p).run w =
        (.error (.ofClient (.unanswered "builder error")), w) := by
      simp only [desk, Client.seenByRunner, Call.perform, asks]
      rfl
    obtain ⟨rfl, rfl⟩ := Prod.mk.inj (unsent.symm.trans ran)
    exact ⟨es, h, fun _ same => nomatch same⟩
  | some sent =>
    obtain ⟨u, r⟩ := sent
    obtain ⟨method, body⟩ := Client.patchJob_asks asks
    obtain ⟨a, registry, t, served, jobs, what⟩ :=
      Registry.serve_patch (w.coming 0).now h.next.jobs method
    obtain ⟨rfl, rfl⟩ := Prod.mk.inj ((patch_run asks served).symm.trans ran)
    obtain ⟨fs, rfl⟩ := what.stored
    refine ⟨fs, h.next.withRegistry jobs, ?_⟩
    intro job same
    have read := Except.eq_ok_of_mapError same
    obtain ⟨id', q, old, value, asked, found, accepted, rfl, store, fits⟩ :=
      patched_of_value what read
    refine ⟨?_, fits, ?_⟩
    · rw [store, Store.retrieve_put, found]
      simp
    · intro st wanted
      have written : Wire.read (Wire.write p) = .ok q := by
        rw [← body]
        exact Request.read_of_json asked
      rw [(Jobs.checkPatch_status accepted).1, JobPatch.eq_of_read written, wanted]
      rfl

/-- A listing leaves the post underway. -/
theorem Underway.candidates (h : Underway coming w es) {params : JobParams} {window : Nat}
    {x : Except RegistryError (List Job)}
    (ran : ((desk worded c).candidates params window).run w = (x, w')) :
    ∃ fs, Underway coming w' fs := by
  simp only [desk, Client.candidates] at ran
  split_ifs at ran with nobody
  · cases ran
    exact ⟨es, h⟩
  · cases asks : (c.listJobs params ⟨0, window - 1⟩).request with
    | none =>
      simp only [Client.seenByRunner, Call.perform, asks] at ran
      cases ran
      exact ⟨es, h⟩
    | some sent =>
      obtain ⟨u, r⟩ := sent
      have jobs := Registry.serve_get (w.coming 0).now h.next.jobs (Client.listJobs_asks asks)
      simp only [Client.seenByRunner, Call.perform, asks] at ran
      cases ran
      exact ⟨_, h.next.withRegistry jobs⟩

theorem Underway.reserveFirst (h : Underway coming w es) {cs : List Job} {x : Option Job}
    (ran : ((desk worded c).reserveFirst cs).run w = (x, w')) :
    ∃ fs, Underway coming w' fs ∧ ∀ job, x = some job → Held fs job := by
  induction cs generalizing w es with
  | nil =>
    cases ran
    exact ⟨es, h, fun _ same => nomatch same⟩
  | cons d ds ih =>
    obtain ⟨a, v, patched, rest⟩ := exists_of_bind ran
    obtain ⟨fs, underway, stored⟩ := h.patch patched
    cases a with
    | error e => exact ih underway rest
    | ok job =>
      cases rest
      refine ⟨fs, underway, ?_⟩
      rintro job' same
      obtain rfl := Option.some.inj same
      obtain ⟨found, fits, status⟩ := stored job rfl
      exact ⟨found, fits, by rw [status .running rfl]; rfl⟩

/-- A job that was reserved is stored as it came back, and runs. -/
theorem Underway.nextJob (h : Underway coming w es) {rules : DeskRules}
    {x : Except RegistryError (Option Job)}
    (ran : ((desk worded c).nextJob rules).run w = (x, w')) :
    ∃ fs, Underway coming w' fs ∧ ∀ job, x = .ok (some job) → Held fs job := by
  obtain ⟨a, v, listed, rest⟩ := exists_of_bind ran
  obtain ⟨fs, underway⟩ := h.candidates listed
  cases a with
  | error e =>
    cases rest
    exact ⟨fs, underway, fun _ same => nomatch same⟩
  | ok cs =>
    obtain ⟨b, u, reserved, last⟩ := exists_of_bind rest
    obtain ⟨gs, underway, held⟩ := underway.reserveFirst reserved
    cases last
    refine ⟨gs, underway, ?_⟩
    intro job same
    exact held job (Except.ok.inj same)

end Post

end JobDispatch

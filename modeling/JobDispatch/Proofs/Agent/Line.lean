import JobDispatch.Agent.Station
import JobDispatch.Proofs.Registry.Log

/-!
A runner on a line that loses requests and replies. When a request is lost, the registry does
nothing; when a reply is lost, the registry has acted on the request. The runner hears the same in
both cases: that nobody answered.
-/

namespace JobDispatch

/-- What becomes of a request and of the reply to it. -/
inductive Passage where
  | lost (why : String)
  /-- the registry acts on the request, and its reply is lost -/
  | unheard (why : String)
  | heard

/-- A request on its way: what others ask of the registry before it arrives, and when it does. -/
structure Transit where
  before : List JobCall
  now : Time.Instant
  passage : Passage

/-- The state of a pool: whether a worker is idle, and the answer to a job that is given to it. -/
structure Opening where
  idle : Bool
  answer : Except PoolError Unit

/-- A patch of the runner that arrived at the registry, with the reply to it. -/
structure Arrival where
  id : String
  patch : JobPatch
  reply : Except JobError Job
  heard : Bool
  deriving DecidableEq

/-- A runner between its registry and its pool. -/
structure Line where
  store : Store JobValue
  /-- what the next requests will meet -/
  coming : Nat → Transit
  /-- what the next jobs will meet at the pool -/
  openings : Nat → Opening
  arrivals : List Arrival
  /-- the jobs that were given to the pool, with its answers -/
  given : List (Job × Except PoolError Unit)
  raised : List FatalError

abbrev LineM := StateM Line

namespace Line

def start (s : Store JobValue) (coming : Nat → Transit) (openings : Nat → Opening) : Line :=
  ⟨s, coming, openings, [], [], []⟩

/-- The line when the others got what they ask for before the next request arrives. -/
def next (l : Line) : Line :=
  { l with
    store := (JobCall.sequence l.store (l.coming 0).before).2
    coming := fun n => l.coming (n + 1) }

/-- The line after the next request, a patch that arrives and leaves a store. -/
def arrive (l : Line) (a : Arrival) (t : Store JobValue) : Line :=
  { l.next with store := t, arrivals := l.arrivals ++ [a] }

/-- The line after a job was given to the pool. -/
def hand (l : Line) (job : Job) (answer : Except PoolError Unit) : Line :=
  { l with openings := fun n => l.openings (n + 1), given := l.given ++ [(job, answer)] }

def raise (l : Line) (e : FatalError) : Line := { l with raised := l.raised ++ [e] }

section

variable (l : Line) (a : Arrival) (t : Store JobValue) (e : FatalError)

@[simp]
theorem next_arrivals : l.next.arrivals = l.arrivals := rfl

@[simp]
theorem arrive_store : (l.arrive a t).store = t := rfl

@[simp]
theorem arrive_arrivals : (l.arrive a t).arrivals = l.arrivals ++ [a] := rfl

@[simp]
theorem raise_store : (l.raise e).store = l.store := rfl

@[simp]
theorem raise_arrivals : (l.raise e).arrivals = l.arrivals := rfl

end

/-- Asks for the first jobs that fit, up to one more than a number. -/
def list (params : JobParams) (stop : Nat) : LineM (Except RegistryError (List Job)) := fun l =>
  match (l.coming 0).passage with
  | .lost why | .unheard why => (.error (.unreachable why), l.next)
  | .heard =>
    let r := ((Jobs.search params.query 0 stop).perform (Jobs.inMemory l.next.store)).1
    ((r.mapError .ofJob).map Page.items, l.next)

def patch (id : String) (p : JobPatch) : LineM (Except RegistryError Job) := fun l =>
  let (r, repository) := (Jobs.patch (l.coming 0).now id p).perform (Jobs.inMemory l.next.store)
  match (l.coming 0).passage with
  | .lost why => (.error (.unreachable why), l.next)
  | .unheard why => (.error (.unreachable why), l.arrive ⟨id, p, r, false⟩ repository.store)
  | .heard => (r.mapError .ofJob, l.arrive ⟨id, p, r, true⟩ repository.store)

/-- Gives a job to the pool. -/
def give (job : Job) : LineM (Except PoolError Unit) := fun l =>
  ((l.openings 0).answer, l.hand job (l.openings 0).answer)

def desk : Desk LineM where
  candidates params window :=
    match window with
    | 0 => return .ok []
    | stop + 1 => list params stop
  patch := patch
  sleep _ := return
  correlation := return ""
  raise e := modify fun l => l.raise e

def dispatch (rules : DeskRules) (size : Nat) : Dispatch LineM where
  size
  hasIdleWorker := return ((← get).openings 0).idle
  next := desk.nextJob rules
  give := give
  report := desk.report rules

variable {l m : Line}

/-- A listing changes nothing but what others ask for meanwhile. -/
theorem candidates_cases {params : JobParams} {window : Nat} {r : Except RegistryError (List Job)}
    (h : (desk.candidates params window).run l = (r, m)) : m = l ∨ m = l.next := by
  cases window with
  | zero =>
    cases h
    exact .inl rfl
  | succ stop =>
    simp only [desk, list, StateT.run] at h
    cases hp : (l.coming 0).passage with
    | _ =>
      rw [hp] at h
      cases h
      exact .inr rfl

/-- What a patch can leave behind that the runner hears nothing of. -/
inductive Silent (l : Line) (id : String) (p : JobPatch) : Line → Prop
  | lost : Silent l id p l.next
  | unheard (r : Except JobError Job) (t : Store JobValue)
      (effect : (JobCall.patch (l.coming 0).now id p).Effect l.next.store (.patched r) t) :
      Silent l id p (l.arrive ⟨id, p, r, false⟩ t)

/-- The runner hears that nobody answered its patch, or the reply of the registry. -/
theorem patch_cases {id : String} {p : JobPatch} {a : Except RegistryError Job}
    (h : (desk.patch id p).run l = (a, m)) :
    (∃ why, a = .error (.unreachable why) ∧ l.Silent id p m) ∨
      ∃ r t, (JobCall.patch (l.coming 0).now id p).Effect l.next.store (.patched r) t ∧
        a = r.mapError .ofJob ∧ m = l.arrive ⟨id, p, r, true⟩ t := by
  have effect := JobCall.whole_effect l.next.store (.patch (l.coming 0).now id p)
  simp only [JobCall.whole, JobCall.answer] at effect
  simp only [desk, patch, StateT.run] at h
  cases hp : (l.coming 0).passage with
  | lost why =>
    rw [hp] at h
    cases h
    exact .inl ⟨why, rfl, .lost⟩
  | unheard why =>
    rw [hp] at h
    cases h
    exact .inl ⟨why, rfl, .unheard _ _ effect⟩
  | heard =>
    rw [hp] at h
    cases h
    exact .inr ⟨_, _, effect, rfl, rfl⟩

/-- How a report ends: the last attempt is not answered either, or its answer decides. A fatal end
is raised. -/
inductive Reported (P : Line → Prop) (job : Job) : Except FatalError Job → Line → Prop
  | gaveUp (m : Line) (kept : P m) (f : FatalError) (text : String)
      (reason : f.reason = "gave up after " ++ text) : Reported P job (.error f) (m.raise f)
  | stored (m : Line) (kept : P m) (new : Job) (t : Store JobValue)
      (effect : (JobCall.patch (m.coming 0).now job.id (.report job.version job.value)).Effect
        m.next.store (.patched (.ok new)) t) :
      Reported P job (.ok new) (m.arrive ⟨job.id, .report job.version job.value, .ok new, true⟩ t)
  | refused (m : Line) (kept : P m) (e : JobError) (f : FatalError)
      (reason : f.reason = (RegistryError.ofJob e).message) :
      Reported P job (.error f)
        ((m.arrive ⟨job.id, .report job.version job.value, .error e, true⟩ m.next.store).raise f)

/-- The reply of the registry ends a report. -/
theorem reported_of_reply {P : Line → Prop} {rules : DeskRules} {job : Job} (hl : P l)
    {r : Except JobError Job} {t : Store JobValue}
    (effect : (JobCall.patch (l.coming 0).now job.id (.report job.version job.value)).Effect
      l.next.store (.patched r) t)
    (hp : (desk.patch job.id (.report job.version job.value)).run l =
      (r.mapError .ofJob, l.arrive ⟨job.id, .report job.version job.value, r, true⟩ t))
    {left attempt : Nat} {q : Except FatalError Job}
    (h : (desk.reportFrom rules job left attempt).run l = (q, m)) : Reported P job q m := by
  rw [Desk.reportFrom.eq_def] at h
  obtain ⟨a, n, hp', h⟩ := exists_of_bind h
  obtain ⟨rfl, rfl⟩ := Prod.mk.inj (hp.symm.trans hp')
  cases r with
  | ok new =>
    cases h
    exact .stored l hl new t effect
  | error e =>
    obtain rfl := effect.eq_of_refused
    cases e <;> (cases h; exact .refused l hl _ _ rfl)

/-- A report keeps what every attempt keeps that the runner hears nothing of, up to its end. -/
theorem reportFrom_cases {P : Line → Prop} {rules : DeskRules} {job : Job}
    (silent : ∀ l m, P l → l.Silent job.id (.report job.version job.value) m → P m) (hl : P l)
    {left attempt : Nat} {q : Except FatalError Job}
    (h : (desk.reportFrom rules job left attempt).run l = (q, m)) : Reported P job q m := by
  have whole := h
  induction left generalizing attempt l with
  | zero =>
    rw [Desk.reportFrom] at h
    obtain ⟨a, n, hp, h⟩ := exists_of_bind h
    rcases patch_cases hp with ⟨why, rfl, hn⟩ | ⟨r, t, effect, rfl, rfl⟩
    · cases h
      exact .gaveUp n (silent l n hl hn) _ _ (by rw [String.append_assoc, String.append_assoc])
    · exact reported_of_reply hl effect hp whole
  | succ left ih =>
    rw [Desk.reportFrom] at h
    obtain ⟨a, n, hp, h⟩ := exists_of_bind h
    rcases patch_cases hp with ⟨why, rfl, hn⟩ | ⟨r, t, effect, rfl, rfl⟩
    · exact ih (silent l n hl hn) h h
    · exact reported_of_reply hl effect hp whole

end Line

end JobDispatch

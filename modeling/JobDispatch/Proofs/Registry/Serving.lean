import JobDispatch.Proofs.Registry.Router

/-!
What serving a request does to the stores of a registry, whatever is asked for and whichever calls
of the repositories fail: one more entity is stored, or one is changed where it is, or all is as it
was; and the answer tells by its status whether something was done.
-/

namespace JobDispatch

open Http (Method Request Response)

namespace Store

variable {α : Type}

/-- There is one more entity, at version 1, behind those that were there. -/
def Appended (s t : Store α) : Prop :=
  ∃ e : Entity α, e.version = 1 ∧ t.entities = s.entities ++ [e]

/-- One entity was given a value at its next version, where it stands between the others. -/
def Amended (s t : Store α) : Prop :=
  ∃ front e back value, s.entities = front ++ e :: back ∧
    t.entities = front ++ ⟨e.id, e.version + 1, value⟩ :: back

theorem appended_create (s : Store α) (value : α) : s.Appended (s.create value).2 :=
  ⟨(s.create value).1, rfl, rfl⟩

theorem replace_append {front back : List (Entity α)} {d e : Entity α}
    (others : ∀ c ∈ front, c.id ≠ e.id) (same : d.id = e.id) :
    replace e (front ++ d :: back) = front ++ e :: back := by
  induction front with
  | nil => simp [replace, same]
  | cons c cs ih =>
    have tail := ih fun b hb => others b (List.mem_cons_of_mem c hb)
    simp [replace, others c List.mem_cons_self, tail]

/-- An update that succeeds changes the entity in its place. -/
theorem amended_update {s t : Store α} {e new : Entity α} {value : α}
    (updated : s.update e value = .ok (new, t)) : s.Amended t := by
  cases found : s.retrieve e.id with
  | none => simp [update, found] at updated
  | some d =>
    obtain ⟨same, front, back, whole, others⟩ := List.find?_eq_some_iff_append.mp found
    have id : d.id = e.id := by simpa using same
    have before : ∀ c ∈ front, c.id ≠ e.id := by simpa using others
    rw [update_eq s e d value found] at updated
    split_ifs at updated
    obtain ⟨-, rfl⟩ := Prod.mk.inj (Except.ok.inj updated)
    refine ⟨front, d, back, value, whole, ?_⟩
    rw [id]
    exact (congrArg (replace _) whole).trans (replace_append before id)

end Store

namespace Action

variable {σ τ ν ε ε' β γ : Type}

/-- An action that does to what is seen of a state what `R` says if it succeeds, and nothing if it
fails. -/
def Transacts (view : σ → ν) (R : ν → ν → Prop) (a : Action σ ε β) : Prop :=
  ∀ s, match a.perform s with
    | (.ok _, t) => R (view s) (view t)
    | (.error _, t) => view t = view s

variable {view : σ → ν} {R : ν → ν → Prop}

theorem transacts_pure (b : β) : (pure b : Action σ ε β).Transacts view Eq := fun _ => rfl

theorem transacts_throw (e : ε) : (throw e : Action σ ε β).Transacts view R := fun _ => rfl

/-- What comes first only looks at the state, so that all is done, or left, by what follows. -/
theorem Transacts.bind {a : Action σ ε β} {k : β → Action σ ε γ} (looks : a.Transacts view Eq)
    (rest : ∀ b, (k b).Transacts view R) : (a >>= k).Transacts view R := by
  intro s
  have first := looks s
  rw [perform_bind]
  cases ha : a.perform s with
  | mk x t =>
    rw [ha] at first
    cases x with
    | error e => exact first
    | ok b =>
      have same : view s = view t := first
      have second := rest b t
      rw [← same] at second
      exact second

theorem Transacts.mono {R' : ν → ν → Prop} {a : Action σ ε β} (h : a.Transacts view R)
    (weaker : ∀ s t, R s t → R' s t) : a.Transacts view R' := by
  intro s
  have done := h s
  cases ha : a.perform s with
  | mk x t =>
    rw [ha] at done
    cases x with
    | ok b => exact weaker _ _ done
    | error e => exact done

theorem Transacts.rephrase {a : Action σ ε β} (h : a.Transacts view R) (f : ε → ε') :
    (a.rephrase f).Transacts view R := by
  intro s
  have done := h s
  rw [perform_rephrase]
  cases ha : a.perform s with
  | mk x t =>
    rw [ha] at done
    cases x <;> exact done

end Action

namespace Repository

open JobDispatch.Action (Transacts)

variable {α β : Type} {R : Store α → Store α → Prop}

/-- A call of a repository does to the store what its operation does, or fails without doing
anything, as planned or of itself. -/
theorem transacts_call {op : Operation} {about : String}
    {act : Store α → Except StoreError (β × Store α)}
    (acts : ∀ s b t, act s = .ok (b, t) → R s t) :
    (call op about act).Transacts Repository.store R := by
  intro r
  obtain ⟨s, plan⟩ := r
  simp only [Action.perform, call, ExceptT.run, ExceptT.mk, StateT.run]
  cases (foresee op plan).1 with
  | some f => rfl
  | none =>
    cases done : act s with
    | error e => rfl
    | ok x => exact acts s x.1 x.2 done

theorem transacts_look {op : Operation} {about : String} {f : Store α → β} :
    (call op about fun s => .ok (f s, s)).Transacts Repository.store Eq := by
  refine transacts_call ?_
  intro s b t same
  exact (Prod.mk.inj (Except.ok.inj same)).2

theorem transacts_create (value : α) :
    (create value).Transacts Repository.store Store.Appended := by
  refine transacts_call ?_
  intro s b t same
  obtain rfl := (Prod.mk.inj (Except.ok.inj same)).2
  exact s.appended_create value

theorem transacts_update (e : Entity α) (value : α) :
    (update e value).Transacts Repository.store Store.Amended :=
  transacts_call fun _ _ _ => Store.amended_update

end Repository

open JobDispatch.Action (Transacts transacts_pure transacts_throw)
open Repository (transacts_look transacts_create transacts_update)

namespace Jobs

theorem transacts_launch (now : Time.Instant) (req : CreateJob) :
    (launch now req).Transacts Repository.store Store.Appended := by
  simp only [launch]
  split
  · exact transacts_throw _
  · exact (transacts_create _).rephrase _

theorem transacts_get (id : String) : (get id).Transacts Repository.store Eq := by
  refine Transacts.bind (transacts_look.rephrase _) ?_
  intro found
  cases found with
  | none => exact transacts_throw _
  | some job => exact transacts_pure job

theorem transacts_patch (now : Time.Instant) (id : String) (p : JobPatch) :
    (patch now id p).Transacts Repository.store Store.Amended := by
  refine (transacts_get id).bind ?_
  intro job
  cases checkPatch now job p with
  | error e => exact transacts_throw e
  | ok value => exact (transacts_update job value).rephrase _

end Jobs

namespace Runners

theorem transacts_register (now : Time.Instant) (req : RegisterRunner) :
    (register now req).Transacts Repository.store Store.Appended := by
  simp only [register]
  split
  · exact transacts_throw _
  · exact (transacts_create _).rephrase _

theorem transacts_get (id : String) : (get id).Transacts Repository.store Eq := by
  refine Transacts.bind (transacts_look.rephrase _) ?_
  intro found
  cases found with
  | none => exact transacts_throw _
  | some runner => exact transacts_pure runner

theorem transacts_patchStatus (now : Time.Instant) (id : String) (p : RunnerStatusPatch) :
    (patchStatus now id p).Transacts Repository.store Store.Amended := by
  refine (transacts_get id).bind ?_
  intro runner
  cases checkStatus now runner p with
  | error e => exact transacts_throw e
  | ok value => exact (transacts_update runner value).rephrase _

end Runners

namespace Registry

/-- The stores of the jobs and of the runners. -/
abbrev Stores : Type := Store JobValue × Store RunnerValue

def stores (r : Registry) : Stores := (r.jobs.store, r.runners.store)

/-- One of the stores became what `R` says, and the other one is as it was. -/
def OneOf (R : {α : Type} → Store α → Store α → Prop) (s t : Stores) : Prop :=
  (R s.1 t.1 ∧ t.2 = s.2) ∨ (R s.2 t.2 ∧ t.1 = s.1)

/-- What a request does to the stores, by its method and by whether the answer is a success. -/
def Effect (m : Method) (success : Bool) (s t : Stores) : Prop :=
  match m, success with
  | .post, true => OneOf Store.Appended s t
  | .patch, true => OneOf Store.Amended s t
  | _, _ => t = s

/-- A program whose answer, whatever it is, tells what it does to the stores. -/
def Answers (m : Method) (p : StateM Registry Response) : Prop :=
  ∀ reg, Effect m (isSuccess (p.run reg).1.status) reg.stores (p.run reg).2.stores

section

variable {ε β : Type} {R' : Stores → Stores → Prop}

theorem transacts_onJobs {R : Store JobValue → Store JobValue → Prop}
    {a : Action (Repository JobValue) ε β} (h : a.Transacts Repository.store R)
    (whole : ∀ s t u, R s t → R' (s, u) (t, u)) : (onJobs a).Transacts stores R' := by
  intro reg
  have done := h reg.jobs
  cases ha : a.perform reg.jobs with
  | mk x jobs =>
    rw [ha] at done
    rw [perform_onJobs ha]
    cases x with
    | ok b => exact whole _ _ _ done
    | error e => exact Prod.ext done rfl

theorem transacts_onRunners {R : Store RunnerValue → Store RunnerValue → Prop}
    {a : Action (Repository RunnerValue) ε β} (h : a.Transacts Repository.store R)
    (whole : ∀ s t u, R s t → R' (u, s) (u, t)) : (onRunners a).Transacts stores R' := by
  intro reg
  have done := h reg.runners
  cases ha : a.perform reg.runners with
  | mk x runners =>
    rw [ha] at done
    rw [perform_onRunners ha]
    cases x with
    | ok b => exact whole _ _ _ done
    | error e => exact Prod.ext rfl done

end

variable {m : Method} {now : Time.Instant} {r : Request}

theorem effect_failure (m : Method) (s : Stores) : Effect m false s s := by
  cases m <;> rfl

/-- An answer that is no success comes without any change. -/
theorem answers_failure {a : Response} (failure : isSuccess a.status = false) :
    Answers m (return a) := by
  intro reg
  change Effect m (isSuccess a.status) _ _
  rw [failure]
  exact effect_failure m _

section

variable {ε β : Type} {ok : β → Response} {error : ε → Response}

/-- An answer with the result of an action tells whether the action did something. -/
theorem answers_reply {a : Action Registry ε β} (acts : a.Transacts stores (Effect m true))
    (success : ∀ b, isSuccess (ok b).status = true)
    (failure : ∀ e, isSuccess (error e).status = false) : Answers m (reply ok error a) := by
  intro reg
  have done := acts reg
  cases ha : a.perform reg with
  | mk x after =>
    rw [ha] at done
    cases x with
    | ok b =>
      rw [reply_ok ha, success]
      exact done
    | error e =>
      rw [reply_error ha, failure]
      have same : after.stores = reg.stores := done
      rw [same]
      exact effect_failure m _

end

section

variable {β : Type} {ok : β → Response}

theorem answers_replyJobs {R : Store JobValue → Store JobValue → Prop} {a : JobAction β}
    (acts : a.Transacts Repository.store R)
    (whole : ∀ s t u, R s t → Effect m true (s, u) (t, u))
    (success : ∀ b, isSuccess (ok b).status = true) : Answers m (replyJobs ok a) :=
  answers_reply (transacts_onJobs acts whole) success JobError.not_success

theorem answers_replyRunners {R : Store RunnerValue → Store RunnerValue → Prop}
    {a : RunnerAction β} (acts : a.Transacts Repository.store R)
    (whole : ∀ s t u, R s t → Effect m true (u, s) (u, t))
    (success : ∀ b, isSuccess (ok b).status = true) : Answers m (replyRunners ok a) :=
  answers_reply (transacts_onRunners acts whole) success RunnerError.not_success

end

/-- A body that is turned down is no success. -/
theorem not_success_of_json {α : Type} [Wire α] {a : Response}
    (h : r.json (α := α) = .error a) : isSuccess a.status = false := by
  unfold Http.Request.json at h
  split_ifs at h
  · cases h
    rfl
  · cases h
    rfl
  · split at h
    · cases h
    · cases h
      rfl
    · cases h
      rfl

theorem answers_withBody {α : Type} [Wire α] {k : α → StateM Registry Response}
    (h : ∀ a, Answers m (k a)) : Answers m (withBody r k) := by
  unfold withBody
  cases asked : r.json (α := α) with
  | ok a => exact h a
  | error e => exact answers_failure (not_success_of_json asked)

theorem answers_withIdentity {segment : List Char} {k : String → StateM Registry Response}
    (h : ∀ id, Answers m (k id)) : Answers m (withIdentity segment k) := by
  unfold withIdentity
  cases identity? segment with
  | none => exact answers_failure rfl
  | some id => exact h id

theorem answers_listJobs (f : Http.Form) : Answers .get (listJobs f) := by
  unfold listJobs
  split
  · exact answers_replyJobs (transacts_look.rephrase _) (fun _ _ _ same => same ▸ rfl) fun _ => rfl
  · exact answers_failure rfl

theorem answers_listRunners (f : Http.Form) : Answers .get (listRunners f) := by
  unfold listRunners
  split
  · exact answers_replyRunners (transacts_look.rephrase _) (fun _ _ _ same => same ▸ rfl)
      fun _ => rfl
  · exact answers_failure rfl

theorem answers_health : Answers .get health := by
  have jobs : (onJobs (Repository.all 0 0)).Transacts stores Eq :=
    transacts_onJobs transacts_look fun _ _ _ same => congrArg (·, _) same
  have runners : (onRunners (Repository.all 0 0)).Transacts stores Eq :=
    transacts_onRunners transacts_look fun _ _ _ same => congrArg (_, ·) same
  have looks := jobs.bind fun j => runners.bind fun r =>
    transacts_pure (j.total, r.total)
  exact answers_reply (looks.mono fun _ _ same => same.symm) (fun _ => rfl) fun _ => rfl

/-- Whatever is asked of a resource, the answer tells what was done. -/
theorem answers_answer (now : Time.Instant) (r : Request) (resource : Resource) :
    Answers r.method (answer now r resource) := by
  cases resource with
  | health =>
    simp only [answer]
    split
    · next get =>
      rw [get]
      exact answers_health
    · exact answers_failure rfl
  | jobs =>
    simp only [answer]
    split
    · next get =>
      rw [get]
      exact answers_listJobs _
    · next post =>
      rw [post]
      refine answers_withBody fun req => ?_
      exact answers_replyJobs (Jobs.transacts_launch now req)
        (fun _ _ _ appended => .inl ⟨appended, rfl⟩) fun _ => rfl
    · exact answers_failure rfl
  | job segment =>
    simp only [answer]
    split
    · next get =>
      rw [get]
      refine answers_withIdentity fun id => ?_
      exact answers_replyJobs (Jobs.transacts_get id) (fun _ _ _ same => same ▸ rfl) fun _ => rfl
    · next patch =>
      rw [patch]
      refine answers_withIdentity fun id => answers_withBody fun p => ?_
      exact answers_replyJobs (Jobs.transacts_patch now id p)
        (fun _ _ _ amended => .inl ⟨amended, rfl⟩) fun _ => rfl
    · exact answers_failure rfl
  | runners =>
    simp only [answer]
    split
    · next get =>
      rw [get]
      exact answers_listRunners _
    · next post =>
      rw [post]
      refine answers_withBody fun req => ?_
      exact answers_replyRunners (Runners.transacts_register now req)
        (fun _ _ _ appended => .inr ⟨appended, rfl⟩) fun _ => rfl
    · exact answers_failure rfl
  | runner segment =>
    simp only [answer]
    split
    · next get =>
      rw [get]
      refine answers_withIdentity fun id => ?_
      exact answers_replyRunners (Runners.transacts_get id) (fun _ _ _ same => same ▸ rfl)
        fun _ => rfl
    · next patch =>
      rw [patch]
      refine answers_withIdentity fun id => answers_withBody fun p => ?_
      exact answers_replyRunners (Runners.transacts_patchStatus now id p)
        (fun _ _ _ amended => .inr ⟨amended, rfl⟩) fun _ => rfl
    · exact answers_failure rfl

/-- A request that is answered with no success, or that only looks, leaves both stores as they are;
a success appends one entity to one of them, or changes one, and nothing else. -/
theorem serve_effect (now : Time.Instant) (r : Request) (reg : Registry) :
    Effect r.method (isSuccess ((serve now r).run reg).1.status) reg.stores
      ((serve now r).run reg).2.stores := by
  unfold serve
  cases Resource.ofPath? r.path with
  | none => exact answers_failure rfl reg
  | some resource =>
    simp only
    split_ifs with head
    · -- the answer is that to the same request with GET, up to its body
      rw [head]
      exact answers_answer now { r with method := .get } resource reg
    · exact answers_answer now r resource reg

end Registry

end JobDispatch

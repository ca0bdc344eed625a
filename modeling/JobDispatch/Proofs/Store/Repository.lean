import JobDispatch.Store.Repository

/-!
What programs with a state and actions do, put together from what their parts do, and what the
calls of a repository do, as planned or when nothing is planned for them.
-/

namespace JobDispatch

section StateM

variable {σ α β : Type} {x : StateM σ α} {k : α → StateM σ β} {s t : σ}

theorem exists_of_bind {b : β} (h : (x >>= k).run s = (b, t)) :
    ∃ a u, x.run s = (a, u) ∧ (k a).run u = (b, t) :=
  ⟨_, _, rfl, h⟩

theorem run_bind_of_run {a : α} (h : x.run s = (a, t)) : (x >>= k).run s = (k a).run t := by
  change (k (x.run s).1).run (x.run s).2 = _
  rw [h]

end StateM

namespace Action

variable {σ τ ε ε' β γ : Type}

@[simp]
theorem perform_pure (b : β) (s : σ) : (pure b : Action σ ε β).perform s = (.ok b, s) := rfl

@[simp]
theorem perform_throw (e : ε) (s : σ) : (throw e : Action σ ε β).perform s = (.error e, s) := rfl

@[simp]
theorem perform_bind (a : Action σ ε β) (k : β → Action σ ε γ) (s : σ) :
    (a >>= k).perform s =
      match a.perform s with
      | (.ok b, t) => (k b).perform t
      | (.error e, t) => (.error e, t) := by
  simp only [perform, bind, ExceptT.bind, ExceptT.mk, ExceptT.run, StateT.bind, StateT.run]
  cases a s with
  | mk r t => cases r <;> rfl

@[simp]
theorem perform_rephrase (f : ε → ε') (a : Action σ ε β) (s : σ) :
    (a.rephrase f).perform s = ((a.perform s).1.mapError f, (a.perform s).2) := rfl

theorem perform_onPart {get : τ → σ} {set : σ → τ → τ} {a : Action σ ε β} {t : τ}
    {x : Except ε β} {s : σ} (h : a.perform (get t) = (x, s)) :
    (a.onPart get set).perform t = (x, set s t) := by
  change ((a.perform (get t)).1, set (a.perform (get t)).2 t) = _
  rw [h]

end Action

/-- Deleting what a filter accepts counts it and leaves the rest. -/
theorem Store.deleteFrom_eq {α : Type} [Documented α] (s : Store α) (f : Filter) :
    s.deleteFrom f = (s.entities.countP fun e => f.accepts (Documented.document e.value), { s with
      entities := s.entities.filter fun e => !f.accepts (Documented.document e.value) }) := by
  have total := List.length_eq_countP_add_countP
    (fun e : Entity α => f.accepts (Documented.document e.value)) (l := s.entities)
  have gone : s.entities.length -
      (s.entities.filter fun e => !f.accepts (Documented.document e.value)).length =
      s.entities.countP fun e => f.accepts (Documented.document e.value) := by
    rw [← List.countP_eq_length_filter]
    simp only [Bool.not_eq_true, Bool.decide_eq_false] at total ⊢
    omega
  simp only [Store.deleteFrom, gone]

namespace Repository

variable {α β : Type}

/-- A call that nothing is planned for does what it does to the store. -/
@[simp]
theorem perform_call (op : Operation) (about : String)
    (act : Store α → Except StoreError (β × Store α)) (s : Store α) :
    (call op about act).perform ⟨s, []⟩ =
      match act s with
      | .ok (b, t) => (.ok b, ⟨t, []⟩)
      | .error e => (.error e, ⟨s, []⟩) := by
  simp only [Action.perform, call, foresee, ExceptT.run, ExceptT.mk, StateT.run]
  cases act s <;> rfl

/-- A call that is planned for fails as planned, or does what it does. -/
theorem perform_planned (op : Operation) (about : String)
    (act : Store α → Except StoreError (β × Store α)) (s : Store α) (failure : Option Failure)
    (plan : List Planned) :
    (call op about act).perform ⟨s, ⟨op, failure⟩ :: plan⟩ =
      match failure with
      | some f => (.error (f.error about), ⟨s, plan⟩)
      | none =>
        match act s with
        | .ok (b, t) => (.ok b, ⟨t, plan⟩)
        | .error e => (.error e, ⟨s, plan⟩) := by
  simp only [Action.perform, call, foresee, ExceptT.run, ExceptT.mk, StateT.run, if_pos]
  cases failure with
  | some f => rfl
  | none => cases act s <;> rfl

theorem deleteFrom_planned [Documented α] (f : Filter) (s : Store α) (failure : Option Failure)
    (plan : List Planned) :
    (deleteFrom f).perform ⟨s, ⟨.deleteFrom, failure⟩ :: plan⟩ =
      match failure with
      | some e => (.error (e.error "filter"), ⟨s, plan⟩)
      | none => (.ok (s.deleteFrom f).1, ⟨(s.deleteFrom f).2, plan⟩) := by
  rw [deleteFrom, perform_planned]

theorem deleteFrom_accepted [Documented α] (s : Store α) (f : Filter) :
    (deleteFrom f).perform ⟨s, []⟩ =
      (.ok (s.entities.countP fun e => f.accepts (Documented.document e.value)),
        ⟨{ s with entities :=
            s.entities.filter fun e => !f.accepts (Documented.document e.value) }, []⟩) := by
  simp only [deleteFrom, perform_call, Store.deleteFrom_eq]

end Repository

end JobDispatch

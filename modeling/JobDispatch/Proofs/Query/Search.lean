import JobDispatch.Proofs.Query.Criteria
import JobDispatch.Proofs.Store.Refinement
import JobDispatch.Registry.Jobs
import JobDispatch.Registry.Runners

/-!
What a search finds. A filter stands for a condition, and a search for it shows of what is stored,
in the order of its creation, all that the condition holds of and nothing else.
-/

namespace JobDispatch

/-- Each criterion of a query holds. -/
def JobQuery.Holds (q : JobQuery) (v : JobValue) : Prop := ∀ c ∈ q.criteria, c.Holds v

instance (q : JobQuery) (v : JobValue) : Decidable (q.Holds v) :=
  inferInstanceAs (Decidable (∀ c ∈ q.criteria, c.Holds v))

/-- Each criterion of a query holds. -/
def RunnerQuery.Holds (q : RunnerQuery) (v : RunnerValue) : Prop := ∀ c ∈ q.criteria, c.Holds v

instance (q : RunnerQuery) (v : RunnerValue) : Decidable (q.Holds v) :=
  inferInstanceAs (Decidable (∀ c ∈ q.criteria, c.Holds v))

/-- What a filter accepts of a store is what the condition that it stands for holds of. -/
theorem Store.matching_eq {α : Type} [Documented α] {f : Filter} {P : α → Prop} [DecidablePred P]
    (h : ∀ v : α, f.accepts (Documented.document v) = true ↔ P v) (s : Store α) :
    s.matching f = s.entities.filter fun e => P e.value := by
  apply List.filter_congr
  intro e _
  rw [Bool.eq_iff_iff, h e.value, decide_eq_true_iff]

theorem Store.matching_all {α : Type} [Documented α] (s : Store α) :
    s.matching .all = s.entities :=
  List.filter_eq_self.mpr fun _ _ => Filter.accepts_all

namespace Repository

variable {α : Type} [Documented α]

/-- What is stored after some calls is in the order in which it came in, no identity twice. -/
theorem serve_ordered (label : String) (calls : List (StoreCall α)) :
    ((serve label calls).2.store.entities.map Entity.id).Sublist
        ((serve label calls).1.filterMap StoreCall.created?) ∧
      ((serve label calls).1.filterMap StoreCall.created?).Nodup := by
  obtain ⟨s, m, served, represents, runs⟩ := serve_represents label calls
  rw [served, represents.entities, ← runs.created_eq]
  exact ⟨m.ids_sublist, m.nodup⟩

theorem serve_unplanned (label : String) (calls : List (StoreCall α)) :
    (serve label calls).2.plan = [] := by
  obtain ⟨s, -, served, -⟩ := serve_represents label calls
  rw [served]

/-- A search that nothing is planned for finds its window of what the filter accepts. -/
theorem search_unplanned {r : Repository α} (h : r.plan = []) (f : Filter) (start stop : Nat) :
    (search f start stop).perform r = (.ok (r.store.search f start stop), r) := by
  obtain ⟨s, plan⟩ := r
  obtain rfl : plan = [] := h
  rw [search, perform_call]

end Repository

namespace Filter

variable {α : Type} [Documented α]

/-- A filter expresses a condition on values. It accepts the values that satisfy the condition, and
whatever was asked of a repository before, a search for it shows a window of the stored things that
satisfy the condition, in the order in which they were created, and leaves all as it is. -/
structure Expresses (f : Filter) (P : α → Prop) [DecidablePred P] : Prop where
  accepts : ∀ v : α, f.accepts (Documented.document v) = true ↔ P v
  finds : ∀ (label : String) (calls : List (StoreCall α)) (start stop : Nat),
    ∃ page, (Repository.search f start stop).perform (Repository.serve label calls).2 =
        (.ok page, (Repository.serve label calls).2) ∧
      page.Shows ((Repository.serve label calls).2.store.entities.filter fun e => P e.value)
        start stop
  ordered : ∀ (label : String) (calls : List (StoreCall α)),
    ((Repository.serve label calls).2.store.entities.map Entity.id).Sublist
        ((Repository.serve label calls).1.filterMap StoreCall.created?) ∧
      ((Repository.serve label calls).1.filterMap StoreCall.created?).Nodup

theorem Expresses.of_accepts {f : Filter} {P : α → Prop} [DecidablePred P]
    (h : ∀ v : α, f.accepts (Documented.document v) = true ↔ P v) : f.Expresses P where
  accepts := h
  finds label calls start stop := by
    have unplanned := Repository.serve_unplanned label calls
    refine ⟨_, Repository.search_unplanned unplanned f start stop, ?_⟩
    rw [← Store.matching_eq h]
    exact Page.shows_window _ start stop
  ordered := Repository.serve_ordered

/-- The filters of queries express what the queries ask, and those that ask nothing accept
everything. -/
theorem expresses_query :
    (∀ q : JobQuery, q.filter.Expresses q.Holds) ∧
      (∀ q : RunnerQuery, q.filter.Expresses q.Holds) ∧
      ∀ doc : Document, (JobQuery.filter ⟨[]⟩).accepts doc = true ∧
        (JobCriteria.filter ⟨none, none, [], none, none⟩).accepts doc = true ∧
        (RunnerQuery.filter ⟨[]⟩).accepts doc = true ∧
        (RunnerCriteria.filter ⟨none, none, none⟩).accepts doc = true := by
  refine ⟨?_, ?_, ?_⟩
  · intro q
    exact .of_accepts q.accepts_filter_iff
  · intro q
    exact .of_accepts q.accepts_filter_iff
  · intro doc
    exact ⟨accepts_all, accepts_all, accepts_all, accepts_all⟩

end Filter

end JobDispatch

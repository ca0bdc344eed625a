import JobDispatch.Query.JobQuery
import JobDispatch.Query.RunnerQuery
import Mathlib.Tactic.SplitIfs

/-!
Criteria as conditions. The filter that is made of a query accepts the document of a job exactly if
every one of its criteria holds of the job, whatever their parts are, and the document of a runner
in the same way. A runner that says nothing of the categories or the names that it takes is
competent for none.
-/

namespace JobDispatch

namespace Filter

variable {doc : Document}

theorem accepts_all : Filter.all.accepts doc = true := by rw [accepts]

theorem accepts_eq_iff {field value : String} :
    (eq field value).accepts doc = true ↔ doc field = some (.text value) := by
  rw [accepts]
  split
  · next s same => simp [same]
  · next other =>
    refine iff_of_false (by simp) ?_
    intro same
    exact other value same

theorem accepts_oneOf_iff {field : String} {values : List String} :
    (oneOf field values).accepts doc = true ↔ ∃ n ∈ values, doc field = some (.text n) := by
  rw [accepts]
  split
  · next s same => simp [same]
  · next other =>
    refine iff_of_false (by simp) ?_
    rintro ⟨n, -, same⟩
    exact other n same

theorem allAccept_iff {fs : List Filter} :
    allAccept doc fs = true ↔ ∀ f ∈ fs, f.accepts doc = true := by
  induction fs with
  | nil => simp [allAccept]
  | cons f fs ih => rw [allAccept, Bool.and_eq_true, ih, List.forall_mem_cons]

theorem accepts_of_isAll {f : Filter} (h : f.isAll = true) : f.accepts doc = true := by
  cases f with
  | all => exact accepts_all
  | _ => cases h

/-- A conjunction accepts what all its terms accept; the terms that accept everything are left
out. -/
theorem accepts_and_iff {fs : List Filter} :
    (Filter.and fs).accepts doc = true ↔ ∀ f ∈ fs, f.accepts doc = true := by
  have kept : (∀ f ∈ fs.filter fun f => !f.isAll, f.accepts doc = true) ↔
      ∀ f ∈ fs, f.accepts doc = true := by
    constructor
    · intro h f hf
      by_cases open_ : f.isAll = true
      · exact accepts_of_isAll open_
      · exact h f (List.mem_filter.mpr ⟨hf, by simpa using open_⟩)
    · intro h f hf
      exact h f (List.mem_filter.mp hf).1
  rw [← kept, Filter.and]
  split
  · next none => simp [none, accepts_all]
  · next f single => simp [single]
  · rw [accepts, allAccept_iff]

/-- What an optional part of a criterion adds to a conjunction. -/
theorem forall_part_iff {α : Type} (part : Option α) (f : α → Filter) :
    (∀ g ∈ (part.map f).toList, g.accepts doc = true) ↔
      ∀ a ∈ part, (f a).accepts doc = true := by
  cases part <;> simp

end Filter

/-- A name by which a choice is looked up again is no other choice's. -/
theorem injective_of_lookup {α : Type} {names : List (String × α)} {name : α → String}
    (h : ∀ a, names.lookup (name a) = some a) : Function.Injective name := by
  intro a b same
  have found := h a
  rw [same, h b] at found
  exact (Option.some.inj found).symm

namespace Document

variable {doc : Document} {path : String}

theorem eq_text_iff {field : Option String} {value : String} (h : doc path = field.map .text) :
    doc path = some (.text value) ↔ field = some value := by
  rw [h]
  cases field <;> simp

/-- The field of a choice, of which filters see the name, has the name of a choice if and only if it
is that choice. -/
theorem eq_name_iff {α : Type} {name : α → String} {field : Option α} {a : α}
    (h : doc path = field.map fun b => .text (name b)) (injective : Function.Injective name) :
    doc path = some (.text (name a)) ↔ field = some a := by
  have named : doc path = (field.map name).map .text := by
    rw [h, Option.map_map]
    rfl
  rw [eq_text_iff named]
  exact (Option.map_injective injective).eq_iff' rfl

end Document

/-- What a criterion asks of a job; a part that it leaves open asks nothing. -/
structure JobCriteria.Holds (c : JobCriteria) (v : JobValue) : Prop where
  account : ∀ a ∈ c.accountId, v.accountId = some a
  category : ∀ k ∈ c.category, v.category = some k
  names : c.names = [] ∨ ∃ n ∈ c.names, v.name = some n
  run : ∀ s ∈ c.run, v.status.run = some s
  exit : ∀ s ∈ c.exit, v.status.exit = some s

namespace JobCriteria

theorem holds_iff {c : JobCriteria} {v : JobValue} :
    c.Holds v ↔ (∀ a ∈ c.accountId, v.accountId = some a) ∧
      (∀ k ∈ c.category, v.category = some k) ∧
      (c.names = [] ∨ ∃ n ∈ c.names, v.name = some n) ∧
      (∀ s ∈ c.run, v.status.run = some s) ∧ ∀ s ∈ c.exit, v.status.exit = some s :=
  ⟨fun h => ⟨h.account, h.category, h.names, h.run, h.exit⟩,
    fun ⟨account, category, names, run, exit⟩ => ⟨account, category, names, run, exit⟩⟩

instance (c : JobCriteria) (v : JobValue) : Decidable (c.Holds v) :=
  decidable_of_iff' _ holds_iff

/-- No names ask nothing, and of several ones one has to be the job's. -/
theorem forall_names_iff (names : List String) (v : JobValue) :
    (∀ g ∈ (if names.isEmpty then [] else [Filter.oneOf "name" names]),
      g.accepts v.document = true) ↔ names = [] ∨ ∃ n ∈ names, v.name = some n := by
  have name (n : String) : v.document "name" = some (.text n) ↔ v.name = some n :=
    Document.eq_text_iff rfl
  split_ifs with none
  · simp [List.isEmpty_iff.mp none]
  · have named : names ≠ [] := fun h => none (List.isEmpty_iff.mpr h)
    simp [Filter.accepts_oneOf_iff, named, name]

theorem accepts_filter_iff (c : JobCriteria) (v : JobValue) :
    c.filter.accepts v.document = true ↔ c.Holds v := by
  have account (a : String) :
      v.document "accounting.account_id" = some (.text a) ↔ v.accountId = some a :=
    Document.eq_text_iff rfl
  have category (k : String) : v.document "category" = some (.text k) ↔ v.category = some k :=
    Document.eq_text_iff rfl
  have run (s : RunStatus) :
      v.document "status.run" = some (.text s.name) ↔ v.status.run = some s :=
    Document.eq_name_iff rfl (injective_of_lookup RunStatus.lookup_name)
  have exit (s : ExitStatus) :
      v.document "status.exit" = some (.text s.name) ↔ v.status.exit = some s :=
    Document.eq_name_iff rfl (injective_of_lookup ExitStatus.lookup_name)
  rw [filter, Filter.accepts_and_iff, holds_iff]
  simp only [List.forall_mem_append, Filter.forall_part_iff, Filter.accepts_eq_iff, account,
    category, forall_names_iff, run, exit, and_assoc]

end JobCriteria

theorem JobQuery.accepts_filter_iff (q : JobQuery) (v : JobValue) :
    q.filter.accepts v.document = true ↔ ∀ c ∈ q.criteria, c.Holds v := by
  rw [JobQuery.filter, Filter.accepts_and_iff, List.forall_mem_map]
  exact forall₂_congr fun c _ => c.accepts_filter_iff v

/-- A list of patterns fits a text if one of its patterns does. -/
theorem Filter.accepts_matching_iff {doc : Document} {field value : String}
    {patterns : Option (List String)} (h : doc field = patterns.map .texts) :
    (matching field value).accepts doc = true ↔
      ∃ ps ∈ patterns, ∃ p ∈ ps, Pattern.fits p value = true := by
  rw [accepts, h]
  cases patterns with
  | none => simp
  | some ps => simp

/-- One of the patterns of a runner's competencies, of its categories or of its names, fits a
text. -/
def RunnerValue.Competent (part : Competencies → Option (List String)) (v : RunnerValue)
    (text : String) : Prop :=
  ∃ ps ∈ v.competencies.bind part, ∃ p ∈ ps, Pattern.fits p text = true

instance (part : Competencies → Option (List String)) (v : RunnerValue) (text : String) :
    Decidable (v.Competent part text) :=
  inferInstanceAs (Decidable (∃ ps ∈ v.competencies.bind part, ∃ p ∈ ps,
    Pattern.fits p text = true))

/-- What a criterion asks of a runner; a part that it leaves open asks nothing. -/
structure RunnerCriteria.Holds (c : RunnerCriteria) (v : RunnerValue) : Prop where
  category : ∀ k ∈ c.category, v.Competent Competencies.categories k
  name : ∀ n ∈ c.name, v.Competent Competencies.names n
  status : ∀ s ∈ c.status, v.status = some s

namespace RunnerCriteria

theorem holds_iff {c : RunnerCriteria} {v : RunnerValue} :
    c.Holds v ↔ (∀ k ∈ c.category, v.Competent Competencies.categories k) ∧
      (∀ n ∈ c.name, v.Competent Competencies.names n) ∧ ∀ s ∈ c.status, v.status = some s :=
  ⟨fun h => ⟨h.category, h.name, h.status⟩, fun ⟨category, name, status⟩ =>
    ⟨category, name, status⟩⟩

instance (c : RunnerCriteria) (v : RunnerValue) : Decidable (c.Holds v) :=
  decidable_of_iff' _ holds_iff

theorem accepts_filter_iff (c : RunnerCriteria) (v : RunnerValue) :
    c.filter.accepts v.document = true ↔ c.Holds v := by
  have category (k : String) : (Filter.matching "competencies.categories" k).accepts v.document =
      true ↔ v.Competent Competencies.categories k := Filter.accepts_matching_iff rfl
  have name (n : String) : (Filter.matching "competencies.names" n).accepts v.document = true ↔
      v.Competent Competencies.names n := Filter.accepts_matching_iff rfl
  have status (s : RunnerStatus) :
      v.document "runtime.status" = some (.text s.name) ↔ v.status = some s :=
    Document.eq_name_iff rfl (injective_of_lookup RunnerStatus.lookup_name)
  rw [filter, Filter.accepts_and_iff, holds_iff]
  simp only [List.forall_mem_append, Filter.forall_part_iff, category, name,
    Filter.accepts_eq_iff, status, and_assoc]

end RunnerCriteria

theorem RunnerQuery.accepts_filter_iff (q : RunnerQuery) (v : RunnerValue) :
    q.filter.accepts v.document = true ↔ ∀ c ∈ q.criteria, c.Holds v := by
  rw [RunnerQuery.filter, Filter.accepts_and_iff, List.forall_mem_map]
  exact forall₂_congr fun c _ => c.accepts_filter_iff v

end JobDispatch

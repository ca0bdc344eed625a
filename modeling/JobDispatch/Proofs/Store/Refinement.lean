import JobDispatch.Proofs.Store.Identity
import JobDispatch.Proofs.Store.OrderedMap
import JobDispatch.Proofs.Store.Repository
import Mathlib.Data.List.Induction

/-!
A repository in memory, in which nothing is planned to go wrong, is an ordered map: whatever calls
are made of it, in whatever order, it answers each as the map does, and has stored what is in the
map then.
-/

namespace JobDispatch

variable {α : Type}

/-- A store that has given out the identities of a map and has stored what is in it. -/
structure Store.Represents (s : Store α) (m : OrderedMap α) : Prop where
  entities : s.entities = m.entities
  created : m.created = (List.range s.issued).map fun n => idOf s.label (n + 1)

namespace Store.Represents

variable {s : Store α} {m : OrderedMap α}

theorem nodup (h : s.Represents m) : (s.entities.map Entity.id).Nodup := by
  rw [h.entities]
  exact m.nodup.sublist m.ids_sublist

theorem retrieve (h : s.Represents m) (id : String) : s.retrieve id = m.lookup id := by
  cases found : m.lookup id with
  | none =>
    apply List.find?_eq_none.mpr
    intro e he same
    obtain rfl : e.id = id := by simpa using same
    rw [h.entities, OrderedMap.mem_entities_iff, found] at he
    cases he
  | some e =>
    obtain rfl := OrderedMap.lookup_id found
    apply Store.retrieve_of_nodup h.nodup
    rw [h.entities, OrderedMap.mem_entities_iff]
    exact found

/-- The next identity is a new one. -/
theorem fresh (h : s.Represents m) : idOf s.label (s.issued + 1) ∉ m.created := by
  rw [h.created]
  intro given
  obtain ⟨n, hn, same⟩ := List.mem_map.mp given
  have equal := idOf_injective _ _ _ same
  have less := List.mem_range.mp hn
  omega

theorem create (h : s.Represents m) (value : α) :
    (s.create value).2.Represents (m.insert (idOf s.label (s.issued + 1)) value h.fresh) where
  entities := by
    rw [m.entities_insert value h.fresh, ← h.entities]
    rfl
  created := by
    change m.created ++ [_] = (List.range (s.issued + 1)).map _
    rw [List.range_succ, List.map_append, h.created]
    rfl

theorem put (h : s.Represents m) {id : String} (version : Nat) (value : α)
    (there : m.entry id ≠ none) :
    (s.put ⟨id, version, value⟩).Represents (m.assign id version value there) where
  entities := by
    rw [m.entities_assign version value there, ← h.entities]
    exact Store.replace_eq_map h.nodup _
  created := h.created

theorem keep (h : s.Represents m) (p : Entity α → Bool) :
    ({ s with entities := s.entities.filter p } : Store α).Represents (m.keep p) where
  entities := by
    rw [m.entities_keep, ← h.entities]
  created := h.created

end Store.Represents

namespace StoreCall

/-- What comes of an action on a repository, as a reply. -/
def answer {β : Type} (r : Repository α) (reply : Except StoreError β → StoreReply α)
    (a : Action (Repository α) StoreError β) : StoreReply α × Repository α :=
  let (x, r) := a.perform r
  (reply x, r)

theorem answer_call {β : Type} (s : Store α) (reply : Except StoreError β → StoreReply α)
    (op : Operation) (about : String) (act : Store α → Except StoreError (β × Store α)) :
    answer ⟨s, []⟩ reply (Repository.call op about act) =
      match act s with
      | .ok (b, t) => (reply (.ok b), ⟨t, []⟩)
      | .error e => (reply (.error e), ⟨s, []⟩) := by
  rw [answer, Repository.perform_call]
  cases act s <;> rfl

variable [Documented α]

def perform (r : Repository α) : StoreCall α → StoreReply α × Repository α
  | create value => answer r .stored (Repository.create value)
  | retrieve id => answer r .retrieved (Repository.retrieve id)
  | update e value => answer r .stored (Repository.update e value)
  | delete e => answer r .deleted (Repository.delete e.id)
  | all start stop => answer r .listed (Repository.all start stop)
  | search f start stop => answer r .listed (Repository.search f start stop)
  | deleteFrom f => answer r .counted (Repository.deleteFrom f)

/-- Each call is answered as the map answers it. -/
theorem perform_step (c : StoreCall α) {s : Store α} {m : OrderedMap α} (h : s.Represents m) :
    ∃ reply t m', c.perform ⟨s, []⟩ = (reply, ⟨t, []⟩) ∧ m.Step c reply m' ∧ t.Represents m' := by
  cases c with
  | create value =>
    exact ⟨_, _, _, rfl, .creates _ value h.fresh, h.create value⟩
  | retrieve id =>
    have found : (retrieve id).perform ⟨s, []⟩ = (.retrieved (.ok (m.lookup id)), ⟨s, []⟩) := by
      rw [← h.retrieve id]
      rfl
    exact ⟨_, s, m, found, .retrieves id, h⟩
  | update e value =>
    have called := answer_call s .stored .update e.id fun s => s.update e value
    cases entry : m.entry e.id with
    | none =>
      have absent : s.retrieve e.id = none := by
        rw [h.retrieve, OrderedMap.lookup_eq_none_iff, entry]
      have refused : s.update e value = .error (.notFound e.id) := by
        rw [Store.update, absent]
      rw [refused] at called
      exact ⟨_, s, m, called, .misses e value entry, h⟩
    | some x =>
      obtain ⟨version, old⟩ := x
      have there : s.retrieve e.id = some ⟨e.id, version, old⟩ := by
        rw [h.retrieve, OrderedMap.lookup, entry, Option.map_some]
      have updated := Store.update_eq s e ⟨e.id, version, old⟩ value there
      by_cases current : version = e.version
      · subst current
        rw [if_pos rfl] at updated
        rw [updated] at called
        exact ⟨_, _, _, called, .updates e value old entry, h.put _ value _⟩
      · rw [if_neg current] at updated
        rw [updated] at called
        exact ⟨_, s, m, called, .conflicts e value old version entry current, h⟩
  | delete e =>
    have called := answer_call s .deleted .delete e.id fun s => s.delete e.id
    have stored : (s.entities.any fun d => d.id == e.id) = (m.entry e.id).isSome := by
      have found := h.retrieve e.id
      rw [Store.retrieve] at found
      rw [← List.isSome_find?, found, OrderedMap.lookup, Option.isSome_map]
    cases entry : m.entry e.id with
    | none =>
      have refused : s.delete e.id = .error (.notFound e.id) := by
        rw [Store.delete, stored, entry]
        rfl
      rw [refused] at called
      exact ⟨_, s, m, called, .lacks e entry, h⟩
    | some x =>
      have deleted : s.delete e.id =
          .ok ((), { s with entities := s.entities.filter fun d => d.id != e.id }) := by
        rw [Store.delete, stored, entry]
        rfl
      rw [deleted] at called
      have there : m.entry e.id ≠ none := Option.ne_none_iff_exists'.mpr ⟨x, entry⟩
      exact ⟨_, _, _, called, .deletes e there, h.keep _⟩
  | all start stop =>
    have shows : (s.all start stop).Shows m.entities start stop := by
      rw [← h.entities]
      exact Page.shows_window s.entities start stop
    exact ⟨_, s, m, rfl, .lists start stop _ shows, h⟩
  | search f start stop =>
    have shows : (s.search f start stop).Shows
        (m.entities.filter fun e => f.accepts (Documented.document e.value)) start stop := by
      rw [← h.entities]
      exact Page.shows_window (s.matching f) start stop
    exact ⟨_, s, m, rfl, .finds f start stop _ shows, h⟩
  | deleteFrom f =>
    have count : (s.deleteFrom f).1 =
        m.entities.countP fun e => f.accepts (Documented.document e.value) := by
      rw [Store.deleteFrom_eq, h.entities]
    have called : (deleteFrom f).perform ⟨s, []⟩ =
        (.counted (.ok (s.deleteFrom f).1), ⟨(s.deleteFrom f).2, []⟩) := rfl
    rw [count] at called
    exact ⟨_, _, _, called, .purges f, h.keep _⟩

end StoreCall

/-- A map describes a repository when the calls that were made of it could be made of the map with
the same replies, and its entities are what is in the map. -/
structure OrderedMap.Describes [Documented α] (m : OrderedMap α) (log : StoreLog α)
    (r : Repository α) : Prop where
  runs : OrderedMap.Runs log m
  entities : r.store.entities = m.entities
  retrieve : ∀ id, r.store.retrieve id = m.lookup id
  created : m.created = log.filterMap StoreCall.created?
  versions : ∀ id version value, m.entry id = some (version, value) →
    version = 1 + log.countP (StoreCall.revises id)

namespace Repository

variable [Documented α]

/-- Calls made of an empty repository one after the other, with their replies, and what becomes of
it. -/
def serve (label : String) (calls : List (StoreCall α)) : StoreLog α × Repository α :=
  calls.foldl (fun (log, r) c => (log ++ [(c, (c.perform r).1)], (c.perform r).2))
    ([], .empty label)

theorem serve_snoc (label : String) (calls : List (StoreCall α)) (c : StoreCall α) :
    serve label (calls ++ [c]) =
      ((serve label calls).1 ++ [(c, (c.perform (serve label calls).2).1)],
        (c.perform (serve label calls).2).2) := by
  rw [serve, List.foldl_append]
  rfl

/-- Over all calls so far the repository has been an ordered map. -/
theorem serve_represents (label : String) (calls : List (StoreCall α)) :
    ∃ (s : Store α) (m : OrderedMap α), (serve label calls).2 = ⟨s, []⟩ ∧ s.Represents m ∧
      OrderedMap.Runs (serve label calls).1 m := by
  induction calls using List.reverseRecOn with
  | nil => exact ⟨.empty label, .empty, rfl, ⟨rfl, rfl⟩, .start⟩
  | append_singleton calls c ih =>
    obtain ⟨s, m, served, represents, runs⟩ := ih
    obtain ⟨reply, t, m', performed, step, next⟩ := c.perform_step represents
    rw [serve_snoc, served, performed]
    exact ⟨t, m', rfl, next, .next runs step⟩

/-- Whatever is asked of a repository in memory, it behaves as an ordered map. -/
theorem serve_describes (label : String) (calls : List (StoreCall α)) :
    (serve label calls).1.map Prod.fst = calls ∧
      ∃ m : OrderedMap α, m.Describes (serve label calls).1 (serve label calls).2 := by
  constructor
  · induction calls using List.reverseRecOn with
    | nil => rfl
    | append_singleton calls c ih =>
      rw [serve_snoc, List.map_append, ih]
      rfl
  · obtain ⟨s, m, served, represents, runs⟩ := serve_represents label calls
    refine ⟨m, runs, ?_, ?_, runs.created_eq, fun id version value => runs.version_eq⟩
    · rw [served]
      exact represents.entities
    · rw [served]
      exact represents.retrieve

/-- An update of an old version is refused, and a deletion is not. -/
example :
    letI : Documented Unit := ⟨fun _ _ => none⟩
    (serve "R" [.create (), .create (), .update ⟨"R1", 1, ()⟩ (), .update ⟨"R1", 1, ()⟩ (),
      .delete ⟨"R2", 7, ()⟩, .create ()]).2.store.entities =
        [⟨"R1", 2, ()⟩, ⟨"R3", 1, ()⟩] := by
  decide +kernel

end Repository

end JobDispatch

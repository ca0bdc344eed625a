import JobDispatch.Proofs.Page
import JobDispatch.Store.Repository
import Mathlib.Data.List.Nodup
import Mathlib.Logic.Function.Basic

/-!
Maps that keep their keys in the order in which these came in, and the calls of a repository as
such a map has to answer them. Each rule says when it applies, what is answered, and what the map is
then; no two rules apply to the same call.
-/

namespace JobDispatch

/-- A map from identities to versions and values. `created` has all the identities that ever came
in, in their order; those that were deleted since have no entry any more. -/
structure OrderedMap (α : Type) where
  created : List String
  entry : String → Option (Nat × α)
  nodup : created.Nodup
  known : ∀ id, entry id ≠ none → id ∈ created

/-- What is asked of a repository. -/
inductive StoreCall (α : Type) where
  | create (value : α)
  | retrieve (id : String)
  | update (e : Entity α) (value : α)
  | delete (e : Entity α)
  | all (start stop : Nat)
  | search (f : Filter) (start stop : Nat)
  | deleteFrom (f : Filter)

inductive StoreReply (α : Type) where
  /-- to a creation or an update -/
  | stored (r : Except StoreError (Entity α))
  | retrieved (r : Except StoreError (Option (Entity α)))
  | deleted (r : Except StoreError Unit)
  | listed (r : Except StoreError (Page (Entity α)))
  | counted (r : Except StoreError Nat)

/-- Calls in the order in which they were made, with their replies. -/
abbrev StoreLog (α : Type) := List (StoreCall α × StoreReply α)

/-- The identity that a call brought in. -/
def StoreCall.created? {α : Type} : StoreCall α × StoreReply α → Option String
  | (.create _, .stored (.ok e)) => some e.id
  | _ => none

/-- Whether a call gave an identity another value. -/
def StoreCall.revises {α : Type} (id : String) : StoreCall α × StoreReply α → Bool
  | (.update e _, .stored (.ok _)) => e.id = id
  | _ => false

namespace OrderedMap

variable {α : Type}

def empty : OrderedMap α where
  created := []
  entry _ := none
  nodup := List.nodup_nil
  known _ h := absurd rfl h

/-- A new identity comes last, at version 1. -/
def insert (m : OrderedMap α) (id : String) (value : α) (new : id ∉ m.created) : OrderedMap α where
  created := m.created ++ [id]
  entry := Function.update m.entry id (some (1, value))
  nodup := by
    refine List.nodup_append.mpr ⟨m.nodup, List.nodup_singleton id, ?_⟩
    rintro a ha b hb rfl
    exact new (List.mem_singleton.mp hb ▸ ha)
  known k h := by
    by_cases hk : k = id
    · exact List.mem_append_right m.created (List.mem_singleton.mpr hk)
    · rw [Function.update_of_ne hk] at h
      exact List.mem_append_left [id] (m.known k h)

/-- An identity that is there gets another version and value, and keeps its place. -/
def assign (m : OrderedMap α) (id : String) (version : Nat) (value : α)
    (there : m.entry id ≠ none) : OrderedMap α where
  created := m.created
  entry := Function.update m.entry id (some (version, value))
  nodup := m.nodup
  known k h := by
    by_cases hk : k = id
    · exact m.known k (hk ▸ there)
    · rw [Function.update_of_ne hk] at h
      exact m.known k h

/-- What a condition does not hold of is deleted. -/
def keep (m : OrderedMap α) (p : Entity α → Bool) : OrderedMap α where
  created := m.created
  entry id := (m.entry id).filter fun (version, value) => p ⟨id, version, value⟩
  nodup := m.nodup
  known id h := by
    apply m.known id
    intro absent
    rw [absent] at h
    exact h rfl

def lookup (m : OrderedMap α) (id : String) : Option (Entity α) :=
  (m.entry id).map fun (version, value) => ⟨id, version, value⟩

/-- What is in a map, in the order of the identities. -/
def entities (m : OrderedMap α) : List (Entity α) := m.created.filterMap m.lookup

theorem lookup_id {m : OrderedMap α} {id : String} {e : Entity α} (h : m.lookup id = some e) :
    e.id = id := by
  obtain ⟨x, -, rfl⟩ := Option.map_eq_some_iff.mp h
  rfl

theorem lookup_eq_none_iff {m : OrderedMap α} {id : String} :
    m.lookup id = none ↔ m.entry id = none :=
  Option.map_eq_none_iff

theorem lookup_update (m : OrderedMap α) (id k : String) (version : Nat) (value : α) :
    (Function.update m.entry id (some (version, value)) k).map
        (fun (version, value) => (⟨k, version, value⟩ : Entity α)) =
      if k = id then some ⟨id, version, value⟩ else m.lookup k := by
  by_cases hk : k = id
  · rw [hk, Function.update_self, if_pos rfl]
    rfl
  · rw [Function.update_of_ne hk, if_neg hk]
    rfl

theorem lookup_keep (m : OrderedMap α) (p : Entity α → Bool) (id : String) :
    (m.keep p).lookup id = (m.lookup id).filter p := by
  simp only [lookup, keep]
  cases m.entry id with
  | none => rfl
  | some x => by_cases h : p ⟨id, x.1, x.2⟩ <;> simp [Option.filter_some, h]

theorem entities_insert (m : OrderedMap α) {id : String} (value : α) (new : id ∉ m.created) :
    (m.insert id value new).entities = m.entities ++ [⟨id, 1, value⟩] := by
  have before : m.created.filterMap (m.insert id value new).lookup = m.entities := by
    apply List.filterMap_congr
    intro k hk
    have other : k ≠ id := fun same => new (same ▸ hk)
    exact (m.lookup_update id k 1 value).trans (if_neg other)
  have last : (m.insert id value new).lookup id = some ⟨id, 1, value⟩ :=
    (m.lookup_update id id 1 value).trans (if_pos rfl)
  have added : (m.insert id value new).entities =
      m.created.filterMap (m.insert id value new).lookup ++
        [id].filterMap (m.insert id value new).lookup :=
    List.filterMap_append
  rw [added, before, List.filterMap_cons_some last]
  rfl

theorem entities_assign (m : OrderedMap α) {id : String} (version : Nat) (value : α)
    (there : m.entry id ≠ none) :
    (m.assign id version value there).entities =
      m.entities.map fun e => if e.id = id then ⟨id, version, value⟩ else e := by
  rw [entities, entities, List.map_filterMap]
  apply List.filterMap_congr
  intro k hk
  refine (m.lookup_update id k version value).trans ?_
  cases found : m.lookup k with
  | none =>
    have other : k ≠ id := fun same => there (lookup_eq_none_iff.mp (same ▸ found))
    rw [if_neg other]
    rfl
  | some e =>
    rw [Option.map_some, lookup_id found]
    split_ifs <;> rfl

theorem entities_keep (m : OrderedMap α) (p : Entity α → Bool) :
    (m.keep p).entities = m.entities.filter p := by
  rw [entities, entities, List.filter_filterMap]
  apply List.filterMap_congr
  intro k hk
  exact m.lookup_keep p k

/-- What is in a map is in the order of creation, no identity twice. -/
theorem ids_sublist (m : OrderedMap α) : (m.entities.map Entity.id).Sublist m.created := by
  have ids : m.entities.map Entity.id = m.created.filter fun id => (m.entry id).isSome := by
    rw [entities, List.map_filterMap, ← List.filterMap_eq_filter]
    apply List.filterMap_congr
    intro id hid
    cases found : m.entry id <;> simp [lookup, found, Option.guard]
  rw [ids]
  exact List.filter_sublist

theorem mem_entities_iff {m : OrderedMap α} {e : Entity α} :
    e ∈ m.entities ↔ m.lookup e.id = some e := by
  constructor
  · intro he
    obtain ⟨id, -, found⟩ := List.mem_filterMap.mp he
    rwa [lookup_id found]
  · intro found
    have there : m.entry e.id ≠ none := fun absent => by
      rw [lookup_eq_none_iff.mpr absent] at found
      cases found
    exact List.mem_filterMap.mpr ⟨e.id, m.known e.id there, found⟩

variable [Documented α]

/-- What a map answers to a call, and what becomes of it. -/
inductive Step (m : OrderedMap α) : StoreCall α → StoreReply α → OrderedMap α → Prop
  | creates (id : String) (value : α) (new : id ∉ m.created) :
      Step m (.create value) (.stored (.ok ⟨id, 1, value⟩)) (m.insert id value new)
  | retrieves (id : String) : Step m (.retrieve id) (.retrieved (.ok (m.lookup id))) m
  | updates (e : Entity α) (value old : α) (current : m.entry e.id = some (e.version, old)) :
      Step m (.update e value) (.stored (.ok ⟨e.id, e.version + 1, value⟩))
        (m.assign e.id (e.version + 1) value (Option.ne_none_iff_exists'.mpr ⟨_, current⟩))
  | misses (e : Entity α) (value : α) (absent : m.entry e.id = none) :
      Step m (.update e value) (.stored (.error (.notFound e.id))) m
  | conflicts (e : Entity α) (value old : α) (version : Nat)
      (there : m.entry e.id = some (version, old)) (other : version ≠ e.version) :
      Step m (.update e value) (.stored (.error (.versionConflict e.id e.version version))) m
  | deletes (e : Entity α) (there : m.entry e.id ≠ none) :
      Step m (.delete e) (.deleted (.ok ())) (m.keep fun d => d.id != e.id)
  | lacks (e : Entity α) (absent : m.entry e.id = none) :
      Step m (.delete e) (.deleted (.error (.notFound e.id))) m
  | lists (start stop : Nat) (p : Page (Entity α)) (shows : p.Shows m.entities start stop) :
      Step m (.all start stop) (.listed (.ok p)) m
  | finds (f : Filter) (start stop : Nat) (p : Page (Entity α))
      (shows : p.Shows (m.entities.filter fun e => f.accepts (Documented.document e.value))
        start stop) :
      Step m (.search f start stop) (.listed (.ok p)) m
  | purges (f : Filter) :
      Step m (.deleteFrom f)
        (.counted (.ok (m.entities.countP fun e => f.accepts (Documented.document e.value))))
        (m.keep fun e => !f.accepts (Documented.document e.value))

/-- What becomes of an empty map over calls with these answers. -/
inductive Runs : StoreLog α → OrderedMap α → Prop
  | start : Runs [] .empty
  | next {log : StoreLog α} {m m' : OrderedMap α} {c : StoreCall α} {reply : StoreReply α}
      (h : Runs log m) (step : m.Step c reply m') : Runs (log ++ [(c, reply)]) m'

open StoreCall (created? revises)

variable {m m' m'' : OrderedMap α} {c : StoreCall α} {reply reply' : StoreReply α}
  {log : StoreLog α} {id : String}

/-- No two rules apply to the same call, save that a creation may bring in any new identity. -/
theorem Step.unique (h : m.Step c reply m') (h' : m.Step c reply' m'')
    (other : ∀ value, c ≠ .create value) : reply' = reply ∧ m'' = m' := by
  cases h with
  | creates id value => exact absurd rfl (other value)
  | retrieves id =>
    cases h'
    exact ⟨rfl, rfl⟩
  | updates e value old current =>
    cases h' with
    | updates => exact ⟨rfl, rfl⟩
    | misses _ _ absent => simp [current] at absent
    | conflicts _ _ _ _ there unequal =>
      rw [current] at there
      cases there
      exact absurd rfl unequal
  | misses e value absent =>
    cases h' with
    | updates _ _ _ current => simp [current] at absent
    | misses => exact ⟨rfl, rfl⟩
    | conflicts _ _ _ _ there => simp [there] at absent
  | conflicts e value old version there unequal =>
    cases h' with
    | updates _ _ _ current =>
      rw [current] at there
      cases there
      exact absurd rfl unequal
    | misses _ _ absent => simp [there] at absent
    | conflicts _ _ _ _ there' =>
      rw [there] at there'
      cases there'
      exact ⟨rfl, rfl⟩
  | deletes e there =>
    cases h' with
    | deletes => exact ⟨rfl, rfl⟩
    | lacks _ absent => exact absurd absent there
  | lacks e absent =>
    cases h' with
    | deletes _ there => exact absurd absent there
    | lacks => exact ⟨rfl, rfl⟩
  | lists start stop p shows =>
    cases h' with
    | lists _ _ q shows' => exact ⟨by rw [shows.unique shows'], rfl⟩
  | finds f start stop p shows =>
    cases h' with
    | finds _ _ _ q shows' => exact ⟨by rw [shows.unique shows'], rfl⟩
  | purges f =>
    cases h'
    exact ⟨rfl, rfl⟩

theorem Step.created_eq (h : m.Step c reply m') :
    m'.created = m.created ++ (created? (c, reply)).toList := by
  cases h with
  | creates => rfl
  | _ => exact (List.append_nil m.created).symm

/-- Only what is there is given another value. -/
theorem Step.mem_of_revises (h : m.Step c reply m') (revised : revises id (c, reply)) :
    id ∈ m.created := by
  cases h with
  | updates e value old current =>
    obtain rfl : e.id = id := of_decide_eq_true revised
    apply m.known
    simp [current]
  | _ => cases revised

/-- Whatever has a version after a call came in with it at version 1, or had a version before, and
has the next one if the call gave it another value. -/
theorem Step.version_cases (h : m.Step c reply m') {version : Nat} {value : α}
    (entry : m'.entry id = some (version, value)) :
    (id ∉ m.created ∧ version = 1 ∧ revises id (c, reply) = false) ∨
      ∃ before old, m.entry id = some (before, old) ∧
        version = before + if revises id (c, reply) then 1 else 0 := by
  cases h with
  | creates k value new =>
    change Function.update m.entry k (some (1, value)) id = _ at entry
    by_cases same : id = k
    · subst same
      rw [Function.update_self] at entry
      cases entry
      exact .inl ⟨new, rfl, rfl⟩
    · rw [Function.update_of_ne same] at entry
      exact .inr ⟨version, _, entry, rfl⟩
  | updates e value old current =>
    change Function.update m.entry e.id (some (e.version + 1, value)) id = _ at entry
    by_cases same : id = e.id
    · subst same
      rw [Function.update_self] at entry
      cases entry
      exact .inr ⟨e.version, old, current, by simp [revises]⟩
    · rw [Function.update_of_ne same] at entry
      exact .inr ⟨version, _, entry, by simp [revises, Ne.symm same]⟩
  | deletes e there =>
    exact .inr ⟨version, value, (Option.filter_eq_some_iff.mp entry).1, rfl⟩
  | purges f =>
    exact .inr ⟨version, value, (Option.filter_eq_some_iff.mp entry).1, rfl⟩
  | retrieves => exact .inr ⟨version, value, entry, rfl⟩
  | misses => exact .inr ⟨version, value, entry, rfl⟩
  | conflicts => exact .inr ⟨version, value, entry, rfl⟩
  | lacks => exact .inr ⟨version, value, entry, rfl⟩
  | lists => exact .inr ⟨version, value, entry, rfl⟩
  | finds => exact .inr ⟨version, value, entry, rfl⟩

namespace Runs

theorem created_eq (h : Runs log m) : m.created = log.filterMap created? := by
  induction h with
  | start => rfl
  | next h step ih =>
    rw [step.created_eq, ih, List.filterMap_append]
    rfl

theorem countP_revises_of_new (h : Runs log m) (new : id ∉ m.created) :
    log.countP (revises id) = 0 := by
  induction h with
  | start => rfl
  | next h step ih =>
    rw [step.created_eq, List.mem_append, not_or] at new
    have before := ih new.1
    rw [List.countP_append, before, List.countP_singleton, if_neg]
    intro revised
    exact new.1 (step.mem_of_revises revised)

/-- The version of an identity counts how often it was given another value. -/
theorem version_eq (h : Runs log m) {version : Nat} {value : α}
    (entry : m.entry id = some (version, value)) : version = 1 + log.countP (revises id) := by
  induction h generalizing version value with
  | start => cases entry
  | next h step ih =>
    rw [List.countP_append, List.countP_singleton]
    rcases step.version_cases entry with ⟨new, rfl, first⟩ | ⟨before, old, earlier, rfl⟩
    · rw [h.countP_revises_of_new new, first]
      rfl
    · rw [ih earlier, Nat.add_assoc]

end Runs

end OrderedMap

end JobDispatch

import JobDispatch.Proofs.Text.Decimal
import JobDispatch.Store.Basic
import Mathlib.Data.List.Nodup

/-!
Identities and versions of a store. Whatever is stored has an identity of its own, an identity
that was given out is never given out again, and a version only rises: an identity and a version
together stand for one value for ever.
-/

namespace JobDispatch.Store

variable {α : Type}

theorem idOf_injective (label : String) (m n : Nat) (h : idOf label m = idOf label n) : m = n := by
  apply Text.decimal_injective
  simpa [idOf] using h

/-- No identity is stored twice, and none that is still to be given out is stored. -/
structure Sound (s : Store α) : Prop where
  nodup : (s.entities.map Entity.id).Nodup
  fresh : ∀ n, s.issued < n → ∀ e ∈ s.entities, e.id ≠ idOf s.label n

theorem sound_empty (label : String) : (empty label : Store α).Sound :=
  ⟨List.nodup_nil, fun _ _ _ he => absurd he List.not_mem_nil⟩

theorem retrieve_mem {s : Store α} {id : String} {e : Entity α} (h : s.retrieve id = some e) :
    e ∈ s.entities ∧ e.id = id :=
  ⟨List.mem_of_find?_eq_some h, by simpa using List.find?_some h⟩

theorem retrieve_of_nodup {s : Store α} (nodup : (s.entities.map Entity.id).Nodup) {e : Entity α}
    (he : e ∈ s.entities) : s.retrieve e.id = some e := by
  simp only [retrieve]
  generalize s.entities = es at nodup he
  induction es with
  | nil => cases he
  | cons d ds ih =>
    obtain ⟨hd, nodup⟩ := List.nodup_cons.mp nodup
    rcases List.mem_cons.mp he with rfl | he
    · simp
    · have other : d.id ≠ e.id := fun h => hd (h ▸ List.mem_map_of_mem he)
      simpa [other] using ih nodup he

/-- Whatever is stored is found under its identity. -/
theorem Sound.retrieve_of_mem {s : Store α} (hs : s.Sound) {e : Entity α} (he : e ∈ s.entities) :
    s.retrieve e.id = some e :=
  retrieve_of_nodup hs.nodup he

/-- A store with an entity in the place of the one with its identity. -/
def put (s : Store α) (e : Entity α) : Store α := { s with entities := replace e s.entities }

theorem replace_ids (e : Entity α) (ds : List (Entity α)) :
    (replace e ds).map Entity.id = ds.map Entity.id := by
  induction ds with
  | nil => rfl
  | cons d ds ih =>
    rw [replace]
    split_ifs with h
    · simp [h]
    · simp [ih]

/-- Where no identity is stored twice, an entity takes the place of the only one that has its. -/
theorem replace_eq_map {ds : List (Entity α)} (nodup : (ds.map Entity.id).Nodup) (e : Entity α) :
    replace e ds = ds.map fun d => if d.id = e.id then e else d := by
  induction ds with
  | nil => rfl
  | cons d ds ih =>
    obtain ⟨hd, nodup⟩ := List.nodup_cons.mp nodup
    rw [replace, List.map_cons]
    split_ifs with h
    · have others : ds.map (fun d => if d.id = e.id then e else d) = ds.map id := by
        apply List.map_congr_left
        intro c hc
        have other : c.id ≠ e.id := fun same =>
          hd (List.mem_map.mpr ⟨c, hc, same.trans h.symm⟩)
        rw [if_neg other, id]
      rw [others, List.map_id]
    · rw [ih nodup]

theorem mem_replace {e d : Entity α} {ds : List (Entity α)} (h : d ∈ replace e ds) :
    d = e ∨ d ∈ ds := by
  induction ds with
  | nil => cases h
  | cons c cs ih =>
    rw [replace] at h
    split_ifs at h with hc
    · rcases List.mem_cons.mp h with rfl | h
      · exact .inl rfl
      · exact .inr (List.mem_cons_of_mem c h)
    · rcases List.mem_cons.mp h with rfl | h
      · exact .inr List.mem_cons_self
      · exact (ih h).imp id (List.mem_cons_of_mem c)

theorem find?_replace (e : Entity α) (ds : List (Entity α)) (id : String) :
    (replace e ds).find? (fun d => d.id == id) =
      (ds.find? fun d => d.id == id).map fun d => if id = e.id then e else d := by
  induction ds with
  | nil => rfl
  | cons d ds ih =>
    by_cases hd : d.id = e.id <;> by_cases hid : d.id = id
    · simp [replace, ← hd, hid]
    · have ne : e.id ≠ id := fun h => hid (hd.trans h)
      have same (o : Option (Entity α)) : o.map (fun d => if id = e.id then e else d) = o := by
        simp [Ne.symm ne]
      rw [same]
      simp [replace, hd, ne]
    · have ne : id ≠ e.id := fun h => hd (hid.trans h)
      simp [replace, hid, ne]
    · simpa [replace, hd, hid] using ih

theorem retrieve_put (s : Store α) (e : Entity α) (id : String) :
    (s.put e).retrieve id = (s.retrieve id).map fun d => if id = e.id then e else d :=
  find?_replace e s.entities id

/-- An update succeeds if and only if the version is the stored one. -/
theorem update_eq (s : Store α) (e d : Entity α) (value : α) (h : s.retrieve e.id = some d) :
    s.update e value =
      if d.version = e.version then
        .ok (⟨e.id, d.version + 1, value⟩, s.put ⟨e.id, d.version + 1, value⟩)
      else .error (.versionConflict e.id e.version d.version) := by
  simp only [update, h, put]

theorem retrieve_create (s : Store α) (value : α) (id : String) :
    (s.create value).2.retrieve id =
      (s.retrieve id).or
        (if (s.create value).1.id = id then some (s.create value).1 else none) := by
  by_cases h : idOf s.label (s.issued + 1) = id <;>
    simp [create, retrieve, List.find?_append, h]

theorem create_fresh (s : Store α) (hs : s.Sound) (value : α) :
    s.retrieve (s.create value).1.id = none := by
  apply List.find?_eq_none.mpr
  intro e he
  simpa [create] using hs.fresh (s.issued + 1) (by omega) e he

theorem retrieve_deleteFrom [Documented α] (s : Store α) (hs : s.Sound) (f : Filter)
    (id : String) :
    (s.deleteFrom f).2.retrieve id =
      (s.retrieve id).filter fun e => !f.accepts (Documented.document e.value) := by
  have hn := hs.nodup
  simp only [retrieve, deleteFrom]
  generalize s.entities = es at hn
  induction es with
  | nil => rfl
  | cons e es ih =>
    obtain ⟨hne, hn⟩ := List.nodup_cons.mp hn
    by_cases hid : e.id = id
    · -- behind an entity that is deleted there is no other one with its identity
      have alone : es.find? (fun d => d.id == id) = none := by
        apply List.find?_eq_none.mpr
        intro d hd
        have : d.id ≠ id := fun h => hne (List.mem_map.mpr ⟨d, hd, h.trans hid.symm⟩)
        simpa using this
      have ih := ih hn
      rw [alone, Option.filter_none] at ih
      by_cases hf : f.accepts (Documented.document e.value) <;>
        simp [Option.filter_some, hid, hf, ih]
    · by_cases hf : f.accepts (Documented.document e.value) <;>
        simpa [List.filter_cons, hid, hf] using ih hn

theorem Sound.put {s : Store α} (hs : s.Sound) (e : Entity α) : (s.put e).Sound := by
  have ids := replace_ids e s.entities
  refine ⟨by simpa only [Store.put, ids] using hs.nodup, ?_⟩
  intro n hn d hd
  have hm : d.id ∈ s.entities.map Entity.id := ids ▸ List.mem_map_of_mem hd
  obtain ⟨d', hd', hid⟩ := List.mem_map.mp hm
  rw [← hid]
  exact hs.fresh n hn d' hd'

theorem Sound.create {s : Store α} (hs : s.Sound) (value : α) : (s.create value).2.Sound := by
  refine ⟨?_, ?_⟩
  · have fresh := List.find?_eq_none.mp (create_fresh s hs value)
    simp only [Store.create, List.map_append, List.map_cons, List.map_nil]
    refine List.nodup_append.mpr ⟨hs.nodup, List.nodup_singleton _, ?_⟩
    intro a ha b hb
    obtain ⟨e, he, rfl⟩ := List.mem_map.mp ha
    rw [List.mem_singleton.mp hb]
    simpa [Store.create] using fresh e he
  · intro n hn e he
    simp only [Store.create] at hn he ⊢
    rcases List.mem_append.mp he with he | he
    · exact hs.fresh n (by omega) e he
    · rw [List.mem_singleton.mp he]
      intro h
      have := idOf_injective _ _ _ h
      omega

theorem Sound.deleteFrom [Documented α] {s : Store α} (hs : s.Sound) (f : Filter) :
    (s.deleteFrom f).2.Sound :=
  ⟨hs.nodup.sublist (List.filter_sublist.map _),
    fun n hn e he => hs.fresh n hn e (List.mem_filter.mp he).1⟩

/-- What a store can become: whatever is stored later was there before as it is, or had a lower
version, or has an identity given out since. -/
structure Grows (s t : Store α) : Prop where
  label : t.label = s.label
  issued : s.issued ≤ t.issued
  stored : ∀ id e, t.retrieve id = some e →
    (∃ d, s.retrieve id = some d ∧ (d = e ∨ d.version < e.version)) ∨
      ∃ n, s.issued < n ∧ id = idOf s.label n

theorem Grows.refl (s : Store α) : Grows s s :=
  ⟨rfl, le_refl _, fun _ e he => .inl ⟨e, he, .inl rfl⟩⟩

theorem Grows.trans {s t u : Store α} (hst : Grows s t) (htu : Grows t u) : Grows s u := by
  refine ⟨htu.label.trans hst.label, hst.issued.trans htu.issued, ?_⟩
  intro id e he
  rcases htu.stored id e he with ⟨d, hd, hde⟩ | ⟨n, hn, rfl⟩
  · rcases hst.stored id d hd with ⟨c, hc, hcd⟩ | new
    · refine .inl ⟨c, hc, ?_⟩
      rcases hcd with rfl | hcd
      · exact hde
      · rcases hde with rfl | hde
        · exact .inr hcd
        · exact .inr (hcd.trans hde)
    · exact .inr new
  · exact .inr ⟨n, lt_of_le_of_lt hst.issued hn, by rw [hst.label]⟩

/-- What is stored first and last is stored in between: its identity is not given out again. -/
theorem Grows.retrieve_between {s t u : Store α} (hs : s.Sound) (hst : Grows s t)
    (htu : Grows t u) {id : String} {d e : Entity α} (hd : s.retrieve id = some d)
    (he : u.retrieve id = some e) : ∃ c, t.retrieve id = some c := by
  rcases htu.stored id e he with ⟨c, hc, -⟩ | ⟨n, hn, hid⟩
  · exact ⟨c, hc⟩
  · obtain ⟨hm, rfl⟩ := retrieve_mem hd
    rw [hst.label] at hid
    exact absurd hid (hs.fresh n (lt_of_le_of_lt hst.issued hn) d hm)

theorem grows_create (s : Store α) (value : α) : Grows s (s.create value).2 := by
  refine ⟨rfl, Nat.le_succ _, ?_⟩
  intro id e he
  rw [retrieve_create] at he
  cases h : s.retrieve id with
  | some d =>
    rw [h, Option.some_or] at he
    exact .inl ⟨d, rfl, .inl (Option.some.inj he)⟩
  | none =>
    rw [h, Option.none_or] at he
    split_ifs at he with hid
    exact .inr ⟨s.issued + 1, Nat.lt_succ_self _, hid.symm⟩

theorem grows_put (s : Store α) (d e : Entity α) (h : s.retrieve e.id = some d)
    (hv : d.version < e.version) : Grows s (s.put e) := by
  refine ⟨rfl, le_refl _, fun id new hnew => .inl ?_⟩
  rw [retrieve_put] at hnew
  obtain ⟨old, hold, rfl⟩ := Option.map_eq_some_iff.mp hnew
  refine ⟨old, hold, ?_⟩
  split_ifs with hid
  · subst hid
    rw [h] at hold
    exact .inr (Option.some.inj hold ▸ hv)
  · exact .inl rfl

theorem grows_deleteFrom [Documented α] (s : Store α) (hs : s.Sound) (f : Filter) :
    Grows s (s.deleteFrom f).2 := by
  refine ⟨rfl, le_refl _, fun id e he => .inl ⟨e, ?_, .inl rfl⟩⟩
  rw [retrieve_deleteFrom s hs, Option.filter_eq_some_iff] at he
  exact he.1

/-- Whatever is stored at both times has values that a relation leads from the one to the other. -/
def Carries (R : α → α → Prop) (s t : Store α) : Prop :=
  ∀ id d e, s.retrieve id = some d → t.retrieve id = some e → R d.value e.value

section Carries

variable {R : α → α → Prop} {s t u : Store α}

theorem Carries.trans (trans : ∀ a b c, R a b → R b c → R a c) (hs : s.Sound) (hst : Grows s t)
    (htu : Grows t u) (first : s.Carries R t) (second : t.Carries R u) : s.Carries R u := by
  intro id d e hd he
  obtain ⟨c, hc⟩ := hst.retrieve_between hs htu hd he
  exact trans d.value c.value e.value (first id d c hd hc) (second id c e hc he)

variable (refl : ∀ a, R a a)

include refl

theorem carries_refl (s : Store α) : s.Carries R s := by
  intro id d e hd he
  rw [hd] at he
  cases he
  exact refl d.value

theorem carries_create (s : Store α) (value : α) : s.Carries R (s.create value).2 := by
  intro id d e hd he
  rw [retrieve_create, hd, Option.some_or] at he
  cases he
  exact refl d.value

theorem carries_put {d e : Entity α} (stored : s.retrieve e.id = some d)
    (carried : R d.value e.value) : s.Carries R (s.put e) := by
  intro id c new hc hnew
  rw [retrieve_put, hc, Option.map_some, Option.some.injEq] at hnew
  split_ifs at hnew with hid
  · subst hid hnew
    rw [stored] at hc
    cases hc
    exact carried
  · subst hnew
    exact refl c.value

theorem carries_deleteFrom [Documented α] (hs : s.Sound) (f : Filter) :
    s.Carries R (s.deleteFrom f).2 := by
  intro id d e hd he
  rw [retrieve_deleteFrom s hs, Option.filter_eq_some_iff, hd] at he
  cases he.1
  exact refl d.value

end Carries

/-- An entity that is stored or was: its identity is given out, and what has it now has a higher
version or is the very same. -/
structure Known (s : Store α) (e : Entity α) : Prop where
  issued : ∀ n, s.issued < n → e.id ≠ idOf s.label n
  latest : ∀ d, s.retrieve e.id = some d → e = d ∨ e.version < d.version

theorem known_of_retrieve {s : Store α} (hs : s.Sound) {id : String} {e : Entity α}
    (h : s.retrieve id = some e) : s.Known e := by
  obtain ⟨hm, rfl⟩ := retrieve_mem h
  refine ⟨fun n hn => hs.fresh n hn e hm, fun d hd => .inl ?_⟩
  rw [h] at hd
  exact Option.some.inj hd

theorem Known.grows {s t : Store α} {e : Entity α} (h : s.Known e) (hg : Grows s t) :
    t.Known e := by
  refine ⟨fun n hn => hg.label ▸ h.issued n (lt_of_le_of_lt hg.issued hn), ?_⟩
  intro d hd
  rcases hg.stored _ d hd with ⟨d', hd', rfl | hlt⟩ | ⟨n, hn, hid⟩
  · exact h.latest d' hd'
  · rcases h.latest d' hd' with rfl | hlt'
    · exact .inr hlt
    · exact .inr (hlt'.trans hlt)
  · exact absurd hid (h.issued n hn)

/-- Identity and version tell whether a known entity is the stored one. -/
theorem Known.eq_of_version {s : Store α} {e d : Entity α} (h : s.Known e)
    (hd : s.retrieve e.id = some d) (hv : d.version = e.version) : e = d := by
  rcases h.latest d hd with rfl | hlt
  · rfl
  · omega

end JobDispatch.Store

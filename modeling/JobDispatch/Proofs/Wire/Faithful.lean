import JobDispatch.Proofs.Json.Reading
import JobDispatch.Proofs.Time.Notation
import JobDispatch.Wire.Entity

/-!
Faithful values: what is written of them is read back. A record is read back if its fields are.
-/

namespace JobDispatch

namespace Decoder

variable {σ α : Type}

theorem find?_of_nodup {fields : List (Field σ)} (nodup : (fields.map Field.name).Nodup)
    {f : Field σ} (h : f ∈ fields) : fields.find? (fun g => g.name == f.name) = some f := by
  induction fields with
  | nil => cases h
  | cons g gs ih =>
    obtain ⟨first, nodup⟩ := List.nodup_cons.mp nodup
    rcases List.mem_cons.mp h with rfl | h
    · simp
    · have other : g.name ≠ f.name := fun same => first (same ▸ List.mem_map_of_mem h)
      simpa [other] using ih nodup h

/-- The values of a record that stand in the order of its fields, and what they set. -/
inductive Sets (m : Manner) : List (Field σ) → List (String × Json) → (σ → σ) → Prop
  | nil : Sets m [] [] id
  | cons {f : Field σ} {fs : List (Field σ)} {j : Json} {js : List (String × Json)}
      {set sets : σ → σ} (reads : f.read m (Draft.ofJson j) = .ok set) (rest : Sets m fs js sets) :
      Sets m (f :: fs) ((f.name, j) :: js) fun r => sets (set r)

theorem readFields_of_sets {m : Manner} {all fields : List (Field σ)}
    {given : List (String × Json)} {sets : σ → σ} (h : Sets m fields given sets)
    (known : ∀ f ∈ fields, all.find? (fun g => g.name == f.name) = some f)
    (nodup : (fields.map Field.name).Nodup) {seen : List String}
    (fresh : ∀ f ∈ fields, f.name ∉ seen) (r : σ) :
    readFields m all (Draft.ofFields given) seen r =
      .ok ((fields.map Field.name).reverse ++ seen, sets r) := by
  induction h generalizing seen r with
  | nil => rfl
  | @cons f fs j js set sets reads rest ih =>
    obtain ⟨first, nodup⟩ := List.nodup_cons.mp nodup
    have unseen : seen.contains f.name = false := by
      simpa using fresh f List.mem_cons_self
    have later : ∀ g ∈ fs, g.name ∉ f.name :: seen := by
      intro g hg again
      rcases List.mem_cons.mp again with same | again
      · exact first (same ▸ List.mem_map_of_mem hg)
      · exact fresh g (List.mem_cons_of_mem f hg) again
    have tail := ih (fun g hg => known g (List.mem_cons_of_mem f hg)) nodup later (set r)
    simp only [Draft.ofFields, readFields, known f List.mem_cons_self, unseen, reads, tail]
    simp

/-- A record that gives all its fields in their order is read. -/
theorem record_of_sets {m : Manner} {fields : List (Field σ)} {given : List (String × Json)}
    {sets : σ → σ} (h : Sets m fields given sets) (nodup : (fields.map Field.name).Nodup)
    (start : σ) : record start fields m (Draft.ofJson (.record given)) = .ok (sets start) := by
  have fresh : ∀ f ∈ fields, f.name ∉ ([] : List String) := fun f hf => List.not_mem_nil
  have reads := readFields_of_sets h (fun f hf => find?_of_nodup nodup hf) nodup fresh start
  have all : (fields.all fun f => f.presence != .required ||
      ((fields.map Field.name).reverse ++ []).contains f.name) = true := by
    rw [List.all_eq_true]
    intro f hf
    simp [List.mem_map_of_mem hf]
  simp only [Draft.ofJson, record, reads, all]
  rfl

theorem read_of {m : Manner} {name : String} {presence : Presence} {value : Decoder α}
    {set : α → σ → σ} {j : Json} {a : α} (h : value m (Draft.ofJson j) = .ok a) :
    (Field.of name presence value set).read m (Draft.ofJson j) = .ok (set a) := by
  simp only [Field.of, map, h]
  rfl

/-- A record is not read if its first field is not. -/
theorem record_of_error {m : Manner} {f : Field σ} {fs : List (Field σ)} {j : Json}
    {js : List (String × Json)} {e : Misread} (h : f.read m (Draft.ofJson j) = .error e)
    (start : σ) :
    record start (f :: fs) m (Draft.ofJson (.record ((f.name, j) :: js))) = .error e := by
  simp [Draft.ofJson, Draft.ofFields, record, readFields, h]

/-- A list is read back if its items are. -/
theorem list_ofList {m : Manner} {value : Decoder α} {write : α → Json} {xs : List α}
    (h : ∀ a ∈ xs, value m (Draft.ofJson (write a)) = .ok a) :
    list value m (Draft.ofJson (Json.ofList write xs)) = .ok xs := by
  have items : (Draft.ofItems (xs.map write)).mapM (value m) = .ok xs := by
    induction xs with
    | nil => rfl
    | cons a xs ih =>
      have tail := ih fun b hb => h b (List.mem_cons_of_mem a hb)
      rw [List.map_cons, Draft.ofItems, List.mapM_cons, h a List.mem_cons_self, tail]
      rfl
  change list value m (Draft.list _ .closed) = .ok xs
  simp only [list, items]
  rfl

end Decoder

/-- A value that is read back as it was written, whichever way it is decoded. -/
structure Wire.Faithful {α : Type} [Wire α] (a : α) : Prop where
  proper : (Wire.toJson a).Proper
  decodes : ∀ m, Wire.decoder m (Draft.ofJson (Wire.toJson a)) = .ok a

namespace Wire

variable {α : Type} [Wire α]

theorem Faithful.read_write {a : α} (h : Faithful a) : read (write a) = .ok a :=
  (Decoder.run_compact Wire.decoder h.proper).trans (h.decodes .direct)

/-- What is shown of a value on lines is read back. -/
theorem Faithful.read_pretty {a : α} (h : Faithful a) : read ((toJson a).pretty ++ "\n") = .ok a :=
  (Decoder.run_pretty Wire.decoder h.proper).trans (h.decodes .direct)

theorem faithful_text (s : String) : Faithful s := ⟨trivial, fun _ => rfl⟩

theorem faithful_bool (b : Bool) : Faithful b := ⟨trivial, fun _ => rfl⟩

theorem faithful_instant (t : Time.Instant) : Faithful t := by
  refine ⟨trivial, fun m => ?_⟩
  have reads : Time.Instant.read (toString t).toList = some t := by
    change Time.Instant.read (String.ofList t.write).toList = some t
    rw [String.toList_ofList, t.read_write]
  change Decoder.textual _ m (.text (some (toString t))) = .ok t
  simp [Decoder.textual, Decoder.text, reads]

/-- Nothing is read back as nothing, and a value as the value if it is not written as nothing. -/
theorem faithful_option {o : Option α} (h : ∀ a ∈ o, Faithful a ∧ toJson a ≠ .null) :
    Faithful o := by
  cases o with
  | none => exact ⟨trivial, fun _ => rfl⟩
  | some a =>
    obtain ⟨faithful, solid⟩ := h a rfl
    refine ⟨faithful.proper, fun m => ?_⟩
    have reads := faithful.decodes m
    change Decoder.option decoder m (Draft.ofJson (toJson a)) = .ok (some a)
    cases hj : toJson a with
    | null => exact absurd hj solid
    | _ =>
      rw [hj] at reads
      simp only [Draft.ofJson] at reads ⊢
      simp only [Decoder.option, reads]
      rfl

theorem faithful_list {xs : List α} (h : ∀ a ∈ xs, Faithful a) : Faithful xs := by
  refine ⟨?_, fun m => ?_⟩
  · change Json.ItemsProper (xs.map toJson)
    rw [Json.itemsProper_iff]
    intro j hj
    obtain ⟨a, ha, rfl⟩ := List.mem_map.mp hj
    exact (h a ha).proper
  · exact Decoder.list_ofList fun a ha => (h a ha).decodes m

/-- A choice is read back from its name. -/
theorem choice_name {α : Type} {names : List (String × α)} {name : String} {a : α}
    (h : names.lookup name = some a) (m : Manner) :
    Decoder.choice names m (Draft.ofJson (.text name)) = .ok a := by
  simp [Draft.ofJson, Decoder.choice, h]

end Wire

end JobDispatch

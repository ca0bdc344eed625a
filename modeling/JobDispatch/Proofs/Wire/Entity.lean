import JobDispatch.Proofs.Wire.Faithful

/-!
Stored things are read back: their records can be taken in as a whole, and the identity and the
version are told apart from the fields of the value.
-/

namespace JobDispatch

/-- Whether a value can be taken in as a whole with at most so many containers around any part. -/
def Json.Gathers (depth : Nat) (j : Json) : Prop := (Draft.ofJson j).canGather depth = true

namespace Json

theorem gathers_null (depth : Nat) : null.Gathers depth := by
  cases depth <;> rfl

theorem gathers_text (depth : Nat) (s : String) : (text s).Gathers depth := by
  cases depth <;> rfl

theorem gathers_int (depth : Nat) {i : Int} (h : i.natAbs ≤ Text.maxWord) :
    (int i).Gathers depth := by
  have small := Number.tooLarge_ofInt h
  cases depth <;> simp [Gathers, int, Draft.ofJson, Draft.canGather, small]

theorem gathers_ofNat (depth : Nat) {n : Nat} (h : n ≤ Text.maxWord) :
    (ofNat n).Gathers depth :=
  gathers_int depth (by simpa using h)

theorem gathers_ofOption {α : Type} {f : α → Json} {o : Option α} {depth : Nat}
    (h : ∀ a ∈ o, (f a).Gathers depth) : (ofOption f o).Gathers depth := by
  cases o with
  | none => exact gathers_null depth
  | some a => exact h a rfl

theorem gathers_list {items : List Json} {depth : Nat} (h : ∀ j ∈ items, j.Gathers depth) :
    (list items).Gathers (depth + 1) := by
  have all : Draft.itemsGather depth (Draft.ofItems items) = true := by
    induction items with
    | nil => rfl
    | cons j js ih =>
      have tail := ih fun i hi => h i (List.mem_cons_of_mem j hi)
      rw [Draft.ofItems, Draft.itemsGather, tail, Bool.and_true]
      exact h j List.mem_cons_self
  simp [Gathers, Draft.ofJson, Draft.canGather, all]

theorem gathers_record {fields : List (String × Json)} {depth : Nat}
    (h : ∀ f ∈ fields, f.2.Gathers depth) : (record fields).Gathers (depth + 1) := by
  have all : Draft.fieldsGather depth (Draft.ofFields fields) = true := by
    induction fields with
    | nil => rfl
    | cons f fs ih =>
      have tail := ih fun g hg => h g (List.mem_cons_of_mem f hg)
      rw [Draft.ofFields, Draft.fieldsGather, tail, Bool.and_true]
      exact h f List.mem_cons_self
  simp [Gathers, Draft.ofJson, Draft.canGather, all]

end Json

theorem Number.proper_ofNat (n : Nat) : (Json.ofNat n).Proper := Number.proper_ofInt n

theorem Decoder.word_ofNat {n : Nat} (h : n ≤ Text.maxWord) (m : Manner) :
    Decoder.word m (Draft.ofJson (.ofNat n)) = .ok n := by
  have low : Text.minSigned ≤ (n : Int) := by
    unfold Text.minSigned
    omega
  have value := Number.int?_ofInt low (by exact_mod_cast h : (n : Int) ≤ Text.maxWord)
  have bounds : (0 : Int) ≤ n ∧ (n : Int) ≤ Text.maxWord := ⟨Int.natCast_nonneg n, mod_cast h⟩
  simp only [word, intWithin, Json.ofNat, Json.int, Draft.ofJson, value, if_pos bounds]
  rfl

/-- What does not fit 64 bits is not read. -/
theorem Decoder.word_of_lt {n : Nat} (h : Text.maxWord < n) (m : Manner) :
    ∃ e, Decoder.word m (Draft.ofJson (.ofNat n)) = .error e := by
  have none : (Number.ofInt n).int? = Option.none := by
    have large : ¬ n ≤ Text.maxWord := Nat.not_le.mpr h
    have whole : ¬ (n : Int) < 0 := Int.not_lt.mpr (Int.natCast_nonneg n)
    simp [Number.int?, Number.ofInt, Text.ofDigits_digits, whole, large]
  refine ⟨(Draft.number (Number.ofInt n)).refusal, ?_⟩
  simp only [word, intWithin, Json.ofNat, Json.int, Draft.ofJson, none]
  rfl

namespace Entity

variable {α : Type} [Wire α] {e : Entity α} {fields : List (String × Json)}

theorem toJson_eq (written : Wire.toJson e.value = .record fields) :
    e.toJson = .record (("id", .text e.id) :: ("version", .ofNat e.version) :: fields) := by
  simp only [toJson, written, Json.fields]

/-- The fields of a value stay beside the identity and the version. -/
theorem filter_others (others : ∀ f ∈ fields, f.1 ≠ "id" ∧ f.1 ≠ "version") :
    (Draft.ofFields fields).filter (fun f => f.1 != some "id" && f.1 != some "version") =
        Draft.ofFields fields ∧
      (Draft.ofFields fields).filter (fun f => f.1 == some "id") = [] ∧
      (Draft.ofFields fields).filter (fun f => f.1 == some "version") = [] := by
  induction fields with
  | nil => exact ⟨rfl, rfl, rfl⟩
  | cons f fs ih =>
    obtain ⟨id, version⟩ := others f List.mem_cons_self
    obtain ⟨kept, ids, versions⟩ := ih fun g hg => others g (List.mem_cons_of_mem f hg)
    refine ⟨?_, ?_, ?_⟩
    · simpa [Draft.ofFields, id, version] using kept
    · simpa [Draft.ofFields, id] using ids
    · simpa [Draft.ofFields, version] using versions

theorem only_id (others : ∀ f ∈ fields, f.1 ≠ "id" ∧ f.1 ≠ "version") (id : String) (j : Json) :
    Draft.only "id" (Draft.ofFields (("id", .text id) :: ("version", j) :: fields)) =
      .ok (.text (some id)) := by
  obtain ⟨-, ids, -⟩ := filter_others others
  simp [Draft.only, Draft.ofFields, ids, Draft.ofJson]

theorem only_version (others : ∀ f ∈ fields, f.1 ≠ "id" ∧ f.1 ≠ "version") (id j : Json) :
    Draft.only "version" (Draft.ofFields (("id", id) :: ("version", j) :: fields)) =
      .ok (Draft.ofJson j) := by
  obtain ⟨-, -, versions⟩ := filter_others others
  simp [Draft.only, Draft.ofFields, versions]

/-- An entity is read back with some containers around it. -/
theorem decodes (written : Wire.toJson e.value = .record fields) (value : Wire.Faithful e.value)
    (others : ∀ f ∈ fields, f.1 ≠ "id" ∧ f.1 ≠ "version") {outer : Nat}
    (room : outer < Draft.nestingLimit)
    (flat : ∀ f ∈ fields, f.2.Gathers (Draft.nestingLimit - outer - 1))
    (version : e.version ≤ Text.maxWord) (m : Manner) :
    Decoder.entity outer Wire.decoder m (Draft.ofJson e.toJson) = .ok e := by
  have whole : (Draft.record (Draft.ofFields (("id", .text e.id) ::
      ("version", .ofNat e.version) :: fields)) .closed).canGather (Draft.nestingLimit - outer) =
        true := by
    have record : (Json.record (("id", .text e.id) :: ("version", .ofNat e.version) ::
        fields)).Gathers (Draft.nestingLimit - outer - 1 + 1) := by
      refine Json.gathers_record ?_
      intro f hf
      rcases List.mem_cons.mp hf with rfl | hf
      · exact Json.gathers_text _ _
      · rcases List.mem_cons.mp hf with rfl | hf
        · exact Json.gathers_ofNat _ version
        · exact flat f hf
    rwa [Nat.sub_add_cancel (Nat.sub_pos_of_lt room)] at record
  have rest : (Draft.ofFields (("id", .text e.id) :: ("version", .ofNat e.version) ::
      fields)).filter (fun f => f.1 != some "id" && f.1 != some "version") =
        Draft.ofFields fields := by
    simpa [Draft.ofFields] using (filter_others others).1
  have decoded := value.decodes .gathered
  have told := Decoder.word_ofNat version .direct
  rw [written] at decoded
  simp only [Draft.ofJson] at decoded
  simp only [toJson_eq written, Draft.ofJson, Decoder.entity, whole, only_id others,
    only_version others, rest]
  change (do
    let version ← Decoder.word .direct (Draft.ofJson (.ofNat e.version))
    let value ← Wire.decoder .gathered (.record (Draft.ofFields fields) .closed)
    return (⟨e.id, version, value⟩ : Entity α)) = .ok e
  rw [told, decoded]
  rfl

/-- An entity whose version does not fit 64 bits is not read. -/
theorem version_le_of_decodes (written : Wire.toJson e.value = .record fields)
    (others : ∀ f ∈ fields, f.1 ≠ "id" ∧ f.1 ≠ "version") {outer : Nat} {m : Manner} {d : Entity α}
    (h : Decoder.entity outer Wire.decoder m (Draft.ofJson e.toJson) = .ok d) :
    e.version ≤ Text.maxWord := by
  by_contra large
  obtain ⟨why, refused⟩ := Decoder.word_of_lt (Nat.not_le.mp large) .direct
  simp only [toJson_eq written, Draft.ofJson, Decoder.entity, only_id others,
    only_version others] at h
  split_ifs at h
  change (do
    let version ← Decoder.word .direct (Draft.ofJson (.ofNat e.version))
    let value ← Wire.decoder .gathered _
    return (⟨e.id, version, value⟩ : Entity α)) = .ok d at h
  rw [refused] at h
  cases h

theorem faithful (written : Wire.toJson e.value = .record fields) (value : Wire.Faithful e.value)
    (others : ∀ f ∈ fields, f.1 ≠ "id" ∧ f.1 ≠ "version")
    (flat : ∀ f ∈ fields, f.2.Gathers (Draft.nestingLimit - 1))
    (version : e.version ≤ Text.maxWord) : Wire.Faithful e where
  proper := by
    have fields_ := value.proper
    rw [written] at fields_
    change e.toJson.Proper
    rw [toJson_eq written]
    exact ⟨trivial, Number.proper_ofNat _, fields_⟩
  decodes := decodes written value others (by decide) flat version

end Entity

end JobDispatch

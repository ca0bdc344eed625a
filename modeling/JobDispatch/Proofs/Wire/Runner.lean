import JobDispatch.Proofs.Wire.Entity
import JobDispatch.Proofs.Wire.Job
import JobDispatch.Wire.Runner

/-!
Runners, what is asked about them, requests for new jobs, and pages of jobs and of runners are read
back as they were written. A time to live has to fit 64 bits for it.
-/

namespace JobDispatch

open Wire (Faithful faithful_text faithful_option faithful_list)

variable {m : Manner}

/-- A whole number that fits 64 bits with a sign. -/
def Text.IsSigned (i : Int) : Prop := Text.minSigned ≤ i ∧ i ≤ Text.maxSigned

instance (i : Int) : Decidable (Text.IsSigned i) := inferInstanceAs (Decidable (_ ∧ _))

theorem Text.IsSigned.natAbs_le {i : Int} (h : Text.IsSigned i) : i.natAbs ≤ Text.maxWord := by
  obtain ⟨low, high⟩ := h
  simp only [Text.minSigned, Text.maxSigned, Text.maxWord] at low high ⊢
  omega

theorem Decoder.signed_int {i : Int} (h : Text.IsSigned i) (m : Manner) :
    Decoder.signed m (Draft.ofJson (.int i)) = .ok i := by
  obtain ⟨low, high⟩ := h
  have word : i ≤ Text.maxWord := by
    simp only [Text.maxSigned, Text.maxWord] at high ⊢
    omega
  have value := Number.int?_ofInt low word
  have bounds : Text.minSigned ≤ i ∧ i ≤ Text.maxSigned := ⟨low, high⟩
  simp only [signed, intWithin, Json.int, Draft.ofJson, value, if_pos bounds]

/-- A time to live, where there is one, fits 64 bits. -/
def LiveFits (ttl : Option Int) : Prop := ∀ seconds ∈ ttl, Text.IsSigned seconds

instance (ttl : Option Int) : Decidable (LiveFits ttl) :=
  inferInstanceAs (Decidable (∀ seconds ∈ ttl, Text.IsSigned seconds))

theorem LiveFits.decodes {ttl : Option Int} (h : LiveFits ttl) (m : Manner) :
    Decoder.option Decoder.signed m (Draft.ofJson (.ofTimeToLive ttl)) = .ok ttl := by
  cases ttl with
  | none => rfl
  | some seconds =>
    have value := Decoder.signed_int (h seconds rfl) m
    simp only [Json.ofTimeToLive, Json.ofOption, Json.int, Draft.ofJson] at value ⊢
    simp only [Decoder.option, value]
    rfl

theorem Json.proper_ofTimeToLive (ttl : Option Int) : (Json.ofTimeToLive ttl).Proper := by
  cases ttl with
  | none => trivial
  | some seconds => exact Number.proper_ofInt seconds

theorem RunnerStatus.faithful (s : RunnerStatus) : Faithful s :=
  ⟨trivial, Wire.choice_name s.lookup_name⟩

theorem Competencies.faithful (c : Competencies) : Faithful c := by
  have texts (xs : List String) : Faithful xs := faithful_list fun s _ => faithful_text s
  have categories : Faithful c.categories := faithful_option fun xs _ => ⟨texts xs, nofun⟩
  have names : Faithful c.names := faithful_option fun xs _ => ⟨texts xs, nofun⟩
  refine ⟨⟨categories.proper, names.proper, trivial⟩, fun m => ?_⟩
  exact Decoder.record_of_sets (.cons (Decoder.read_of (categories.decodes m))
    (.cons (Decoder.read_of (names.decodes m)) .nil)) (by decide) _

theorem Runtime.faithful (r : Runtime) : Faithful r := by
  have status : Faithful r.status := faithful_option fun s _ => ⟨s.faithful, nofun⟩
  have created := Wire.faithful_optionInstant r.created
  have ping := Wire.faithful_optionInstant r.lastPing
  refine ⟨⟨status.proper, created.proper, ping.proper, trivial⟩, fun m => ?_⟩
  exact Decoder.record_of_sets (.cons (Decoder.read_of (status.decodes m))
    (.cons (Decoder.read_of (created.decodes m))
      (.cons (Decoder.read_of (ping.decodes m)) .nil))) (by decide) _

theorem RunnerValue.faithful {v : RunnerValue} (h : LiveFits v.timeToLive) : Faithful v := by
  have callback := Wire.faithful_optionText v.callback
  have competencies : Faithful v.competencies := faithful_option fun c _ => ⟨c.faithful, nofun⟩
  have runtime : Faithful v.runtime := faithful_option fun r _ => ⟨r.faithful, nofun⟩
  refine ⟨⟨callback.proper, Json.proper_ofTimeToLive _, competencies.proper, runtime.proper,
    trivial⟩, fun m => ?_⟩
  exact Decoder.record_of_sets (.cons (Decoder.read_of (callback.decodes m))
    (.cons (Decoder.read_of (h.decodes m)) (.cons (Decoder.read_of (competencies.decodes m))
      (.cons (Decoder.read_of (runtime.decodes m)) .nil)))) (by decide) _

theorem CreateJob.faithful (r : CreateJob) : Faithful r := by
  have name := Wire.faithful_optionText r.name
  have category := Wire.faithful_optionText r.category
  have account := Wire.faithful_optionText r.accountId
  have arguments : Faithful r.arguments := faithful_list fun s _ => faithful_text s
  refine ⟨⟨name.proper, category.proper, account.proper, arguments.proper, trivial⟩, fun m => ?_⟩
  exact Decoder.record_of_sets (.cons (Decoder.read_of (name.decodes m))
    (.cons (Decoder.read_of (category.decodes m)) (.cons (Decoder.read_of (account.decodes m))
      (.cons (Decoder.read_of (arguments.decodes m)) .nil)))) (by decide) _

theorem RegisterRunner.faithful {r : RegisterRunner} (h : LiveFits r.timeToLive) :
    Faithful r := by
  have callback := Wire.faithful_optionText r.callback
  have competencies : Faithful r.competencies := faithful_option fun c _ => ⟨c.faithful, nofun⟩
  refine ⟨⟨callback.proper, Json.proper_ofTimeToLive _, competencies.proper, trivial⟩,
    fun m => ?_⟩
  exact Decoder.record_of_sets (.cons (Decoder.read_of (callback.decodes m))
    (.cons (Decoder.read_of (h.decodes m)) (.cons (Decoder.read_of (competencies.decodes m))
      .nil))) (by decide) _

theorem RunnerStatusPatch.faithful (p : RunnerStatusPatch) : Faithful p := by
  have status := p.status.faithful
  refine ⟨⟨status.proper, trivial⟩, fun m => ?_⟩
  exact Decoder.record_of_sets (.cons (Decoder.read_of (status.decodes m)) .nil) (by decide) _

theorem RunnerCriteria.faithful (c : RunnerCriteria) : Faithful c := by
  have category := Wire.faithful_optionText c.category
  have name := Wire.faithful_optionText c.name
  have status : Faithful c.status := faithful_option fun s _ => ⟨s.faithful, nofun⟩
  refine ⟨⟨category.proper, name.proper, status.proper, trivial⟩, fun m => ?_⟩
  exact Decoder.record_of_sets (.cons (Decoder.read_of (category.decodes m))
    (.cons (Decoder.read_of (name.decodes m)) (.cons (Decoder.read_of (status.decodes m))
      .nil))) (by decide) _

theorem RunnerQuery.faithful (q : RunnerQuery) : Faithful q := by
  have criteria : Faithful q.criteria := faithful_list fun c _ => c.faithful
  refine ⟨⟨criteria.proper, trivial⟩, fun m => ?_⟩
  exact Decoder.record_of_sets (.cons (Decoder.read_of (criteria.decodes m)) .nil) (by decide) _

/-- The fields of a runner can be taken in with two containers around any part. -/
theorem RunnerValue.gathers_fields {v : RunnerValue} (h : LiveFits v.timeToLive) (depth : Nat) :
    ∀ f ∈ (Wire.toJson v).fields, f.2.Gathers (depth + 2) := by
  have text (depth : Nat) (s : String) : (Wire.toJson s).Gathers depth := Json.gathers_text depth s
  have callback : (Wire.toJson v.callback).Gathers (depth + 2) :=
    Json.gathers_ofOption fun s _ => text _ s
  have live : (Json.ofTimeToLive v.timeToLive).Gathers (depth + 2) :=
    Json.gathers_ofOption fun seconds hs => Json.gathers_int _ (h seconds hs).natAbs_le
  have texts (o : Option (List String)) : (Wire.toJson o).Gathers (depth + 1) := by
    refine Json.gathers_ofOption fun xs _ => Json.gathers_list ?_
    intro j hj
    obtain ⟨s, -, rfl⟩ := List.mem_map.mp hj
    exact text depth s
  have competencies : (Wire.toJson v.competencies).Gathers (depth + 2) :=
    Json.gathers_ofOption fun c _ => Json.gathers_record (by simp [texts])
  have status (o : Option RunnerStatus) : (Wire.toJson o).Gathers (depth + 1) :=
    Json.gathers_ofOption fun s _ => text _ s.name
  have instant (o : Option Time.Instant) : (Wire.toJson o).Gathers (depth + 1) :=
    Json.gathers_ofOption fun t _ => text _ _
  have runtime : (Wire.toJson v.runtime).Gathers (depth + 2) :=
    Json.gathers_ofOption fun r _ => Json.gathers_record (by simp [status, instant])
  change ∀ f ∈ [_, _, _, _], _
  simp [callback, live, competencies, runtime]

theorem RunnerValue.fields_others (v : RunnerValue) :
    ∀ f ∈ (Wire.toJson v).fields, f.1 ≠ "id" ∧ f.1 ≠ "version" := by
  change ∀ f ∈ [_, _, _, _], _
  simp

/-- A runner is read back if its version and its time to live fit 64 bits. -/
theorem Entity.faithful_runner {runner : Runner} (version : runner.version ≤ Text.maxWord)
    (live : LiveFits runner.value.timeToLive) : Faithful runner :=
  Entity.faithful rfl (RunnerValue.faithful live) runner.value.fields_others
    (RunnerValue.gathers_fields live 124) version

namespace Page

/-- The bounds of a page fit 64 bits. -/
structure Fits {α : Type} (p : Page α) : Prop where
  start : p.start ≤ Text.maxWord
  stop : p.stop ≤ Text.maxWord
  total : p.total ≤ Text.maxWord

/-- A window of a listing that fits 64 bits does too. -/
theorem Fits.window {α : Type} {all : List α} (length : all.length ≤ Text.maxWord)
    {start stop : Nat} (hstart : start ≤ Text.maxWord) :
    (Page.window all start stop).Fits := by
  unfold Page.window
  split_ifs with empty
  · exact ⟨hstart, hstart, length⟩
  · refine ⟨hstart, ?_, length⟩
    change min stop (all.length - 1) ≤ Text.maxWord
    omega

/-- A page is read back if its items are with two containers around them. -/
theorem faithful {α : Type} [Wire α] {p : Page (Entity α)} (fits : p.Fits)
    (proper : ∀ e ∈ p.items, (Wire.toJson e).Proper)
    (decodes : ∀ m, ∀ e ∈ p.items,
      Decoder.entity 2 Wire.decoder m (Draft.ofJson (Wire.toJson e)) = .ok e) :
    Faithful p := by
  have items : (Wire.toJson p.items).Proper := by
    change Json.ItemsProper (p.items.map Wire.toJson)
    rw [Json.itemsProper_iff]
    intro j hj
    obtain ⟨e, he, rfl⟩ := List.mem_map.mp hj
    exact proper e he
  refine ⟨⟨items, Number.proper_ofNat _, Number.proper_ofNat _, Number.proper_ofNat _, trivial⟩,
    fun m => ?_⟩
  have listed : Decoder.list (Decoder.entity 2 Wire.decoder) m
      (Draft.ofJson (Wire.toJson p.items)) = .ok p.items := Decoder.list_ofList (decodes m)
  have names : ["items", "start", "end", "total"].Nodup := by decide
  exact Decoder.record_of_sets (.cons (Decoder.read_of listed)
    (.cons (Decoder.read_of (Decoder.word_ofNat fits.start m))
      (.cons (Decoder.read_of (Decoder.word_ofNat fits.stop m))
        (.cons (Decoder.read_of (Decoder.word_ofNat fits.total m)) .nil)))) names _

theorem faithful_jobs {p : Page Job} (fits : p.Fits)
    (versions : ∀ e ∈ p.items, e.version ≤ Text.maxWord) : Faithful p := by
  refine faithful fits (fun e _ => e.proper_job) ?_
  intro m e he
  exact Entity.decodes rfl e.value.faithful e.value.fields_others (by decide)
    (e.value.gathers_fields 123) (versions e he) m

theorem faithful_runners {p : Page Runner} (fits : p.Fits)
    (versions : ∀ e ∈ p.items, e.version ≤ Text.maxWord)
    (lives : ∀ e ∈ p.items, LiveFits e.value.timeToLive) : Faithful p := by
  refine faithful fits (fun e he => (Entity.faithful_runner (versions e he) (lives e he)).proper) ?_
  intro m e he
  exact Entity.decodes rfl (RunnerValue.faithful (lives e he)) e.value.fields_others (by decide)
    (RunnerValue.gathers_fields (lives e he) 122) (versions e he) m

end Page

end JobDispatch

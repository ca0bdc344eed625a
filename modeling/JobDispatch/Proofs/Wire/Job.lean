import JobDispatch.Proofs.Text.Utf8
import JobDispatch.Proofs.Wire.Entity
import JobDispatch.Wire.Job

/-!
Jobs, their patches and the queries for them are read back as they were written.
-/

namespace JobDispatch

open Wire (Faithful faithful_text faithful_instant faithful_option faithful_list)

variable {m : Manner}

namespace Wire

theorem faithful_run (s : RunStatus) : Faithful s :=
  ⟨trivial, choice_name s.lookup_name⟩

theorem faithful_exit (s : ExitStatus) : Faithful s :=
  ⟨trivial, choice_name s.lookup_name⟩

theorem faithful_optionText (o : Option String) : Faithful o :=
  faithful_option fun s _ => ⟨faithful_text s, nofun⟩

theorem faithful_optionInstant (o : Option Time.Instant) : Faithful o :=
  faithful_option fun t _ => ⟨faithful_instant t, nofun⟩

end Wire

theorem JobStatus.faithful (s : JobStatus) : Faithful s := by
  have run : Faithful s.run := faithful_option fun r _ => ⟨Wire.faithful_run r, nofun⟩
  have exit : Faithful s.exit := faithful_option fun e _ => ⟨Wire.faithful_exit e, nofun⟩
  refine ⟨⟨run.proper, exit.proper, trivial⟩, fun m => ?_⟩
  exact Decoder.record_of_sets (.cons (Decoder.read_of (run.decodes m))
    (.cons (Decoder.read_of (exit.decodes m)) .nil)) (by decide) _

theorem Processing.faithful (p : Processing) : Faithful p := by
  have submitted := Wire.faithful_optionInstant p.submitted
  have started := Wire.faithful_optionInstant p.started
  have finished := Wire.faithful_optionInstant p.finished
  refine ⟨⟨submitted.proper, started.proper, finished.proper, trivial⟩, fun m => ?_⟩
  exact Decoder.record_of_sets (.cons (Decoder.read_of (submitted.decodes m))
    (.cons (Decoder.read_of (started.decodes m))
      (.cons (Decoder.read_of (finished.decodes m)) .nil))) (by decide) _

theorem JobValue.faithful (v : JobValue) : Faithful v := by
  have name := Wire.faithful_optionText v.name
  have category := Wire.faithful_optionText v.category
  have arguments : Faithful v.arguments := faithful_list fun s _ => faithful_text s
  have result := Wire.faithful_optionText v.result
  have status := v.status.faithful
  have processing := v.processing.faithful
  have account := Wire.faithful_optionText v.accountId
  have accounting (m : Manner) : Decoder.accounting m
      (Draft.ofJson (.record [("account_id", Wire.toJson v.accountId)])) = .ok v.accountId :=
    Decoder.record_of_sets (.cons (Decoder.read_of (account.decodes m)) .nil) (by decide) _
  refine ⟨⟨name.proper, category.proper, arguments.proper, result.proper, status.proper,
    processing.proper, ⟨account.proper, trivial⟩, trivial⟩, fun m => ?_⟩
  exact Decoder.record_of_sets (.cons (Decoder.read_of (name.decodes m))
    (.cons (Decoder.read_of (category.decodes m)) (.cons (Decoder.read_of (arguments.decodes m))
      (.cons (Decoder.read_of (result.decodes m)) (.cons (Decoder.read_of (status.decodes m))
        (.cons (Decoder.read_of (processing.decodes m))
          (.cons (Decoder.read_of (accounting m)) .nil))))))) (by decide) _

/-- A patch is read back if the version that it names fits 64 bits. -/
theorem JobPatch.faithful {p : JobPatch} (h : p.version ≤ Text.maxWord) : Faithful p := by
  have status : Faithful p.status := faithful_option fun s _ => ⟨s.faithful, nofun⟩
  have result := Wire.faithful_optionText p.result
  refine ⟨⟨Number.proper_ofNat _, status.proper, result.proper, trivial⟩, fun m => ?_⟩
  exact Decoder.record_of_sets (.cons (Decoder.read_of (Decoder.word_ofNat h m))
    (.cons (Decoder.read_of (status.decodes m)) (.cons (Decoder.read_of (result.decodes m)) .nil)))
      (by decide) _

theorem JobPatch.proper (p : JobPatch) : (Wire.toJson p).Proper := by
  have status : Faithful p.status := faithful_option fun s _ => ⟨s.faithful, nofun⟩
  exact ⟨Number.proper_ofNat _, status.proper, (Wire.faithful_optionText p.result).proper, trivial⟩

theorem JobCriteria.faithful (c : JobCriteria) : Faithful c := by
  have account := Wire.faithful_optionText c.accountId
  have category := Wire.faithful_optionText c.category
  have names : Faithful c.names := faithful_list fun s _ => faithful_text s
  have run : Faithful c.run := faithful_option fun s _ => ⟨Wire.faithful_run s, nofun⟩
  have exit : Faithful c.exit := faithful_option fun s _ => ⟨Wire.faithful_exit s, nofun⟩
  refine ⟨⟨account.proper, category.proper, names.proper, run.proper, exit.proper, trivial⟩,
    fun m => ?_⟩
  exact Decoder.record_of_sets (.cons (Decoder.read_of (account.decodes m))
    (.cons (Decoder.read_of (category.decodes m)) (.cons (Decoder.read_of (names.decodes m))
      (.cons (Decoder.read_of (run.decodes m)) (.cons (Decoder.read_of (exit.decodes m))
        .nil))))) (by decide) _

theorem JobQuery.faithful (q : JobQuery) : Faithful q := by
  have criteria : Faithful q.criteria := faithful_list fun c _ => c.faithful
  refine ⟨⟨criteria.proper, trivial⟩, fun m => ?_⟩
  exact Decoder.record_of_sets (.cons (Decoder.read_of (criteria.decodes m)) .nil) (by decide) _

/-- A patch is written with at least as many bytes as its result has characters. -/
theorem JobPatch.length_result_le {p : JobPatch} {s : String} (h : p.result = some s) :
    s.toList.length ≤ (Wire.write p).utf8ByteSize := by
  obtain ⟨front, written⟩ : ∃ front, (Wire.toJson p).write = front ++ (Json.quote s ++ ['}']) := by
    refine ⟨'{' :: Json.quote "version" ++ ':' :: (Json.ofNat p.version).write ++
      (',' :: Json.quote "status" ++ ':' :: (Wire.toJson p.status).write ++
        ',' :: Json.quote "result" ++ [':']), ?_⟩
    change Json.write (.record [("version", .ofNat p.version), ("status", Wire.toJson p.status),
      ("result", Json.ofOption Json.text p.result)]) = _
    simp [Json.write, Json.writeFields, h, Json.ofOption]
  have bytes := Text.length_le_utf8ByteSize (Wire.toJson p).write
  have quoted := Json.length_le_quote s
  rw [written, List.length_append, List.length_append] at bytes
  rw [Wire.write, Json.compact, written]
  omega

/-- What is read of a written patch is the patch. -/
theorem JobPatch.eq_of_read {p q : JobPatch} (h : Wire.read (Wire.write p) = .ok q) : q = p := by
  by_cases fits : p.version ≤ Text.maxWord
  · exact Except.ok.inj (h.symm.trans (JobPatch.faithful fits).read_write)
  · obtain ⟨why, refused⟩ := Decoder.word_of_lt (Nat.not_le.mp fits) .direct
    have decoded := (Decoder.run_compact Wire.decoder p.proper).symm.trans h
    have version : (Decoder.Field.of "version" .required Decoder.word
        fun x (p : JobPatch) => { p with version := x }).read .direct
          (Draft.ofJson (.ofNat p.version)) = .error why := by
      simp only [Decoder.Field.of, Decoder.map, refused]
      rfl
    cases (Decoder.record_of_error version _).symm.trans decoded

/-- The fields of a job can be taken in with one container around any part. -/
theorem JobValue.gathers_fields (v : JobValue) (depth : Nat) :
    ∀ f ∈ (Wire.toJson v).fields, f.2.Gathers (depth + 1) := by
  have text (depth : Nat) (o : Option String) : (Wire.toJson o).Gathers depth :=
    Json.gathers_ofOption fun s _ => Json.gathers_text depth s
  have instant (o : Option Time.Instant) : (Wire.toJson o).Gathers depth :=
    Json.gathers_ofOption fun t _ => Json.gathers_text depth _
  have run : (Wire.toJson v.status.run).Gathers depth :=
    Json.gathers_ofOption fun r _ => Json.gathers_text depth _
  have exit : (Wire.toJson v.status.exit).Gathers depth :=
    Json.gathers_ofOption fun e _ => Json.gathers_text depth _
  have arguments : (Wire.toJson v.arguments).Gathers (depth + 1) := by
    refine Json.gathers_list ?_
    intro j hj
    obtain ⟨s, -, rfl⟩ := List.mem_map.mp hj
    exact Json.gathers_text depth s
  have status : (Wire.toJson v.status).Gathers (depth + 1) :=
    Json.gathers_record (by simp [run, exit])
  have processing : (Wire.toJson v.processing).Gathers (depth + 1) :=
    Json.gathers_record (by simp [instant])
  have accounting : (Json.record [("account_id", Wire.toJson v.accountId)]).Gathers (depth + 1) :=
    Json.gathers_record (by simp [text])
  change ∀ f ∈ [_, _, _, _, _, _, _], _
  simp [text, arguments, status, processing, accounting]

theorem JobValue.fields_others (v : JobValue) :
    ∀ f ∈ (Wire.toJson v).fields, f.1 ≠ "id" ∧ f.1 ≠ "version" := by
  change ∀ f ∈ [_, _, _, _, _, _, _], _
  simp

/-- A job is read back if and only if its version fits 64 bits. -/
theorem Entity.faithful_job_iff (job : Job) : Faithful job ↔ job.version ≤ Text.maxWord := by
  constructor
  · intro h
    exact Entity.version_le_of_decodes rfl job.value.fields_others (h.decodes .direct)
  · intro h
    exact Entity.faithful rfl job.value.faithful job.value.fields_others
      (job.value.gathers_fields 125) h

theorem Entity.proper_job (job : Job) : (Wire.toJson job).Proper :=
  ⟨trivial, Number.proper_ofNat _, job.value.faithful.proper⟩

/-- What is read of a written job is the job. -/
theorem Entity.eq_of_read_job {job d : Job} (h : Wire.read (Wire.write job) = .ok d) :
    d = job ∧ job.version ≤ Text.maxWord := by
  have decoded := (Decoder.run_compact Wire.decoder job.proper_job).symm.trans h
  have fits := Entity.version_le_of_decodes rfl job.value.fields_others decoded
  have back := (job.faithful_job_iff.mpr fits).read_write
  exact ⟨Except.ok.inj (h.symm.trans back), fits⟩

end JobDispatch

import JobDispatch.Proofs.Counting
import JobDispatch.Proofs.Registry.Call

/-!
Calls made one after the other, and the log that they leave. The log tells what was last stored
under an identity: it is what is stored there as long as it is not deleted, and every successful
patch was computed from it. A property that whatever is stored under an identity keeps can be ended
by patches of the job itself alone, for the identity is given out once.
-/

namespace JobDispatch

/-- Makes calls as a whole, one after the other. -/
def JobCall.sequence (s : Store JobValue) : List JobCall → List JobReply × Store JobValue
  | [] => ([], s)
  | c :: cs =>
    let (rs, t) := sequence (c.whole s).2 cs
    ((c.whole s).1 :: rs, t)

theorem JobCall.sequence_snoc (s : Store JobValue) (cs : List JobCall) (c : JobCall) :
    sequence s (cs ++ [c]) =
      ((sequence s cs).1 ++ [(c.whole (sequence s cs).2).1], (c.whole (sequence s cs).2).2) := by
  induction cs generalizing s with
  | nil => rfl
  | cons d cs ih => simp [sequence, ih]

/-- What every one of some calls keeps, all of them together keep. -/
theorem JobCall.sequence_keeps {P : Store JobValue → Prop} {cs : List JobCall}
    (keeps : ∀ c ∈ cs, ∀ s, P s → P (c.whole s).2) {s : Store JobValue} (h : P s) :
    P (sequence s cs).2 := by
  induction cs generalizing s with
  | nil => exact h
  | cons c cs ih =>
    have after := keeps c List.mem_cons_self s h
    exact ih (fun d hd => keeps d (List.mem_cons_of_mem c hd)) after

theorem JobCall.sequence_sound {s : Store JobValue} (hs : s.Sound) (cs : List JobCall) :
    (sequence s cs).2.Sound :=
  sequence_keeps (fun c _ t ht => (whole_effect t c).sound ht) hs

theorem JobCall.effect_of_whole {s t : Store JobValue} {c : JobCall} {r : JobReply}
    (h : c.whole s = (r, t)) : c.Effect s r t := by
  have he := whole_effect s c
  rwa [h] at he

/-- Calls with their replies, in the order in which they were made. -/
abbrev JobLog := List (JobCall × JobReply)

namespace JobLog

/-- The log of a sequence of calls that leads from one store to another. -/
inductive Leads (s : Store JobValue) : JobLog → Store JobValue → Prop
  | nil : Leads s [] s
  | snoc {log : JobLog} {t u : Store JobValue} {c : JobCall} {r : JobReply}
      (before : Leads s log t) (last : c.whole t = (r, u)) : Leads s (log ++ [(c, r)]) u

theorem Leads.sequence {s t : Store JobValue} {log : JobLog} (h : Leads s log t) :
    JobCall.sequence s (log.map Prod.fst) = (log.map Prod.snd, t) := by
  induction h with
  | nil => rfl
  | snoc _ last ih => simp [JobCall.sequence_snoc, ih, last]

theorem Leads.sound {s t : Store JobValue} {log : JobLog} (h : Leads s log t) (hs : s.Sound) :
    t.Sound := by
  induction h with
  | nil => exact hs
  | snoc _ last ih => exact (JobCall.effect_of_whole last).sound ih

/-- Every call of a log was made on a store that the calls before it led to. -/
theorem Leads.split {s u : Store JobValue} {before after : JobLog} {c : JobCall} {r : JobReply}
    (h : Leads s (before ++ (c, r) :: after) u) :
    ∃ t v, Leads s before t ∧ c.whole t = (r, v) := by
  generalize hl : before ++ (c, r) :: after = log at h
  induction h generalizing after with
  | nil => simp at hl
  | @snoc log t u d q hb last ih =>
    rcases split_snoc hl.symm with ⟨same, rfl, -⟩ | ⟨after, -, old⟩
    · obtain ⟨rfl, rfl⟩ := Prod.mk.inj same
      exact ⟨t, u, hb, last⟩
    · exact ih old.symm

/-- What was last stored under an identity: the job of the last call that changed it, or what was
there before. -/
def latest (s : Store JobValue) (id : String) (log : JobLog) : Option Job :=
  ((s.retrieve id).toList ++
    log.filterMap fun x => x.2.job?.filter fun job => job.id == id).getLast?

theorem latest_snoc (s : Store JobValue) (id : String) (log : JobLog) (c : JobCall)
    (r : JobReply) :
    latest s id (log ++ [(c, r)]) =
      (r.job?.filter fun job => job.id == id).or (latest s id log) := by
  cases h : r.job?.filter fun job => job.id == id <;>
    simp [latest, List.filterMap_append, h, ← List.append_assoc]

/-- What is stored is what was stored last: no update is lost. -/
theorem Leads.latest_of_retrieve {s t : Store JobValue} {log : JobLog} (h : Leads s log t)
    (hs : s.Sound) (id : String) (job : Job) (stored : t.retrieve id = some job) :
    latest s id log = some job := by
  induction h generalizing job with
  | nil => simp [latest, stored]
  | @snoc log t u c r before last ih =>
    have ht := before.sound hs
    rw [latest_snoc]
    cases JobCall.effect_of_whole last with
    | created now req =>
      rw [Store.retrieve_create] at stored
      split_ifs at stored with hid
      · subst hid
        rw [Store.create_fresh t ht, Option.none_or] at stored
        simp [JobReply.job?, Option.filter_some, ← Option.some.inj stored]
      · rw [Option.or_none] at stored
        simpa [JobReply.job?, Option.filter_some, hid] using ih job stored
    | changed now id' p old value found =>
      rw [Store.retrieve_put] at stored
      obtain ⟨d, hd, rfl⟩ := Option.map_eq_some_iff.mp stored
      by_cases hid : id = id'
      · simp [JobReply.job?, Option.filter_some, hid]
      · simpa [JobReply.job?, Option.filter_some, hid, Ne.symm hid] using ih d hd
    | deleted f =>
      rw [Store.retrieve_deleteFrom t ht, Option.filter_eq_some_iff] at stored
      simpa [JobReply.job?] using ih job stored.1
    | kept c r none => simpa [none] using ih job stored

/-- A successful patch is computed from what was last stored, and its version is the next. -/
theorem Leads.patched {s u : Store JobValue} {before after : JobLog} {now : Time.Instant}
    {id : String} {p : JobPatch} {new : Job} (hs : s.Sound)
    (h : Leads s (before ++ (.patch now id p, .patched (.ok new)) :: after) u) :
    ∃ job, latest s id before = some job ∧ Jobs.checkPatch now job p = .ok new.value ∧
      new.id = id ∧ new.version = job.version + 1 := by
  obtain ⟨t, v, ht, hw⟩ := h.split
  obtain ⟨job, value, stored, accepted, rfl, -⟩ := (JobCall.effect_of_whole hw).of_accepted
  exact ⟨job, ht.latest_of_retrieve hs id job stored, accepted, rfl, rfl⟩

/-- The identities that launches gave, in their order. -/
def launched (log : JobLog) : List String :=
  log.filterMap fun x =>
    match x.2 with
    | .launched (.ok job) => some job.id
    | _ => none

/-- Stored jobs stay in the order in which they were launched. -/
theorem Leads.ids_sublist {s t : Store JobValue} {log : JobLog} (h : Leads s log t) :
    (t.entities.map Entity.id).Sublist (s.entities.map Entity.id ++ log.launched) := by
  induction h with
  | nil => exact List.sublist_append_left _ _
  | @snoc log t u c r before last ih =>
    have snoc : launched (log ++ [(c, r)]) = log.launched ++ launched [(c, r)] :=
      List.filterMap_append
    rw [snoc, ← List.append_assoc]
    cases JobCall.effect_of_whole last with
    | created now req valid =>
      have ids (v : JobValue) : ((t.create v).2.entities.map Entity.id) =
          t.entities.map Entity.id ++ [(t.create v).1.id] := List.map_append
      rw [ids]
      exact ih.append (List.Sublist.refl _)
    | changed now id p old value stored accepted =>
      have ids := Store.replace_ids ⟨id, old.version + 1, value⟩ t.entities
      change ((Store.replace ⟨id, old.version + 1, value⟩ t.entities).map Entity.id).Sublist _
      rw [ids]
      exact ih.trans (List.sublist_append_left _ _)
    | deleted f =>
      have fewer : (t.deleteFrom f).2.entities.Sublist t.entities := List.filter_sublist
      exact (fewer.map Entity.id).trans (ih.trans (List.sublist_append_left _ _))
    | kept c r none => exact ih.trans (List.sublist_append_left _ _)

end JobLog

/-- A property of whatever is stored under an identity that will not be given out any more. -/
structure Lasting (s : Store JobValue) (id : String) (Q : Job → Prop) : Prop where
  issued : ∀ n, s.issued < n → id ≠ Store.idOf s.label n
  stored : ∀ job, s.retrieve id = some job → Q job

variable {s t : Store JobValue} {id : String} {Q : Job → Prop}

theorem lasting_of_retrieve (hs : s.Sound) {job : Job} (found : s.retrieve id = some job)
    (hq : Q job) : Lasting s id Q := by
  obtain ⟨hm, rfl⟩ := Store.retrieve_mem found
  refine ⟨fun n hn => hs.fresh n hn job hm, ?_⟩
  intro d hd
  obtain rfl : job = d := Option.some.inj (found.symm.trans hd)
  exact hq

/-- A call leaves the property if a patch of the job that is accepted does. -/
theorem Lasting.effect (h : Lasting s id Q) (hs : s.Sound) {c : JobCall} {r : JobReply}
    (he : c.Effect s r t)
    (patched : ∀ now p job value, c = .patch now id p → s.retrieve id = some job →
      Jobs.checkPatch now job p = .ok value → Q job → Q ⟨id, job.version + 1, value⟩) :
    Lasting t id Q := by
  cases he with
  | created now req valid =>
    refine ⟨fun n hn => h.issued n (Nat.lt_of_succ_lt hn), ?_⟩
    intro job hjob
    have other : (s.create ((JobCreation.mk req.value).appliedAt now)).1.id ≠ id :=
      Ne.symm (h.issued _ (Nat.lt_succ_self _))
    rw [Store.retrieve_create, if_neg other, Option.or_none] at hjob
    exact h.stored job hjob
  | changed now id' p job value found accepted =>
    refine ⟨h.issued, ?_⟩
    intro new hnew
    rw [Store.retrieve_put] at hnew
    obtain ⟨d, hd, rfl⟩ := Option.map_eq_some_iff.mp hnew
    split_ifs with hid
    · obtain rfl : id = id' := hid
      obtain rfl : job = d := Option.some.inj (found.symm.trans hd)
      exact patched now p job value rfl found accepted (h.stored job found)
    · exact h.stored d hd
  | deleted f =>
    refine ⟨h.issued, ?_⟩
    intro job hjob
    rw [Store.retrieve_deleteFrom s hs, Option.filter_eq_some_iff] at hjob
    exact h.stored job hjob.1
  | kept => exact h

/-- What others ask for leaves the property, as long as they do not patch the job. -/
theorem Lasting.sequence (h : Lasting s id Q) (hs : s.Sound) {cs : List JobCall}
    (alone : ∀ c ∈ cs, ∀ now p, c ≠ .patch now id p) :
    Lasting (JobCall.sequence s cs).2 id Q := by
  have both : (JobCall.sequence s cs).2.Sound ∧ Lasting (JobCall.sequence s cs).2 id Q := by
    refine JobCall.sequence_keeps (P := fun t => t.Sound ∧ Lasting t id Q) ?_ ⟨hs, h⟩
    intro c hc t ⟨ht, lasting⟩
    have effect := JobCall.whole_effect t c
    refine ⟨effect.sound ht, lasting.effect ht effect ?_⟩
    intro now p d value hp
    exact absurd hp (alone c hc now p)
  exact both.2

end JobDispatch

import JobDispatch.Proofs.Registry.Log

/-!
Versions as counts: the version of a stored job tells how often the job was patched. A patch that is
refused leaves it as it is, and no patch succeeds for an identity that is still to be given out.
-/

namespace JobDispatch

namespace JobLog

/-- Whether a call is a patch of the job of an identity that succeeded. -/
def patched (id : String) : JobCall × JobReply → Bool
  | (.patch _ id' _, .patched (.ok _)) => id' == id
  | _ => false

/-- How often a job was patched. -/
def patches (id : String) (log : JobLog) : Nat := log.countP (patched id)

theorem patches_snoc (id : String) (log : JobLog) (x : JobCall × JobReply) :
    patches id (log ++ [x]) = patches id log + if patched id x then 1 else 0 := by
  simp [patches, List.countP_append, List.countP_singleton]

theorem patches_snoc_of_not {id : String} {x : JobCall × JobReply} (h : patched id x = false)
    (log : JobLog) : patches id (log ++ [x]) = patches id log := by
  simp [patches_snoc, h]

theorem patched_of_job_none {c : JobCall} {r : JobReply} (h : r.job? = none) (id : String) :
    patched id (c, r) = false := by
  unfold patched
  split
  · next same =>
    cases same
    cases h
  · rfl

/-- The version that a job had at first; a new job has version 1. -/
def firstVersion (s : Store JobValue) (id : String) : Nat :=
  ((s.retrieve id).map Entity.version).getD 1

/-- The versions after a log: an identity that is still to be given out begins with version 1, and
was not patched. -/
structure Counted (s : Store JobValue) (log : JobLog) (t : Store JobValue) : Prop where
  fresh : ∀ n, t.issued < n → firstVersion s (Store.idOf t.label n) = 1 ∧
    log.patches (Store.idOf t.label n) = 0
  version : ∀ id job, t.retrieve id = some job →
    job.version = firstVersion s id + log.patches id

theorem counted_nil {s : Store JobValue} (hs : s.Sound) : Counted s [] s := by
  refine ⟨?_, ?_⟩
  · intro n hn
    have absent : s.retrieve (Store.idOf s.label n) = none := by
      apply List.find?_eq_none.mpr
      intro e he
      simpa using hs.fresh n hn e he
    exact ⟨by simp [firstVersion, absent], rfl⟩
  · intro id job found
    simp [firstVersion, found, patches]

theorem Counted.snoc {s t u : Store JobValue} {log : JobLog} {c : JobCall} {r : JobReply}
    (h : Counted s log t) (ht : t.Sound) (he : c.Effect t r u) :
    Counted s (log ++ [(c, r)]) u := by
  cases he with
  | created now req valid =>
    refine ⟨?_, ?_⟩
    · intro n hn
      rw [patches_snoc_of_not rfl]
      exact h.fresh n (Nat.lt_of_succ_lt hn)
    · intro id job found
      rw [Store.retrieve_create] at found
      rw [patches_snoc_of_not rfl]
      cases before : t.retrieve id with
      | some d =>
        rw [before, Option.some_or] at found
        exact Option.some.inj found ▸ h.version id d before
      | none =>
        rw [before, Option.none_or] at found
        split_ifs at found with hid
        obtain ⟨first, unpatched⟩ := h.fresh _ (Nat.lt_succ_self t.issued)
        have new : Store.idOf t.label (t.issued + 1) = id := hid
        rw [new] at first unpatched
        rw [← Option.some.inj found, first, unpatched]
        rfl
  | changed now id' p old value stored accepted =>
    refine ⟨?_, ?_⟩
    · intro n hn
      have other : id' ≠ Store.idOf t.label n := by
        obtain ⟨hm, rfl⟩ := Store.retrieve_mem stored
        exact ht.fresh n hn old hm
      have unpatched : patched (Store.idOf t.label n)
          (.patch now id' p, .patched (.ok ⟨id', old.version + 1, value⟩)) = false := by
        simpa [patched] using other
      obtain ⟨first, before⟩ := h.fresh n hn
      exact ⟨first, (patches_snoc_of_not unpatched log).trans before⟩
    · intro id job found
      rw [Store.retrieve_put] at found
      obtain ⟨d, hd, rfl⟩ := Option.map_eq_some_iff.mp found
      have before := h.version id d hd
      rw [patches_snoc, patched]
      by_cases hid : id = id'
      · obtain rfl : old = d := Option.some.inj (stored.symm.trans (hid ▸ hd))
        simp only [hid, beq_self_eq_true, if_true]
        rw [hid] at before
        omega
      · simpa [hid, Ne.symm hid] using before
  | deleted f =>
    refine ⟨?_, ?_⟩
    · intro n hn
      rw [patches_snoc_of_not rfl]
      exact h.fresh n hn
    · intro id job found
      rw [Store.retrieve_deleteFrom t ht, Option.filter_eq_some_iff] at found
      rw [patches_snoc_of_not rfl]
      exact h.version id job found.1
  | kept c r none =>
    refine ⟨?_, ?_⟩
    · intro n hn
      rw [patches_snoc_of_not (patched_of_job_none none _)]
      exact h.fresh n hn
    · intro id job found
      rw [patches_snoc_of_not (patched_of_job_none none id)]
      exact h.version id job found

/-- The version of a job is the one that it had at first, plus the number of its patches. -/
theorem Leads.counted {s t : Store JobValue} {log : JobLog} (h : Leads s log t) (hs : s.Sound) :
    Counted s log t := by
  induction h with
  | nil => exact counted_nil hs
  | snoc before last ih => exact ih.snoc (before.sound hs) (JobCall.effect_of_whole last)

end JobLog

end JobDispatch

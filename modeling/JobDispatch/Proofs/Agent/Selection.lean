import JobDispatch.Proofs.Agent.Rehearsal

/-!
How a desk comes by a job. It asks for candidates once and goes through them in order, each to be
reserved at the version with which it was listed, until the first one that can be had.
-/

namespace JobDispatch.Rehearsal

variable (x : Rehearsal)

/-- An attempt to reserve each of some jobs, in their order. The first attempt meets the outcome of
a number, the next one the outcome after it, and so on. -/
def reservations (first : Nat) : List Job → List DeskStep
  | [] => []
  | c :: cs =>
    .patched c.id ⟨c.version, some ⟨some .running, none⟩, none⟩ (x.outcomes first) ::
      reservations (first + 1) cs

/-- How a search through candidates goes, whose first patch meets the outcome of a number. -/
structure Searches (first : Nat) (cs tried : List Job) (found : Option Job) : Prop where
  begins : tried <+: cs
  /-- a search goes on after an attempt only if that failed -/
  lost : ∀ i, i + 1 < tried.length → ∃ e, x.outcomes (first + i) = .error e
  /-- a search that finds a job ends with the attempt that gave it -/
  found_iff : ∀ job, found = some job ↔
    ∃ i, tried.length = i + 1 ∧ x.outcomes (first + i) = .ok job
  /-- a search that finds nothing tried everything -/
  whole : found = none → tried = cs
  none_iff : found = none ↔ ∀ i < cs.length, ∃ e, x.outcomes (first + i) = .error e

variable {x} {first : Nat} {c : Job} {cs tried : List Job} {found : Option Job}

theorem searches_nil : x.Searches first [] [] none where
  begins := List.prefix_rfl
  lost _ h := absurd h (Nat.not_lt_zero _)
  found_iff job := by simp
  whole _ := rfl
  none_iff := by simp

/-- The first candidate that can be reserved ends the search. -/
theorem searches_of_ok {job : Job} (won : x.outcomes first = .ok job) :
    x.Searches first (c :: cs) [c] (some job) where
  begins := ⟨cs, rfl⟩
  lost i h := absurd h (by simp)
  found_iff other := by
    constructor
    · rintro ⟨⟩
      exact ⟨0, rfl, won⟩
    · rintro ⟨i, last, stored⟩
      obtain rfl : i = 0 := Nat.succ.inj last.symm
      rw [Nat.add_zero, won] at stored
      rw [Except.ok.inj stored]
  whole h := by cases h
  none_iff := by
    refine ⟨nofun, ?_⟩
    intro all
    obtain ⟨e, lost⟩ := all 0 (Nat.succ_pos _)
    rw [Nat.add_zero, won] at lost
    cases lost

/-- A candidate that cannot be reserved is passed over. -/
theorem Searches.cons (h : x.Searches (first + 1) cs tried found) {e : RegistryError}
    (failed : x.outcomes first = .error e) :
    x.Searches first (c :: cs) (c :: tried) found := by
  have next (i : Nat) : first + (i + 1) = first + 1 + i := by omega
  refine ⟨(List.prefix_cons_inj c).mpr h.begins, ?_, ?_, ?_, ?_⟩
  · intro i hi
    cases i with
    | zero => exact ⟨e, failed⟩
    | succ i =>
      rw [next]
      exact h.lost i (Nat.lt_of_succ_lt_succ hi)
  · intro job
    rw [h.found_iff]
    constructor
    · rintro ⟨i, last, stored⟩
      exact ⟨i + 1, congrArg Nat.succ last, (next i).symm ▸ stored⟩
    · rintro ⟨i, last, stored⟩
      cases i with
      | zero =>
        rw [Nat.add_zero, failed] at stored
        cases stored
      | succ i =>
        rw [next] at stored
        exact ⟨i, Nat.succ.inj last, stored⟩
  · intro nothing
    rw [h.whole nothing]
  · rw [h.none_iff]
    constructor
    · intro all i hi
      cases i with
      | zero => exact ⟨e, failed⟩
      | succ i =>
        rw [next]
        exact all i (Nat.lt_of_succ_lt_succ hi)
    · intro all i hi
      rw [← next]
      exact all (i + 1) (Nat.succ_lt_succ hi)

variable (x c cs) (rules : DeskRules) (diary : List DeskStep)

theorem reservation_run : (x.desk.patch c.id (.reserve c.version)).run diary =
    (x.outcomes (diary.countP DeskStep.isPatch),
      diary ++ x.reservations (diary.countP DeskStep.isPatch) [c]) := rfl

/-- How candidates are gone through. -/
theorem reserveFirst_run :
    let first := diary.countP DeskStep.isPatch
    ∃ tried found,
      (x.desk.reserveFirst cs).run diary = (found, diary ++ x.reservations first tried) ∧
        x.Searches first cs tried found := by
  induction cs generalizing diary with
  | nil => exact ⟨[], none, by rw [reservations, List.append_nil]; rfl, searches_nil⟩
  | cons c cs ih =>
    intro first
    have attempt := x.reservation_run c diary
    cases outcome : x.outcomes first with
    | ok job =>
      refine ⟨[c], some job, (run_bind_of_run attempt).trans ?_, searches_of_ok outcome⟩
      rw [outcome]
      rfl
    | error e =>
      obtain ⟨tried, found, run, searches⟩ := ih (diary ++ x.reservations first [c])
      have counted : (diary ++ x.reservations first [c]).countP DeskStep.isPatch = first + 1 := by
        rw [List.countP_append]
        rfl
      rw [counted] at run searches
      refine ⟨c :: tried, found, (run_bind_of_run attempt).trans ?_, searches.cons outcome⟩
      rw [outcome]
      refine run.trans ?_
      rw [List.append_assoc]
      rfl

/-- A desk lists candidates once. If that fails it comes to the error of the listing and patches
nothing. Otherwise it tries to reserve candidates from the beginning of the list, in order and each
at its own version, up to the first that can be had. It comes to the job that this attempt stored,
and to none exactly if the attempts at all candidates failed. -/
theorem nextJob_searches (x : Rehearsal) (rules : DeskRules) :
    ∃ tried r,
      (x.desk.nextJob rules).run [] =
        (r, .listed rules.params rules.window :: x.reservations 0 tried) ∧
      (∀ e, r = .error e ↔ x.candidates = .error e) ∧
      (∀ e, x.candidates = .error e → tried = []) ∧
      ∀ cs, x.candidates = .ok cs → ∃ found, r = .ok found ∧ x.Searches 0 cs tried found := by
  have listed : (x.desk.candidates rules.params rules.window).run [] =
      (x.candidates, [.listed rules.params rules.window]) := rfl
  cases listing : x.candidates with
  | error e =>
    refine ⟨[], .error e, (run_bind_of_run listed).trans ?_, by simp, fun _ _ => rfl, ?_⟩
    · rw [listing]
      rfl
    · rintro cs ⟨⟩
  | ok cs =>
    obtain ⟨tried, found, run, searches⟩ :=
      x.reserveFirst_run cs [.listed rules.params rules.window]
    refine ⟨tried, .ok found, (run_bind_of_run listed).trans ?_, by simp, by simp, ?_⟩
    · rw [listing]
      exact run_bind_of_run run
    · rintro cs ⟨⟩
      exact ⟨found, rfl, searches⟩

end JobDispatch.Rehearsal

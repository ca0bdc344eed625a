import JobDispatch.Proofs.Agent.Fleet
import JobDispatch.Proofs.Agent.Scene

/-!
The account of a fleet. Every successful reservation entitles to one run of the job's processor:
the entitlement goes with the registry's answer to the fiber that asked, from there with the job to
the pool, and to the worker that begins to process it. It gets lost with an answer that nobody waits
for any more, and it is never doubled.
-/

namespace JobDispatch

open Program

/-- The patch that a fiber waits for. -/
def Fiber.patch? (x : Fiber) : Option Nat :=
  match x.program with
  | .asks (.patching ..) _ => x.waits
  | _ => none

/-- Whether a fiber is about to give the job of an identity to its pool. -/
def Fiber.gives (id : String) (x : Fiber) : Bool :=
  match x.program, x.waits with
  | .asks (.giving job) _, none => job.id == id
  | _, _ => false

namespace Fleet

/-- How often the processor of a job began to run. -/
def runs (id : String) (f : Fleet) : Nat := f.begun.countP fun x => x.2.item.id == id

/-- How many runs of a job's processor there were, and how many there may still be without another
reservation. -/
def entitled (id : String) (f : Fleet) : Nat :=
  f.traffic.answered (JobLog.reserved id) (f.fibers.filterMap Fiber.patch?) +
    f.fibers.countP (Fiber.gives id) + (f.agents.map fun a => a.scene.carried id).sum + f.runs id

/-- What keeps the account of a fleet. -/
structure Accounted (f : Fleet) : Prop where
  steady : f.traffic.Steady Registry.empty.jobs.store
  plain : ∀ x ∈ f.traffic.calls, x.1.Plain
  orderly : ∀ x ∈ f.fibers, ∃ held, Orderly (fun _ => none) held x.program
  /-- a fiber waits for the very patch that it asked for, and no other waits for it -/
  asked : ∀ x ∈ f.fibers, ∀ i id p next, x.waits = some i →
    x.program = .asks (.patching id p) next →
    ∃ now at_, f.traffic.calls[i]? = some (.patch now id p, at_)
  distinct : (f.fibers.filterMap Fiber.patch?).Nodup
  covered : ∀ id, f.entitled id ≤ f.traffic.log.reservations id

theorem sound_empty : Registry.empty.jobs.store.Sound := Store.sound_empty "J"

theorem accounted_start (outfits : List Outfit) : (start outfits).Accounted where
  steady := Traffic.steady_start _
  plain x hx := absurd hx List.not_mem_nil
  orderly x hx := absurd hx List.not_mem_nil
  asked x hx := absurd hx List.not_mem_nil
  distinct := List.nodup_nil
  covered id := by
    have idle (o : Outfit) : o.agent.scene.carried id = 0 := by
      simp [Outfit.agent, Scene.carried, Pool.slotted, Pool.ofSize, Worker.ready, Slot.empty,
        Slot.holds]
    have agents : ((start outfits).agents.map fun a => a.scene.carried id).sum = 0 := by
      simp [start, Function.comp_def, idle]
    simp only [entitled, agents]
    simp [start, runs, Traffic.answered]

variable {f : Fleet}

/-- The registry makes a step, or somebody else calls it. -/
theorem Accounted.traffic (h : f.Accounted) (e : TrafficEvent)
    (plain : ∀ c, e = .enter c → c.Plain) :
    { f with traffic := f.traffic.react e }.Accounted where
  steady := h.steady.react sound_empty e
  plain x hx := by
    cases e with
    | enter c =>
      rcases List.mem_append.mp hx with hx | hx
      · exact h.plain x hx
      · rw [List.mem_singleton.mp hx]
        exact plain c rfl
    | advance i =>
      rcases f.traffic.react_advance_cases i with same | ⟨c, at_, after, u, hi, -, moved⟩
      · rw [same] at hx
        exact h.plain x hx
      · rw [moved] at hx
        rcases List.mem_or_eq_of_mem_set hx with hx | rfl
        · exact h.plain x hx
        · have kept := h.plain _ (List.mem_of_getElem? hi)
          exact kept
  orderly := h.orderly
  asked x hx i id p next hw hp := by
    obtain ⟨now, at_, hi⟩ := h.asked x hx i id p next hw hp
    exact ⟨now, Traffic.call_react e hi⟩
  distinct := h.distinct
  covered id := by
    have covered := h.covered id
    cases e with
    | enter c =>
      have entries : (f.traffic.react (.enter c)).entry = f.traffic.entry :=
        funext (Traffic.entry_enter f.traffic c)
      rw [Traffic.log_enter]
      simpa only [entitled, runs, Traffic.answered, entries] using covered
    | advance i =>
      have count := Traffic.answered_advance h.steady (JobLog.reserved id) h.distinct i
      simp only [entitled, runs, JobLog.reservations] at covered ⊢
      omega

/-- A fiber that holds a job is about to give it to its pool, every other one gives nothing. -/
theorem gives_of_orderly {x : Fiber} {held : Option Job} (waits : x.waits = none)
    (h : Orderly (fun _ => none) held x.program) (id : String) :
    x.gives id = held.any fun job => job.id == id := by
  unfold Fiber.gives
  generalize x.program = p at h
  cases h with
  | quiet q next quiet => cases q <;> first | rfl | exact quiet.elim
  | _ => simp [waits]

theorem patch?_of_not_waiting {x : Fiber} (waits : x.waits = none) : x.patch? = none := by
  unfold Fiber.patch?
  split
  · exact waits
  · rfl

theorem gives_of_waiting {x : Fiber} {i : Nat} (waits : x.waits = some i) (id : String) :
    x.gives id = false := by
  unfold Fiber.gives
  rw [waits]
  split
  · next h => cases h
  · rfl

/-- Fibers that begin, and hold nothing, entitle to nothing. -/
theorem Accounted.begin (h : f.Accounted) (xs : List Fiber)
    (fresh : ∀ x ∈ xs, x.waits = none ∧ Orderly (fun _ => none) none x.program) :
    { f with fibers := f.fibers ++ xs }.Accounted := by
  have patches : xs.filterMap Fiber.patch? = [] :=
    List.filterMap_eq_nil_iff.mpr fun x hx => patch?_of_not_waiting (fresh x hx).1
  have gives (id : String) : xs.countP (Fiber.gives id) = 0 :=
    List.countP_eq_zero.mpr fun x hx => by
      simp [gives_of_orderly (fresh x hx).1 (fresh x hx).2]
  refine ⟨h.steady, h.plain, ?_, ?_, ?_, ?_⟩
  · intro x hx
    rcases List.mem_append.mp hx with hx | hx
    · exact h.orderly x hx
    · exact ⟨none, (fresh x hx).2⟩
  · intro x hx i id p next hw
    rcases List.mem_append.mp hx with hx | hx
    · exact h.asked x hx i id p next hw
    · rw [(fresh x hx).1] at hw
      cases hw
  · simpa [List.filterMap_append, patches] using h.distinct
  · intro id
    simpa [entitled, runs, List.filterMap_append, patches, List.countP_append, gives]
      using h.covered id

/-- Nothing else matters than what the fibers and the calls are, and what is entitled. -/
theorem Accounted.of_entitled {g : Fleet} (h : f.Accounted) (traffic : g.traffic = f.traffic)
    (fibers : g.fibers = f.fibers) (entitled : ∀ id, g.entitled id ≤ f.entitled id) :
    g.Accounted where
  steady := traffic ▸ h.steady
  plain := traffic ▸ h.plain
  orderly := fibers ▸ h.orderly
  asked := by
    rw [traffic, fibers]
    exact h.asked
  distinct := fibers ▸ h.distinct
  covered id := by
    rw [traffic]
    exact (entitled id).trans (h.covered id)

theorem Accounted.patch_lt (h : f.Accounted) {i : Nat}
    (hi : i ∈ f.fibers.filterMap Fiber.patch?) : i < f.traffic.calls.length := by
  obtain ⟨x, hx, hp⟩ := List.mem_filterMap.mp hi
  unfold Fiber.patch? at hp
  split at hp
  · next id p next program =>
    obtain ⟨now, at_, hc⟩ := h.asked x hx i id p next hp program
    exact (List.getElem?_eq_some_iff.mp hc).1
  · cases hp

/-- A fiber goes on. What it is entitled to afterwards, its pool included, has to come from what it
was entitled to before. -/
theorem Accounted.set (h : f.Accounted) {n : Nat} {x : Fiber} (hx : f.fibers[n]? = some x)
    (y : Fiber) (agents : List Agent)
    (orderly : ∃ held, Orderly (fun _ => none) held y.program)
    (asked : ∀ i id p next, y.waits = some i → y.program = .asks (.patching id p) next →
      ∃ now at_, f.traffic.calls[i]? = some (.patch now id p, at_))
    (fresh : ∀ i ∈ y.patch?.toList, i ∉ f.fibers.filterMap Fiber.patch?)
    (entitled : ∀ id,
      f.traffic.answered (JobLog.reserved id) y.patch?.toList + (y.gives id).toNat +
          (agents.map fun a => a.scene.carried id).sum ≤
        f.traffic.answered (JobLog.reserved id) x.patch?.toList + (x.gives id).toNat +
          (f.agents.map fun a => a.scene.carried id).sum) :
    { f with agents, fibers := f.fibers.set n y }.Accounted := by
  have perm := filterMap_set_perm Fiber.patch? hx y
  refine ⟨h.steady, h.plain, ?_, ?_, ?_, ?_⟩
  · intro z hz
    rcases List.mem_or_eq_of_mem_set hz with hz | rfl
    · exact h.orderly z hz
    · exact orderly
  · intro z hz
    rcases List.mem_or_eq_of_mem_set hz with hz | rfl
    · exact h.asked z hz
    · exact asked
  · have nodup : (y.patch?.toList ++ f.fibers.filterMap Fiber.patch?).Nodup := by
      refine List.nodup_append.mpr ⟨?_, h.distinct, ?_⟩
      · cases y.patch? <;> simp
      · intro i hi j hj hij
        exact fresh i hi (hij ▸ hj)
    exact (List.nodup_append.mp (perm.nodup_iff.mpr nodup)).2.1
  · intro id
    have patches := Traffic.answered_perm (t := f.traffic) (p := JobLog.reserved id) perm
    have gives := countP_set_getElem? (Fiber.gives id) hx y
    have covered := h.covered id
    have entitled := entitled id
    rw [Traffic.answered_append, Traffic.answered_append] at patches
    simp only [Fleet.entitled, runs] at covered ⊢
    omega

end Fleet

end JobDispatch

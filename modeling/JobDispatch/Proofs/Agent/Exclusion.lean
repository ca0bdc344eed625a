import JobDispatch.Proofs.Agent.Account

/-!
Mutual exclusion in a fleet: whatever happens, the account of the fleet is kept, and so no job is
reserved twice and none is processed twice.
-/

namespace JobDispatch

open Program

namespace Fleet

variable {f : Fleet}

theorem entry_of_reply {x : Fiber} {r : JobReply} (h : f.reply x = some r) :
    ∃ i c, x.waits = some i ∧ f.traffic.entry i = some (c, r) := by
  simp only [reply, Option.bind_eq_bind, Option.bind_eq_some_iff] at h
  obtain ⟨i, hw, ⟨c, r'⟩, he, hr⟩ := h
  obtain rfl : r' = r := by simpa using hr
  exact ⟨i, c, hw, he⟩

theorem answer_patching {x : Fiber} {hint : Hint} {id : String} {p : JobPatch}
    {a : Except RegistryError Job} (h : f.answer x hint (.patching id p) = some a) :
    (∃ e, a = .error e) ∨ ∃ r, f.reply x = some (.patched r) ∧ a = r.mapError .ofJob := by
  simp only [answer] at h
  split at h
  · obtain ⟨i, -, rfl⟩ := Option.map_eq_some_iff.mp h
    exact .inl ⟨_, rfl⟩
  · next r _ hr => exact .inr ⟨r, hr, (Option.some.inj h).symm⟩
  · cases h

theorem answer_processing {x : Fiber} {hint : Hint} {job : Job} {how : Processed}
    (h : f.answer x hint (.processing job) = some how) : how.isDone := by
  cases hint with
  | processed how' =>
    simp only [answer] at h
    split_ifs at h with done
    exact Option.some.inj h ▸ done
  | _ => cases h

/-- After an answer a fiber holds a job only if the registry reserved the job for it. -/
theorem Accounted.answer (h : f.Accounted) {x : Fiber} (hx : x ∈ f.fibers) {q : Ask}
    {next : q.Answer → Program (Option Outcome)} (hp : x.program = .asks q next) {hint : Hint}
    {a : q.Answer} (ha : f.answer x hint q = some a) :
    ∃ held, Orderly (fun _ => none) held (next a) ∧ ∀ id, (held.any fun job => job.id == id).toNat ≤
      f.traffic.answered (JobLog.reserved id) x.patch?.toList := by
  obtain ⟨held, o⟩ := h.orderly x hx
  rw [hp] at o
  cases o with
  | reserving id v next got lost =>
    rcases answer_patching ha with ⟨e, rfl⟩ | ⟨r, hr, rfl⟩
    · exact ⟨none, lost e, fun _ => Nat.zero_le _⟩
    · cases r with
      | error e => exact ⟨none, lost _, fun _ => Nat.zero_le _⟩
      | ok job =>
        refine ⟨some job, got job, ?_⟩
        intro id'
        obtain ⟨i, c, hw, he⟩ := entry_of_reply hr
        obtain ⟨now, at_, hi⟩ := h.asked x hx i id _ next hw hp
        -- the reply is one to the patch that was asked for
        obtain ⟨at', hi'⟩ := Traffic.call_of_entry he
        obtain rfl : c = .patch now id (.reserve v) :=
          (Prod.mk.inj (Option.some.inj (hi'.symm.trans hi))).1
        have hid := Traffic.patched_id h.steady sound_empty he
        have patch : x.patch? = some i := by rw [Fiber.patch?, hp]; exact hw
        rw [patch, Option.toList_some, Traffic.answered_singleton he]
        simp [JobLog.reserved, JobPatch.reserves, JobPatch.reserve, hid]
  | reporting id p next done after => exact ⟨none, after a, fun _ => Nat.zero_le _⟩
  | giving job next after => exact ⟨none, after a, fun _ => Nat.zero_le _⟩
  | processing job next after =>
    exact ⟨none, after a (answer_processing ha), fun _ => Nat.zero_le _⟩
  | quiet q next quiet after => exact ⟨none, after a, fun _ => Nat.zero_le _⟩

/-- A fiber is answered and goes on. -/
theorem Accounted.hears (h : f.Accounted) {n : Nat} {x : Fiber} (hx : f.fibers[n]? = some x)
    {q : Ask} {next : q.Answer → Program (Option Outcome)} (hp : x.program = .asks q next)
    {hint : Hint} {a : q.Answer} (ha : f.answer x hint q = some a) :
    { f with
      fibers := f.fibers.set n { x with program := next a, waits := none } }.Accounted := by
  obtain ⟨held, orderly, entitled⟩ := h.answer (List.mem_of_getElem? hx) hp ha
  generalize hy : ({ x with program := next a, waits := none } : Fiber) = y
  have waits : y.waits = none := by rw [← hy]
  have goes_on : Orderly (fun _ => none) held y.program := by rw [← hy]; exact orderly
  have nothing := patch?_of_not_waiting waits
  refine h.set hx y f.agents ⟨held, goes_on⟩ ?_ ?_ ?_
  · intro i id p next' hw
    rw [waits] at hw
    cases hw
  · intro i hi
    rw [nothing] at hi
    cases hi
  · intro id
    have entitled := entitled id
    have none_answered : f.traffic.answered (JobLog.reserved id) y.patch?.toList = 0 := by
      rw [nothing]
      rfl
    rw [gives_of_orderly waits goes_on, none_answered]
    omega

/-- What an orderly program asks of the registry is plain. -/
theorem plain_of_call {q : Ask} {held : Option Job} {next : q.Answer → Program (Option Outcome)}
    (h : Orderly (fun _ => none) held (.asks q next)) {now : Time.Instant} {c : JobCall}
    (hc : q.call? now = some c) : c.Plain := by
  cases h with
  | reserving id v next got lost =>
    cases hc
    exact .inl (beq_self_eq_true _)
  | reporting id p next done after =>
    cases hc
    exact .inr done
  | giving job next after => cases hc
  | processing job next after => cases hc
  | quiet q next quiet after =>
    cases q with
    | listing params window =>
      cases window with
      | zero => cases hc
      | succ n => cases hc; trivial
    | patching id p => exact quiet.elim
    | _ => cases hc

/-- A fiber asks the registry. -/
theorem Accounted.call (h : f.Accounted) {n : Nat} {x : Fiber} (hx : f.fibers[n]? = some x)
    {q : Ask} {next : q.Answer → Program (Option Outcome)} (hp : x.program = .asks q next)
    {now : Time.Instant} {c : JobCall} (hc : q.call? now = some c) :
    { f with
      traffic := f.traffic.react (.enter c)
      fibers := f.fibers.set n { x with waits := some f.traffic.calls.length } }.Accounted := by
  obtain ⟨held, orderly⟩ := h.orderly x (List.mem_of_getElem? hx)
  have plain := plain_of_call (hp ▸ orderly) hc
  have entered := h.traffic (.enter c) fun d hd => by cases hd; exact plain
  generalize hlen : f.traffic.calls.length = len
  generalize hy : ({ x with waits := some len } : Fiber) = y
  have waits : y.waits = some len := by rw [← hy]
  have program : y.program = x.program := by rw [← hy]
  have here : (f.traffic.react (.enter c)).calls[len]? = some (c, .entered) := by
    simp [Traffic.react, ← hlen]
  have patch (i : Nat) (hi : i ∈ y.patch?.toList) : i = len := by
    unfold Fiber.patch? at hi
    split at hi
    · simpa [waits] using hi
    · cases hi
  refine entered.set hx y f.agents ⟨held, program ▸ orderly⟩ ?_ ?_ ?_
  · intro i id p next' hzw hzp
    obtain rfl : len = i := Option.some.inj (waits.symm.trans hzw)
    rw [program, hp] at hzp
    cases hzp
    cases hc
    exact ⟨now, .entered, here⟩
  · intro i hi hm
    have := h.patch_lt hm
    have := patch i hi
    omega
  · intro id
    -- the call has only just entered
    have open_ := Traffic.entry_eq_some here
    have silent :
        (f.traffic.react (.enter c)).answered (JobLog.reserved id) y.patch?.toList = 0 := by
      unfold Traffic.answered
      rw [List.filterMap_eq_nil_iff.mpr fun i hi => by rw [patch i hi, open_]; rfl]
      rfl
    rw [silent, gives_of_waiting waits id]
    simp

theorem carried_join (a : Agent) (role : Role) (id : String) :
    (a.join role).scene.carried id =
      a.scene.carried id + (Thread.brings id ⟨[], role⟩).toNat := by
  simp only [Agent.join, Scene.carried, List.countP_append, countP_singleton_toNat]
  omega

/-- A fiber gives a job to its pool. -/
theorem Accounted.give (h : f.Accounted) {n : Nat} {x : Fiber} (hx : f.fibers[n]? = some x)
    (hw : x.waits = none) {job : Job} {next : Except PoolError Unit → Program (Option Outcome)}
    (hp : x.program = .asks (.giving job) next) {a : Agent} (ha : f.agents[x.agent]? = some a)
    (reason : String) (k : Nat) :
    { f with
      agents := f.agents.set x.agent (a.join (.give ⟨job, reason⟩ .entering))
      fibers := f.fibers.set n { x with waits := some k } }.Accounted := by
  obtain ⟨held, orderly⟩ := h.orderly x (List.mem_of_getElem? hx)
  generalize hy : ({ x with waits := some k } : Fiber) = y
  have waits : y.waits = some k := by rw [← hy]
  have program : y.program = x.program := by rw [← hy]
  have nothing : y.patch? = none := by rw [Fiber.patch?, program, hp]
  refine h.set hx y _ ⟨held, program ▸ orderly⟩ ?_ ?_ ?_
  · intro i id p next' hzw hzp
    rw [program, hp] at hzp
    cases hzp
  · intro i hi
    rw [nothing] at hi
    cases hi
  · intro id
    have carried := sum_map_set_getElem? (fun a => a.scene.carried id) ha
      (a.join (.give ⟨job, reason⟩ .entering))
    have given : x.gives id = (job.id == id) := by rw [Fiber.gives, hp, hw]
    have none_answered : f.traffic.answered (JobLog.reserved id) y.patch?.toList = 0 := by
      rw [nothing]
      rfl
    rw [carried_join] at carried
    rw [none_answered, gives_of_waiting waits id, given]
    simp only [Thread.brings, Giving.brings, Bool.toNat_false] at carried ⊢
    omega

theorem Accounted.ask (h : f.Accounted) {n : Nat} {x : Fiber} (hx : f.fibers[n]? = some x)
    (hw : x.waits = none) {q : Ask} {next : q.Answer → Program (Option Outcome)}
    (hp : x.program = .asks q next) (now : Time.Instant) : (f.ask n x q now).Accounted := by
  unfold Fleet.ask
  split
  · next c hc => exact h.call hx hp hc
  · next job a hc hj ha =>
    cases q with
    | giving job' =>
      cases hj
      exact h.give hx hw hp ha "reserved" _
    | _ => cases hj
  · exact h

/-- A thread that begins neither to bring a job nor to process one changes no entitlement. -/
theorem Accounted.join (h : f.Accounted) {n : Nat} {a : Agent} (ha : f.agents[n]? = some a)
    {role : Role} (idle : ∀ id, Thread.brings id ⟨[], role⟩ = false) :
    { f with agents := f.agents.set n (a.join role) }.Accounted := by
  refine h.of_entitled rfl rfl ?_
  intro id
  have carried := sum_map_set_getElem? (fun a => a.scene.carried id) ha (a.join role)
  rw [carried_join, idle] at carried
  simp only [entitled, runs, Bool.toNat_false] at carried ⊢
  omega

theorem countP_begun (id : String) (events : List PoolEvent) :
    (events.filterMap PoolEvent.begun?).countP (fun s => s.item.id == id) =
      events.countP (PoolEvent.begins id) := by
  rw [List.countP_filterMap]
  congr 1
  funext e
  cases e <;> rfl

/-- A pool goes on. -/
theorem Accounted.move (h : f.Accounted) {n thread : Nat} {a : Agent}
    (ha : f.agents[n]? = some a) {turn : Turn} {s : Scene} {events : List PoolEvent}
    (hs : a.scene.step thread turn = some (s, events)) :
    (f.move n a thread s events).Accounted := by
  have moved : { f with
      agents := f.agents.set n { a with scene := s }
      begun := f.begun ++ (events.filterMap PoolEvent.begun?).map fun s => (n, s) }.Accounted := by
    refine h.of_entitled rfl rfl ?_
    intro id
    have carried := sum_map_set_getElem? (fun a => a.scene.carried id) ha { a with scene := s }
    have step := Scene.step_carried id hs
    have runs : ((events.filterMap PoolEvent.begun?).map fun s => (n, s)).countP
        (fun x => x.2.item.id == id) = events.countP (PoolEvent.begins id) := by
      rw [List.countP_map, ← countP_begun]
      rfl
    simp only [entitled, Fleet.runs, List.countP_append, runs] at carried ⊢
    omega
  refine moved.begin _ ?_
  intro x hx
  obtain ⟨job, -, rfl⟩ := List.mem_map.mp hx
  exact ⟨rfl, (orderly_handle a.rules job.item).bind fun o => .ends (some o)⟩

theorem Accounted.react (h : f.Accounted) (e : FleetEvent) : (f.react e).Accounted := by
  cases e with
  | launches now req => exact h.traffic _ fun c hc => by cases hc; trivial
  | cleans filter => exact h.traffic _ fun c hc => by cases hc; trivial
  | serves i => exact h.traffic _ fun c hc => by cases hc
  | polls n =>
    simp only [Fleet.react]
    cases f.agents[n]? with
    | none => exact h
    | some a =>
      refine h.begin _ ?_
      intro x hx
      rw [List.mem_singleton.mp hx]
      exact ⟨rfl, (orderly_poll a.rules _).bind fun _ => .ends none⟩
  | opens n =>
    simp only [Fleet.react]
    cases ha : f.agents[n]? with
    | none => exact h
    | some a => exact h.join ha fun id => rfl
  | closes n =>
    simp only [Fleet.react]
    cases ha : f.agents[n]? with
    | none => exact h
    | some a => exact h.join ha fun id => rfl
  | moves n thread turn =>
    simp only [Fleet.react]
    cases ha : f.agents[n]? with
    | none => exact h
    | some a =>
      cases hs : if f.permits n thread turn then a.scene.step thread turn else none with
      | none => simpa only [hs] using h
      | some r =>
        simp only [hs]
        split_ifs at hs
        exact h.move ha hs
  | asks n now =>
    simp only [Fleet.react]
    cases hx : f.fibers[n]? with
    | none => exact h
    | some x =>
      cases hw : x.waits with
      | some i => simpa only [hw] using h
      | none =>
        cases hp : x.program with
        | ends o => simpa only [hw, hp] using h
        | asks q next => simpa only [hw, hp] using h.ask hx hw hp now
  | hears n hint =>
    simp only [Fleet.react]
    cases hx : f.fibers[n]? with
    | none => exact h
    | some x =>
      cases hp : x.program with
      | ends o => simpa only [hp] using h
      | asks q next =>
        cases ha : f.answer x hint q with
        | none => simpa only [hp, ha] using h
        | some a =>
          simp only [hp, ha]
          exact h.hears hx hp ha

theorem accounted_run (outfits : List Outfit) (es : List FleetEvent) :
    (run outfits es).Accounted := by
  unfold run
  generalize hf : start outfits = f
  have h : f.Accounted := hf ▸ accounted_start outfits
  clear hf
  induction es generalizing f with
  | nil => exact h
  | cons e es ih => exact ih (f.react e) (h.react e)

/-- However runners, registry and network go on, at most one reservation of a job succeeds, and
its processor runs at most once, for the reservation. -/
theorem run_exclusive (outfits : List Outfit) (es : List FleetEvent) (id : String) :
    (run outfits es).traffic.log.reservations id ≤ 1 ∧
      (run outfits es).runs id ≤ (run outfits es).traffic.log.reservations id := by
  have h := accounted_run outfits es
  refine ⟨?_, ?_⟩
  · have plain (x : JobCall × JobReply) (hx : x ∈ (run outfits es).traffic.log) : x.1.Plain := by
      obtain ⟨i, -, hi⟩ := List.mem_filterMap.mp hx
      obtain ⟨at_, hc⟩ := Traffic.call_of_entry hi
      exact h.plain _ (List.mem_of_getElem? hc)
    rcases h.steady.leads.reservations_cases sound_empty plain id with none | ⟨one, -⟩ <;> omega
  · exact (Nat.le_add_left _ _).trans (h.covered id)

-- two runners find the same job; the second one reserves it and begins to process it
example :
    let o : Outfit := ⟨⟨.blank, 1, 1, ⟨0, 0⟩⟩, 1, []⟩
    let request : CreateJob := ⟨some "n", some "c", some "a", []⟩
    let work (n : Nat) : List FleetEvent := List.replicate 6 (.moves 1 n .go)
    let race : List FleetEvent :=
      [.polls 0, .polls 1, .hears 0 .go, .hears 1 .go, .asks 0 .epoch, .asks 1 .epoch,
        .serves 1, .serves 2, .hears 0 .go, .hears 1 .go, .asks 0 .epoch, .asks 1 .epoch,
        .serves 3, .serves 4, .serves 4, .serves 3, .hears 0 .go, .hears 1 .go, .asks 1 .epoch]
    let f := run [o, o]
      ([.launches .epoch request, .serves 0, .opens 1] ++ work 0 ++ race ++ work 2 ++ work 1)
    f.traffic.log.reservations "J1" = 1 ∧
      f.begun.map (fun x => (x.1, x.2.item.id)) = [(1, "J1")] := by
  decide +kernel

end Fleet

end JobDispatch

import JobDispatch.Proofs.Counting
import JobDispatch.Proofs.Registry.Log

/-!
Traffic: calls of the registry that go on at the same time, whose steps are mixed in every way.
Whatever the order of the steps, the replies and the stored jobs are those of the same calls made
as a whole, one after the other, in the order of their last steps.
-/

namespace JobDispatch

def CallAt.reply? : CallAt → Option JobReply
  | returned r => some r
  | _ => none

/-- Calls over a store, each known by its position. -/
structure Traffic where
  store : Store JobValue
  calls : List (JobCall × CallAt)
  /-- the calls that have returned, in the order of their last steps -/
  order : List Nat

inductive TrafficEvent where
  /-- a new call begins -/
  | enter (c : JobCall)
  /-- the call at a position makes its next step -/
  | advance (i : Nat)

namespace Traffic

def start (s : Store JobValue) : Traffic := ⟨s, [], []⟩

/-- What an event makes of the traffic; a call that has returned makes no more steps. -/
def react (t : Traffic) : TrafficEvent → Traffic
  | .enter c => { t with calls := t.calls ++ [(c, .entered)] }
  | .advance i =>
    match t.calls[i]? with
    | none => t
    | some (c, at_) =>
      match c.step t.store at_ with
      | none => t
      | some (at_, store) =>
        ⟨store, t.calls.set i (c, at_), if at_.reply?.isSome then t.order ++ [i] else t.order⟩

def run (s : Store JobValue) (es : List TrafficEvent) : Traffic := es.foldl react (start s)

/-- The call at a position with its reply, if it has returned. -/
def entry (t : Traffic) (i : Nat) : Option (JobCall × JobReply) := do
  let (c, at_) ← t.calls[i]?
  return (c, ← at_.reply?)

/-- The calls that have returned, in the order of their last steps. -/
def log (t : Traffic) : JobLog := t.order.filterMap t.entry

/-- Traffic that came from a store as if the calls had been made one after the other. -/
structure Serial (s : Store JobValue) (t : Traffic) : Prop where
  /-- every call that has returned has its place in the order, and one only -/
  nodup : t.order.Nodup
  returned : ∀ i, i ∈ t.order ↔ (t.entry i).isSome
  /-- the replies and the store are those of the calls made as a whole, in that order -/
  sequence : JobCall.sequence s (t.log.map Prod.fst) = (t.log.map Prod.snd, t.store)
  /-- a patch that succeeds is computed from what was last stored before it, under the next
  version -/
  patched : ∀ (before after : JobLog) (now : Time.Instant) (id : String) (p : JobPatch)
    (new : Job), t.log = before ++ (.patch now id p, .patched (.ok new)) :: after →
    ∃ job, before.latest s id = some job ∧ Jobs.checkPatch now job p = .ok new.value ∧
      new.id = id ∧ new.version = job.version + 1
  /-- what is stored is what was last stored -/
  kept : ∀ (id : String) (job : Job), t.store.retrieve id = some job →
    t.log.latest s id = some job

/-- What keeps traffic serial: a patch between its steps holds a job that is stored or was, so
that its version tells whether it is stored still. -/
structure Steady (s : Store JobValue) (t : Traffic) : Prop where
  nodup : t.order.Nodup
  returned : ∀ i, i ∈ t.order ↔ (t.entry i).isSome
  leads : JobLog.Leads s t.log t.store
  held : ∀ (i : Nat) (c : JobCall) (job : Job) (value : JobValue),
    t.calls[i]? = some (c, .checked job value) →
    ∃ now p, c = .patch now job.id p ∧ t.store.Known job ∧
      Jobs.checkPatch now job p = .ok value

end Traffic

namespace JobCall

/-- A patch that holds a job leaves the store as it is, and the job is stored. -/
theorem step_checked {s t : Store JobValue} {c : JobCall} {at_ : CallAt} {job : Job}
    {value : JobValue} (h : c.step s at_ = some (.checked job value, t)) :
    t = s ∧ ∃ now p, c = .patch now job.id p ∧ s.retrieve job.id = some job ∧
      Jobs.checkPatch now job p = .ok value := by
  cases at_ with
  | entered =>
    cases c with
    | patch now id p =>
      simp only [step, check, Jobs.get_perform, Option.some.injEq] at h
      cases hr : s.retrieve id with
      | none => simp [hr] at h
      | some d =>
        cases hc : Jobs.checkPatch now d p with
        | error e => simp [hr, hc] at h
        | ok v =>
          simp only [hr, hc, Prod.mk.injEq, CallAt.checked.injEq] at h
          obtain ⟨⟨rfl, rfl⟩, rfl⟩ := h
          obtain ⟨-, rfl⟩ := Store.retrieve_mem hr
          exact ⟨rfl, now, p, rfl, hr, hc⟩
    | _ => simp [step] at h
  | checked d v => simp [step] at h
  | returned r => simp [step] at h

theorem step_ne_entered (s t : Store JobValue) (c : JobCall) (at_ : CallAt) :
    c.step s at_ ≠ some (.entered, t) := by
  cases at_ with
  | entered =>
    cases c with
    | patch now id p =>
      simp only [step, check, Jobs.get_perform]
      cases s.retrieve id with
      | none => simp
      | some d => cases hc : Jobs.checkPatch now d p <;> simp [hc]
    | _ => simp [step]
  | checked d v => simp [step]
  | returned r => simp [step]

/-- With its last step a call does what the whole of it would do at that moment. -/
theorem step_returned {s t : Store JobValue} {c : JobCall} {at_ : CallAt} {r : JobReply}
    (held : ∀ job value, at_ = .checked job value →
      ∃ now p, c = .patch now job.id p ∧ s.Known job ∧ Jobs.checkPatch now job p = .ok value)
    (h : c.step s at_ = some (.returned r, t)) : c.whole s = (r, t) := by
  cases at_ with
  | entered =>
    cases c with
    | patch now id p =>
      simp only [step, check, Jobs.get_perform, Option.some.injEq] at h
      rw [patch_whole]
      cases hr : s.retrieve id with
      | none => simpa [hr] using h
      | some d =>
        cases hc : Jobs.checkPatch now d p with
        | error e => simpa [hr, hc] using h
        | ok v => simp [hr, hc] at h
    | _ => simpa [step, Prod.ext_iff] using h
  | checked job value =>
    obtain ⟨now, p, rfl, known, accepted⟩ := held job value rfl
    have version := ((Jobs.checkPatch_eq_ok_iff now job p value).mp accepted).1
    simp only [step, answer, Jobs.update_perform, Option.some.injEq, Prod.mk.injEq,
      CallAt.returned.injEq] at h
    rw [patch_whole]
    cases hr : s.retrieve job.id with
    | none => simpa [Store.update, hr, JobError.ofStore] using h
    | some d =>
      rw [Store.update_eq s job d value hr] at h
      by_cases hv : d.version = job.version
      · obtain rfl := known.eq_of_version hr hv
        simpa [accepted] using h
      · have refused : Jobs.checkPatch now d p =
            .error (.versionConflict job.id p.version d.version) := by
          rw [← (Store.retrieve_mem hr).2]
          exact if_pos (version ▸ hv)
        rw [if_neg hv, version] at h
        simpa [refused, JobError.ofStore] using h
  | returned q => simp [step] at h

end JobCall

namespace Traffic

theorem entry_eq_some {t : Traffic} {i : Nat} {c : JobCall} {at_ : CallAt}
    (h : t.calls[i]? = some (c, at_)) : t.entry i = at_.reply?.map fun r => (c, r) := by
  cases hr : at_.reply? <;> simp [entry, h, hr]

theorem call_of_entry {t : Traffic} {i : Nat} {x : JobCall × JobReply} (h : t.entry i = some x) :
    ∃ at_, t.calls[i]? = some (x.1, at_) := by
  simp only [entry, Option.bind_eq_bind, Option.bind_eq_some_iff] at h
  obtain ⟨⟨c, at_⟩, hc, r, -, hx⟩ := h
  obtain rfl : (c, r) = x := by simpa using hx
  exact ⟨at_, hc⟩

/-- A call that has just begun has no entry yet, and all others keep theirs. -/
theorem entry_enter (t : Traffic) (c : JobCall) (i : Nat) :
    (t.react (.enter c)).entry i = t.entry i := by
  rcases lt_trichotomy i t.calls.length with hi | rfl | hi
  · simp [entry, react, List.getElem?_append_left hi]
  · simp [entry, react, CallAt.reply?]
  · simp [entry, react, List.getElem?_append_right hi.le, List.getElem?_eq_none hi.le,
      List.getElem?_eq_none (l := [(c, CallAt.entered)]) (i := i - t.calls.length)
        (by simp; omega)]

theorem steady_start (s : Store JobValue) : (start s).Steady s where
  nodup := List.nodup_nil
  returned i := by simp [start, entry]
  leads := .nil
  held i c job value h := by simp [start] at h

theorem Steady.enter {s : Store JobValue} {t : Traffic} (h : t.Steady s) (c : JobCall) :
    (t.react (.enter c)).Steady s := by
  have entries : (t.react (.enter c)).entry = t.entry := funext (entry_enter t c)
  refine ⟨h.nodup, ?_, ?_, ?_⟩
  · rw [entries]
    exact h.returned
  · have same : (t.react (.enter c)).log = t.log := by rw [log, entries]; rfl
    rw [same]
    exact h.leads
  · intro i d job value hi
    simp only [react, List.getElem?_append, List.getElem?_singleton] at hi
    split_ifs at hi with hlt
    · exact h.held i d job value hi
    · cases hi

/-- What the step of a call makes of the traffic. -/
def moved (t : Traffic) (i : Nat) (c : JobCall) (at_ : CallAt) (u : Store JobValue) : Traffic :=
  ⟨u, t.calls.set i (c, at_), if at_.reply?.isSome then t.order ++ [i] else t.order⟩

theorem react_advance_cases (t : Traffic) (i : Nat) :
    t.react (.advance i) = t ∨ ∃ c at_ after u, t.calls[i]? = some (c, at_) ∧
      c.step t.store at_ = some (after, u) ∧ t.react (.advance i) = t.moved i c after u := by
  cases hi : t.calls[i]? with
  | none => exact .inl (by simp [react, hi])
  | some x =>
    obtain ⟨c, at_⟩ := x
    cases hstep : c.step t.store at_ with
    | none => exact .inl (by simp [react, hi, hstep])
    | some y => exact .inr ⟨c, at_, y.1, y.2, rfl, hstep, by simp [react, hi, hstep, moved]⟩

section Moved

variable {s : Store JobValue} {t : Traffic} {i : Nat} {c : JobCall} {at_ after : CallAt}
  {u : Store JobValue}

/-- A call that makes a step had no entry before. -/
theorem entry_of_step (hi : t.calls[i]? = some (c, at_))
    (hstep : c.step t.store at_ = some (after, u)) : t.entry i = none := by
  rw [entry_eq_some hi]
  cases at_ with
  | returned r => simp [JobCall.step] at hstep
  | _ => rfl

/-- Only the call that makes a step has another entry afterwards. -/
theorem entry_moved (after : CallAt) (u : Store JobValue) (hi : t.calls[i]? = some (c, at_))
    (j : Nat) :
    (t.moved i c after u).entry j =
      if j = i then after.reply?.map fun r => (c, r) else t.entry j := by
  obtain ⟨hlt, -⟩ := List.getElem?_eq_some_iff.mp hi
  split_ifs with hj
  · subst hj
    have here : (t.moved j c after u).calls[j]? = some (c, after) := List.getElem?_set_self hlt
    exact entry_eq_some here
  · simp [entry, moved, List.getElem?_set_ne (Ne.symm hj)]

/-- The log grows by the entry of the call that made the step. -/
theorem log_moved (returned : ∀ i, i ∈ t.order ↔ (t.entry i).isSome)
    (hi : t.calls[i]? = some (c, at_)) (hstep : c.step t.store at_ = some (after, u)) :
    (t.moved i c after u).log = t.log ++ (after.reply?.map fun r => (c, r)).toList := by
  have fresh : i ∉ t.order := by
    rw [returned, entry_of_step hi hstep]
    simp
  have same : t.order.filterMap (t.moved i c after u).entry = t.log :=
    List.filterMap_congr fun j hj => by
      have hji : j ≠ i := fun hji => fresh (hji ▸ hj)
      rw [entry_moved _ _ hi, if_neg hji]
  cases hr : after.reply? with
  | none => simpa [log, moved, hr] using same
  | some r =>
    have self := entry_moved after u hi i
    have order : (t.moved i c after u).order = t.order ++ [i] := by simp [moved, hr]
    rw [log, order, List.filterMap_append, same, List.filterMap_cons, self, if_pos rfl, hr]
    rfl

theorem Steady.moved (h : t.Steady s) (hs : s.Sound) (hi : t.calls[i]? = some (c, at_))
    (hstep : c.step t.store at_ = some (after, u)) : (t.moved i c after u).Steady s := by
  have open_ := entry_of_step hi hstep
  have fresh : i ∉ t.order := by simp [h.returned, open_]
  have entry := entry_moved after u hi
  have log := log_moved h.returned hi hstep
  have others (j : Nat) (d : JobCall) (job : Job) (value : JobValue) (hj : j ≠ i)
      (held : (t.moved i c after u).calls[j]? = some (d, .checked job value)) :
      t.calls[j]? = some (d, .checked job value) := by
    rwa [Traffic.moved, List.getElem?_set_ne (Ne.symm hj)] at held
  obtain ⟨hlt, -⟩ := List.getElem?_eq_some_iff.mp hi
  have self : (t.moved i c after u).calls[i]? = some (c, after) := List.getElem?_set_self hlt
  cases after with
  | entered => exact absurd hstep (JobCall.step_ne_entered t.store u c at_)
  | checked job value =>
    obtain ⟨rfl, now, p, rfl, stored, accepted⟩ := JobCall.step_checked hstep
    have entries : (t.moved i (.patch now job.id p) (.checked job value) t.store).entry =
        t.entry := by
      funext j
      rw [entry]
      split_ifs with hj
      · rw [hj, open_]
        rfl
      · rfl
    refine ⟨h.nodup, ?_, ?_, ?_⟩
    · rw [entries]
      exact h.returned
    · rw [log]
      change JobLog.Leads s (t.log ++ []) t.store
      rw [List.append_nil]
      exact h.leads
    · intro j d job' value' hj
      by_cases hji : j = i
      · subst hji
        rw [self] at hj
        cases hj
        exact ⟨now, p, rfl, Store.known_of_retrieve (h.leads.sound hs) stored, accepted⟩
      · exact h.held j d job' value' (others j d job' value' hji hj)
  | returned r =>
    have whole : c.whole t.store = (r, u) :=
      JobCall.step_returned (fun job value ha => h.held i c job value (ha ▸ hi)) hstep
    have grows := (JobCall.effect_of_whole whole).grows (h.leads.sound hs)
    refine ⟨?_, ?_, ?_, ?_⟩
    · exact List.nodup_append.mpr ⟨h.nodup, List.nodup_singleton i,
        fun a ha b hb hab => fresh (List.mem_singleton.mp hb ▸ hab ▸ ha)⟩
    · intro j
      rw [entry]
      split_ifs with hj
      · simp [hj, Traffic.moved, CallAt.reply?]
      · rw [← h.returned]
        simp [hj, Traffic.moved, CallAt.reply?]
    · rw [log]
      exact h.leads.snoc whole
    · intro j d job value hj
      have hji : j ≠ i := by
        rintro rfl
        rw [self] at hj
        cases hj
      obtain ⟨now, p, rfl, known, accepted⟩ := h.held j d job value (others j d job value hji hj)
      exact ⟨now, p, rfl, known.grows grows, accepted⟩

end Moved

theorem Steady.react {s : Store JobValue} {t : Traffic} (h : t.Steady s) (hs : s.Sound)
    (e : TrafficEvent) : (t.react e).Steady s := by
  cases e with
  | enter c => exact h.enter c
  | advance i =>
    rcases t.react_advance_cases i with same | ⟨c, at_, after, u, hi, hstep, moved⟩
    · rwa [same]
    · rw [moved]
      exact h.moved hs hi hstep

section Steady

variable {s : Store JobValue} {t : Traffic}

/-- With a step of a call nothing happens that others see, or the call returns, and does at that
moment what the whole of it would do. -/
theorem Steady.advance_cases (h : t.Steady s) (i : Nat) :
    ((t.react (.advance i)).store = t.store ∧ (t.react (.advance i)).entry = t.entry) ∨
    ∃ c r, t.entry i = none ∧ c.whole t.store = (r, (t.react (.advance i)).store) ∧
      ∀ j, (t.react (.advance i)).entry j = if j = i then some (c, r) else t.entry j := by
  rcases t.react_advance_cases i with same | ⟨c, at_, after, u, hi, hstep, moved⟩
  · exact .inl (by simp [same])
  · have open_ := entry_of_step hi hstep
    have entry := entry_moved after u hi
    rw [moved]
    cases after with
    | entered => exact absurd hstep (JobCall.step_ne_entered t.store u c at_)
    | checked job value =>
      obtain ⟨rfl, -⟩ := JobCall.step_checked hstep
      refine .inl ⟨rfl, funext fun j => ?_⟩
      rw [entry]
      split_ifs with hj
      · rw [hj, open_]
        rfl
      · rfl
    | returned r =>
      have whole : c.whole t.store = (r, u) :=
        JobCall.step_returned (fun job value ha => h.held i c job value (ha ▸ hi)) hstep
      exact .inr ⟨c, r, open_, whole, entry⟩

/-- What is stored only grows. -/
theorem Steady.grows_react (h : t.Steady s) (hs : s.Sound) (e : TrafficEvent) :
    t.store.Grows (t.react e).store := by
  cases e with
  | enter c => exact .refl t.store
  | advance i =>
    rcases h.advance_cases i with ⟨same, -⟩ | ⟨c, r, -, whole, -⟩
    · rw [same]
      exact .refl t.store
    · exact (JobCall.effect_of_whole whole).grows (h.leads.sound hs)

/-- A call that has returned keeps its reply. -/
theorem Steady.entry_react (h : t.Steady s) (e : TrafficEvent) {i : Nat}
    {x : JobCall × JobReply} (hi : t.entry i = some x) : (t.react e).entry i = some x := by
  cases e with
  | enter c => rw [entry_enter, hi]
  | advance j =>
    rcases h.advance_cases j with ⟨-, same⟩ | ⟨c, r, open_, -, entry⟩
    · rw [same, hi]
    · have other : i ≠ j := by
        rintro rfl
        rw [open_] at hi
        cases hi
      rw [entry, if_neg other, hi]

/-- A call remains what it is. -/
theorem call_react (e : TrafficEvent) {i : Nat} {c : JobCall} {at_ : CallAt}
    (h : t.calls[i]? = some (c, at_)) : ∃ after, (t.react e).calls[i]? = some (c, after) := by
  obtain ⟨hlt, -⟩ := List.getElem?_eq_some_iff.mp h
  cases e with
  | enter d => exact ⟨at_, by simp [react, List.getElem?_append_left hlt, h]⟩
  | advance j =>
    rcases t.react_advance_cases j with same | ⟨d, at', after, u, hj, -, moved⟩
    · exact ⟨at_, by rw [same, h]⟩
    · rw [moved, Traffic.moved]
      by_cases hji : j = i
      · subst hji
        obtain ⟨rfl, rfl⟩ := Prod.mk.inj (Option.some.inj (hj.symm.trans h))
        exact ⟨after, List.getElem?_set_self hlt⟩
      · exact ⟨at_, by rw [List.getElem?_set_ne hji, h]⟩

theorem log_enter (t : Traffic) (c : JobCall) : (t.react (.enter c)).log = t.log := by
  rw [log, funext (entry_enter t c)]
  rfl

/-- How many of the calls in a list have returned with a reply of a kind. -/
def answered (t : Traffic) (p : JobCall × JobReply → Bool) (is : List Nat) : Nat :=
  (is.filterMap t.entry).countP p

theorem answered_perm {p : JobCall × JobReply → Bool} {is js : List Nat} (h : is.Perm js) :
    t.answered p is = t.answered p js :=
  (h.filterMap t.entry).countP_eq p

theorem answered_singleton {i : Nat} {x : JobCall × JobReply} (h : t.entry i = some x)
    (p : JobCall × JobReply → Bool) : t.answered p [i] = (p x).toNat := by
  rw [← countP_singleton_toNat, answered, List.filterMap_cons, h]
  rfl

theorem answered_append (p : JobCall × JobReply → Bool) (is js : List Nat) :
    t.answered p (is ++ js) = t.answered p is + t.answered p js := by
  rw [answered, List.filterMap_append, List.countP_append]
  rfl

/-- Of the calls in a list, no more return with a reply of a kind than the log gets. -/
theorem answered_advance (h : t.Steady s) (p : JobCall × JobReply → Bool) {is : List Nat}
    (nodup : is.Nodup) (i : Nat) :
    (t.react (.advance i)).answered p is + t.log.countP p ≤
      t.answered p is + (t.react (.advance i)).log.countP p := by
  rcases t.react_advance_cases i with same | ⟨c, at_, after, u, hi, hstep, moved⟩
  · rw [same]
  · have others (j : Nat) (hj : j ≠ i) : (t.moved i c after u).entry j = t.entry j := by
      rw [entry_moved _ _ hi, if_neg hj]
    have count := countP_filterMap_le p others nodup
    rw [moved, log_moved h.returned hi hstep, List.countP_append]
    rw [entry_moved _ _ hi, if_pos rfl] at count
    unfold answered
    omega

theorem mem_log (h : t.Steady s) {i : Nat} {x : JobCall × JobReply} (hi : t.entry i = some x) :
    x ∈ t.log :=
  List.mem_filterMap.mpr ⟨i, (h.returned i).mpr (by simp [hi]), hi⟩

/-- A patch answers with the job that it is about. -/
theorem patched_id (h : t.Steady s) (hs : s.Sound) {i : Nat} {now : Time.Instant} {id : String}
    {p : JobPatch} {job : Job} (hi : t.entry i = some (.patch now id p, .patched (.ok job))) :
    job.id = id := by
  obtain ⟨before, after, hlog⟩ := List.append_of_mem (mem_log h hi)
  have leads := h.leads
  rw [hlog] at leads
  obtain ⟨-, -, -, hid, -⟩ := leads.patched hs
  exact hid

end Steady

theorem steady_run (s : Store JobValue) (hs : s.Sound) (es : List TrafficEvent) :
    (run s es).Steady s := by
  unfold run
  generalize ht : start s = t
  have h : t.Steady s := ht ▸ steady_start s
  clear ht
  induction es generalizing t with
  | nil => exact h
  | cons e es ih => exact ih (t.react e) (h.react hs e)

/-- Calls that go on at the same time, in any order of their steps, come to the same as the calls
made as a whole, one after the other, in the order of their last steps. -/
theorem run_serial (s : Store JobValue) (hs : s.Sound) (es : List TrafficEvent) :
    (run s es).Serial s := by
  have h := steady_run s hs es
  refine ⟨h.nodup, h.returned, h.leads.sequence, ?_, h.leads.latest_of_retrieve hs⟩
  intro before after now id p new hlog
  have leads := h.leads
  rw [hlog] at leads
  exact leads.patched hs

/-- A store with one pending job. -/
def contested : Store JobValue :=
  ⟨"J", 0, [⟨"a", 1, { JobValue.blank with status := .pending }⟩]⟩

theorem contested_sound : contested.Sound := by
  refine ⟨List.nodup_singleton _, ?_⟩
  intro n _ e he h
  rw [List.mem_singleton.mp he] at h
  have first := congrArg (fun text : String => text.toList.head?) h
  simp [contested, Store.idOf] at first

/-- Both patches find the first version of the job: the one that updates it first succeeds, and it
comes first in the order. -/
theorem run_serial_racing :
    let reserve : JobCall := .patch .epoch "a" (.reserve 1)
    let t := run contested
      [.enter reserve, .enter reserve, .advance 0, .advance 1, .advance 1, .advance 0]
    contested.Sound ∧ t.Serial contested ∧ t.order = [1, 0] ∧
      (t.log.map fun x => x.2.job?.map Entity.version) = [some 2, none] :=
  ⟨contested_sound, run_serial contested contested_sound _, by decide +kernel, by decide +kernel⟩

end Traffic

end JobDispatch

import JobDispatch.Proofs.Agent.Fleet
import Mathlib.Data.List.Induction

/-!
Inquiries: a program of a runner that asks the registry, while others make whatever calls they like
there. Every answer that the program gets was the registry's at one moment of the run, or tells that
the call was given up.
-/

namespace JobDispatch

/-- What an answer of the registry says to a question. -/
def Ask.reading? : (q : Ask) → JobReply → Option q.Answer
  | listing _ _, .found r => some ((r.mapError RegistryError.ofJob).map Page.items)
  | patching _ _, .patched r => some (r.mapError RegistryError.ofJob)
  | _, _ => none

/-- What is heard of a question to the registry that is given up. -/
def Ask.failing? (e : RegistryError) : (q : Ask) → Option q.Answer
  | listing _ (_ + 1) => some (.error e)
  | patching _ _ => some (.error e)
  | _ => none

structure Inquiry (α : Type) where
  traffic : Traffic
  program : Program α
  /-- the call whose reply the program waits for -/
  waits : Option Nat
  /-- the calls that the program has made -/
  made : List Nat

inductive InquiryEvent where
  /-- somebody else makes a call -/
  | enters (c : JobCall)
  /-- the registry makes the next step of a call -/
  | serves (call : Nat)
  /-- the program asks what it has to ask; the instant is that at which the registry acts on it -/
  | asks (now : Time.Instant)
  /-- the program is answered -/
  | hears
  /-- the program gives its call up -/
  | loses (e : RegistryError)

namespace Program

variable {α β : Type} {told : (q : Ask) → q.Answer → Prop}

/-- What a program can come to with answers of which something is known. -/
inductive Reaches (told : (q : Ask) → q.Answer → Prop) : Program α → Program α → Prop
  | refl (p : Program α) : Reaches told p p
  | step {q : Ask} {next : q.Answer → Program α} {r : Program α} (a : q.Answer) (true_ : told q a)
      (rest : Reaches told (next a) r) : Reaches told (.asks q next) r

theorem Reaches.snoc {p : Program α} {q : Ask} {next : q.Answer → Program α}
    (h : Reaches told p (.asks q next)) {a : q.Answer} (true_ : told q a) :
    Reaches told p (next a) := by
  generalize ht : Program.asks q next = t at h
  induction h with
  | refl p =>
    subst ht
    exact .step a true_ (.refl _)
  | step b known _ ih => exact .step b known (ih ht)

theorem Reaches.mono {told' : (q : Ask) → q.Answer → Prop} {p r : Program α}
    (h : Reaches told p r) (weaker : ∀ q a, told q a → told' q a) : Reaches told' p r := by
  induction h with
  | refl p => exact .refl p
  | step a true_ _ ih => exact .step a (weaker _ a true_) ih

theorem Reaches.of_ends {a b : α} (h : Reaches told (.ends a) (.ends b)) : a = b := by
  cases h
  rfl

theorem Reaches.of_asks {q : Ask} {next : q.Answer → Program α} {b : α}
    (h : Reaches told (.asks q next) (.ends b)) :
    ∃ a, told q a ∧ Reaches told (next a) (.ends b) := by
  cases h with
  | step a true_ rest => exact ⟨a, true_, rest⟩

theorem Reaches.of_candidates {params : JobParams} {window : Nat}
    {a : Except RegistryError (List Job)}
    (h : Reaches told (desk.candidates params window) (.ends a)) :
    told (.listing params window) a := by
  obtain ⟨b, true_, rest⟩ := Reaches.of_asks h
  exact rest.of_ends ▸ true_

/-- A job that was reserved is the answer to the reservation of a candidate. -/
theorem Reaches.of_reserveFirst {k : Option Job → Program α} {cs : List Job} {b : α}
    (h : Reaches told (desk.reserveFirst cs >>= k) (.ends b)) :
    Reaches told (k none) (.ends b) ∨ ∃ c ∈ cs, ∃ job,
      told (.patching c.id (.reserve c.version)) (.ok job) ∧
        Reaches told (k (some job)) (.ends b) := by
  induction cs with
  | nil => exact .inl h
  | cons c cs ih =>
    obtain ⟨a, true_, rest⟩ := Reaches.of_asks h
    cases a with
    | ok job => exact .inr ⟨c, List.mem_cons_self, job, true_, rest⟩
    | error e =>
      rcases ih rest with none | ⟨d, hd, reserved⟩
      · exact .inl none
      · exact .inr ⟨d, List.mem_cons_of_mem c hd, reserved⟩

theorem Reaches.of_nextJob {rules : DeskRules} {job : Job}
    (h : Reaches told (desk.nextJob rules) (.ends (.ok (some job)))) :
    ∃ cs, told (.listing rules.params rules.window) (.ok cs) ∧
      ∃ c ∈ cs, told (.patching c.id (.reserve c.version)) (.ok job) := by
  obtain ⟨a, listed, rest⟩ := Reaches.of_asks h
  cases a with
  | error e => cases rest.of_ends
  | ok cs =>
    have reserves : Reaches told (desk.reserveFirst cs >>= fun j => .ends (.ok j))
        (.ends (.ok (some job) : Except RegistryError (Option Job))) := rest
    rcases reserves.of_reserveFirst with none | ⟨c, hc, d, true_, last⟩
    · cases none.of_ends
    · cases last.of_ends
      exact ⟨cs, listed, c, hc, true_⟩

end Program

namespace Inquiry

variable {α : Type}

/-- A program that begins where nothing is stored yet. -/
def start (p : Program α) : Inquiry α := ⟨.start Registry.empty.jobs.store, p, none, []⟩

/-- What the program can be answered now. -/
def answer? (x : Inquiry α) : (q : Ask) → Option q.Answer
  | .listing _ 0 => some (.ok [])
  | q => do
    let (_, r) ← x.traffic.entry (← x.waits)
    q.reading? r

def call (x : Inquiry α) (c : JobCall) : Inquiry α :=
  { x with
    traffic := x.traffic.react (.enter c)
    waits := some x.traffic.calls.length
    made := x.made ++ [x.traffic.calls.length] }

def proceed (x : Inquiry α) (p : Program α) : Inquiry α := { x with program := p, waits := none }

/-- What an event makes of an inquiry; an event that cannot happen changes nothing. -/
def react (x : Inquiry α) : InquiryEvent → Inquiry α
  | .enters c => { x with traffic := x.traffic.react (.enter c) }
  | .serves i => { x with traffic := x.traffic.react (.advance i) }
  | .asks now =>
    match x.waits, x.program with
    | none, .asks q _ => ((q.call? now).map x.call).getD x
    | _, _ => x
  | .hears =>
    match x.program with
    | .asks q next => ((x.answer? q).map fun a => x.proceed (next a)).getD x
    | .ends _ => x
  | .loses e =>
    match x.waits, x.program with
    | some _, .asks q next => ((q.failing? e).map fun a => x.proceed (next a)).getD x
    | _, _ => x

def run (p : Program α) (es : List InquiryEvent) : Inquiry α := es.foldl react (start p)

/-- The jobs that are stored after a run. -/
def stored (p : Program α) (es : List InquiryEvent) : Store JobValue := (run p es).traffic.store

/-- What an event can do. -/
inductive Step (x : Inquiry α) : InquiryEvent → Inquiry α → Prop
  | enters (c : JobCall) : Step x (.enters c) { x with traffic := x.traffic.react (.enter c) }
  | serves (i : Nat) : Step x (.serves i) { x with traffic := x.traffic.react (.advance i) }
  | asks {q : Ask} {next : q.Answer → Program α} {now : Time.Instant} {c : JobCall}
      (free : x.waits = none) (program : x.program = .asks q next)
      (asked : q.call? now = some c) : Step x (.asks now) (x.call c)
  | hears {q : Ask} {next : q.Answer → Program α} {a : q.Answer}
      (program : x.program = .asks q next) (answered : x.answer? q = some a) :
      Step x .hears (x.proceed (next a))
  | loses {q : Ask} {next : q.Answer → Program α} {e : RegistryError} {a : q.Answer}
      (waits : x.waits ≠ none) (program : x.program = .asks q next)
      (failed : q.failing? e = some a) : Step x (.loses e) (x.proceed (next a))
  | idle (e : InquiryEvent) : Step x e x

theorem step_react (x : Inquiry α) (e : InquiryEvent) : Step x e (x.react e) := by
  cases e with
  | enters c => exact .enters c
  | serves i => exact .serves i
  | asks now =>
    simp only [react]
    split
    · next q next free program =>
      cases asked : q.call? now with
      | none => exact .idle _
      | some c => exact .asks free program asked
    · exact .idle _
  | hears =>
    simp only [react]
    split
    · next q next program =>
      cases answered : x.answer? q with
      | none => exact .idle _
      | some a => exact .hears program answered
    · exact .idle _
  | loses e =>
    simp only [react]
    split
    · next q next waits program =>
      cases failed : q.failing? e with
      | none => exact .idle _
      | some a => exact .loses (by simp [waits]) program failed
    · exact .idle _

variable {p : Program α} {es : List InquiryEvent}

theorem run_snoc (p : Program α) (es : List InquiryEvent) (e : InquiryEvent) :
    run p (es ++ [e]) = (run p es).react e := List.foldl_concat react _ e es

/-- What an event does to the traffic: somebody makes a call, or the registry goes on with one. -/
theorem traffic_react (x : Inquiry α) (e : InquiryEvent) :
    (x.react e).traffic = x.traffic ∨
      (∃ c, (x.react e).traffic = x.traffic.react (.enter c)) ∨
      ∃ i, e = .serves i ∧ (x.react e).traffic = x.traffic.react (.advance i) := by
  have step := x.step_react e
  generalize x.react e = y at step
  cases step with
  | enters c => exact .inr (.inl ⟨c, rfl⟩)
  | serves i => exact .inr (.inr ⟨i, rfl, rfl⟩)
  | asks free program asked => exact .inr (.inl ⟨_, rfl⟩)
  | _ => exact .inl rfl

/-- What all runs keep: traffic is steady, and the program waits for a call of its own, which is
what it asks. -/
structure Tidy (x : Inquiry α) : Prop where
  steady : x.traffic.Steady Registry.empty.jobs.store
  waiting : ∀ k, x.waits = some k → k ∈ x.made ∧ ∃ q next now c at_,
    x.program = .asks q next ∧ q.call? now = some c ∧ x.traffic.calls[k]? = some (c, at_)

theorem Tidy.react {x : Inquiry α} (h : x.Tidy) (e : InquiryEvent) : (x.react e).Tidy := by
  have sound : Registry.empty.jobs.store.Sound := Store.sound_empty "J"
  have step := x.step_react e
  generalize x.react e = y at step
  cases step with
  | enters c =>
    refine ⟨h.steady.enter c, ?_⟩
    intro k waits
    obtain ⟨own, q, next, now, d, at_, program, asked, hk⟩ := h.waiting k waits
    obtain ⟨after, hk⟩ := Traffic.call_react (.enter c) hk
    exact ⟨own, q, next, now, d, after, program, asked, hk⟩
  | serves i =>
    refine ⟨h.steady.react sound (.advance i), ?_⟩
    intro k waits
    obtain ⟨own, q, next, now, d, at_, program, asked, hk⟩ := h.waiting k waits
    obtain ⟨after, hk⟩ := Traffic.call_react (.advance i) hk
    exact ⟨own, q, next, now, d, after, program, asked, hk⟩
  | @asks q next now c free program asked =>
    refine ⟨h.steady.enter c, ?_⟩
    rintro k ⟨⟩
    have last : (x.traffic.calls ++ [(c, CallAt.entered)])[x.traffic.calls.length]? =
        some (c, .entered) := List.getElem?_concat_length
    exact ⟨List.mem_append_right _ (List.mem_singleton_self _), q, next, now, c, .entered, program,
      asked, last⟩
  | hears program answered => exact ⟨h.steady, fun k waits => by cases waits⟩
  | loses waits program failed => exact ⟨h.steady, fun k waits => by cases waits⟩
  | idle => exact h

theorem tidy_run (p : Program α) (es : List InquiryEvent) : (run p es).Tidy := by
  induction es using List.reverseRecOn with
  | nil => exact ⟨Traffic.steady_start _, fun k waits => by cases waits⟩
  | append_singleton es e ih =>
    rw [run_snoc]
    exact ih.react e

theorem sound_stored (p : Program α) (es : List InquiryEvent) : (stored p es).Sound :=
  (tidy_run p es).steady.leads.sound (Store.sound_empty "J")

theorem grows_append (p : Program α) (es fs : List InquiryEvent) :
    (stored p es).Grows (stored p (es ++ fs)) := by
  induction fs using List.reverseRecOn with
  | nil =>
    rw [List.append_nil]
    exact .refl _
  | append_singleton fs e ih =>
    refine ih.trans ?_
    have steady := (tidy_run p (es ++ fs)).steady
    rw [← List.append_assoc, stored, stored, run_snoc]
    rcases traffic_react (run p (es ++ fs)) e with same | ⟨c, entered⟩ | ⟨i, -, advanced⟩
    · rw [same]
      exact .refl _
    · rw [entered]
      exact .refl _
    · rw [advanced]
      exact steady.grows_react (Store.sound_empty "J") (.advance i)

/-- A job that is stored at two moments of a run, with one version, is the same at both. -/
theorem eq_of_version {ds es fs : List InquiryEvent} {id : String} {old new : Job}
    (hds : ds <+: fs) (hes : es <+: fs) (before : (stored p ds).retrieve id = some old)
    (after : (stored p es).retrieve id = some new) (version : old.version = new.version) :
    old = new := by
  have later {ds es : List InquiryEvent} {old new : Job} (h : ds <+: es)
      (before : (stored p ds).retrieve id = some old)
      (after : (stored p es).retrieve id = some new) (version : old.version = new.version) :
      old = new := by
    obtain ⟨gs, rfl⟩ := h
    have known := (Store.known_of_retrieve (sound_stored p ds) before).grows (grows_append p ds gs)
    obtain ⟨-, rfl⟩ := Store.retrieve_mem before
    exact known.eq_of_version after version.symm
  rcases List.prefix_or_prefix_of_prefix hds hes with h | h
  · exact later h before after version
  · exact (later h after before version.symm).symm

theorem entry_react {x : Inquiry α} (h : x.Tidy) (e : InquiryEvent) {i : Nat}
    {c : JobCall × JobReply} (hi : x.traffic.entry i = some c) :
    (x.react e).traffic.entry i = some c := by
  rcases traffic_react x e with same | ⟨d, entered⟩ | ⟨j, -, advanced⟩
  · rw [same, hi]
  · rw [entered]
    exact h.steady.entry_react _ hi
  · rw [advanced]
    exact h.steady.entry_react _ hi

theorem made_react (x : Inquiry α) (e : InquiryEvent) : x.made ⊆ (x.react e).made := by
  have step := x.step_react e
  generalize x.react e = y at step
  cases step with
  | asks free program asked => exact List.subset_append_left _ _
  | _ => exact List.Subset.refl _

/-- A call of the program was answered in a run, by the step that came after the events `before`: it
did then what the whole of it would have done. -/
structure Answered (p : Program α) (es before : List InquiryEvent) (i : Nat) (c : JobCall)
    (r : JobReply) : Prop where
  own : i ∈ (run p es).made
  entry : (run p es).traffic.entry i = some (c, r)
  moment : before ++ [.serves i] <+: es
  whole : c.whole (stored p before) = (r, stored p (before ++ [.serves i]))

theorem Answered.snoc {before : List InquiryEvent} {i : Nat} {c : JobCall} {r : JobReply}
    (h : Answered p es before i c r) (e : InquiryEvent) : Answered p (es ++ [e]) before i c r := by
  refine ⟨?_, ?_, h.moment.trans (List.prefix_append es [e]), h.whole⟩
  · rw [run_snoc]
    exact made_react _ e h.own
  · rw [run_snoc]
    exact entry_react (tidy_run p es) e h.entry

/-- A call that has an answer got it at some moment. -/
theorem exists_moment {i : Nat} {c : JobCall} {r : JobReply}
    (h : (run p es).traffic.entry i = some (c, r)) :
    ∃ before, before ++ [.serves i] <+: es ∧
      c.whole (stored p before) = (r, stored p (before ++ [.serves i])) := by
  induction es using List.reverseRecOn with
  | nil => cases h
  | append_singleton es e ih =>
    have earlier (h : (run p es).traffic.entry i = some (c, r)) :
        ∃ before, before ++ [.serves i] <+: es ++ [e] ∧
          c.whole (stored p before) = (r, stored p (before ++ [.serves i])) := by
      obtain ⟨before, moment, whole⟩ := ih h
      exact ⟨before, moment.trans (List.prefix_append es [e]), whole⟩
    rw [run_snoc] at h
    rcases traffic_react (run p es) e with same | ⟨d, entered⟩ | ⟨j, rfl, advanced⟩
    · rw [same] at h
      exact earlier h
    · rw [entered, Traffic.entry_enter] at h
      exact earlier h
    · rw [advanced] at h
      rcases (tidy_run p es).steady.advance_cases j with ⟨-, same⟩ | ⟨d, q, -, whole, entry⟩
      · rw [same] at h
        exact earlier h
      · rw [entry] at h
        split_ifs at h with hj
        · subst hj
          cases h
          refine ⟨es, List.prefix_rfl, ?_⟩
          rw [stored, stored, run_snoc, advanced]
          exact whole
        · exact earlier h

/-- What is behind the answers that the program of a run gets: pages are what was found at a moment,
and jobs are what was stored by a patch. -/
def Told (p : Program α) (es : List InquiryEvent) : (q : Ask) → q.Answer → Prop
  | .listing _ 0, a => a = .ok []
  | .listing params (n + 1), a => ∀ jobs, a = .ok jobs → ∃ before i page,
    Answered p es before i (.search params.query 0 n) (.found (.ok page)) ∧ jobs = page.items
  | .patching id patch, a => ∀ job, a = .ok job → ∃ before i now,
    Answered p es before i (.patch now id patch) (.patched (.ok job))
  | _, _ => True

theorem Told.snoc {q : Ask} {a : q.Answer} (h : Told p es q a) (e : InquiryEvent) :
    Told p (es ++ [e]) q a := by
  cases q with
  | listing params n =>
    cases n with
    | zero => exact h
    | succ n =>
      intro jobs answer
      obtain ⟨before, i, page, answered, items⟩ := h jobs answer
      exact ⟨before, i, page, answered.snoc e, items⟩
  | patching id patch =>
    intro job answer
    obtain ⟨before, i, now, answered⟩ := h job answer
    exact ⟨before, i, now, answered.snoc e⟩
  | _ => trivial

/-- An error tells nothing of the registry. -/
theorem told_of_failing {q : Ask} {e : RegistryError} {a : q.Answer} (h : q.failing? e = some a) :
    Told p es q a := by
  cases q with
  | listing params n =>
    cases n with
    | zero => cases h
    | succ n =>
      cases h
      rintro jobs ⟨⟩
  | patching id patch =>
    cases h
    rintro job ⟨⟩
  | _ => trivial

/-- A reply that the program waits for is the answer to what it asks. -/
theorem exists_answered {q : Ask} {next : q.Answer → Program α} {r : JobReply} {k : Nat}
    {c : JobCall} (program : (run p es).program = .asks q next) (waits : (run p es).waits = some k)
    (entry : (run p es).traffic.entry k = some (c, r)) :
    ∃ before now, q.call? now = some c ∧ Answered p es before k c r := by
  obtain ⟨own, q', next', now, d, at_, program', asked, hk⟩ := (tidy_run p es).waiting k waits
  obtain ⟨rfl, -⟩ := Program.asks.inj (program.symm.trans program')
  obtain ⟨at', hk'⟩ := Traffic.call_of_entry entry
  obtain ⟨rfl, -⟩ := Prod.mk.inj (Option.some.inj (hk.symm.trans hk'))
  obtain ⟨before, moment, whole⟩ := exists_moment entry
  exact ⟨before, now, asked, own, entry, moment, whole⟩

theorem told_of_answer {q : Ask} {next : q.Answer → Program α} {a : q.Answer}
    (program : (run p es).program = .asks q next) (answered : (run p es).answer? q = some a) :
    Told p es q a := by
  cases q with
  | listing params n =>
    cases n with
    | zero => exact (Option.some.inj answered).symm
    | succ n =>
      simp only [answer?, Option.bind_eq_bind, Option.bind_eq_some_iff] at answered
      obtain ⟨k, waits, ⟨c, r⟩, entry, read⟩ := answered
      obtain ⟨before, now, asked, answered⟩ := exists_answered program waits entry
      cases asked
      rintro jobs rfl
      cases r with
      | found r =>
        cases r with
        | error e => cases read
        | ok page =>
          cases read
          exact ⟨before, k, page, answered, rfl⟩
      | _ => cases read
  | patching id patch =>
    simp only [answer?, Option.bind_eq_bind, Option.bind_eq_some_iff] at answered
    obtain ⟨k, waits, ⟨c, r⟩, entry, read⟩ := answered
    obtain ⟨before, now, asked, answered⟩ := exists_answered program waits entry
    cases asked
    rintro job rfl
    cases r with
    | patched r =>
      cases r with
      | error e => cases read
      | ok new =>
        cases read
        exact ⟨before, k, now, answered⟩
    | _ => cases read
  | _ => trivial

/-- Whatever a program has come to in a run, it came to with answers of the registry. -/
theorem reaches_run (p : Program α) (es : List InquiryEvent) :
    Program.Reaches (Told p es) p (run p es).program := by
  induction es using List.reverseRecOn with
  | nil => exact .refl p
  | append_singleton es e ih =>
    have before : Program.Reaches (Told p (es ++ [e])) p (run p es).program :=
      ih.mono fun q a told => told.snoc e
    have step := (run p es).step_react e
    rw [run_snoc]
    generalize (run p es).react e = y at step
    cases step with
    | hears program answered =>
      rw [program] at before
      exact before.snoc ((told_of_answer program answered).snoc _)
    | loses waits program failed =>
      rw [program] at before
      exact before.snoc (told_of_failing failed)
    | _ => exact before

end Inquiry

end JobDispatch

import JobDispatch.CommandLine.Run
import JobDispatch.Proofs.Client.Listing
import JobDispatch.Proofs.Query.Search
import JobDispatch.Proofs.Text.Decimal

/-!
Identities of which people type the beginning. They are completed from a listing of the registry,
and of a long listing only the first thousand entries are looked at.
-/

namespace JobDispatch.CommandLine

/-- The identities of all that is stored of a kind, in the order of its listing. -/
def Kind.stored (reg : Registry) : Kind → List String
  | job => reg.jobs.store.entities.map Entity.id
  | runner => reg.runners.store.entities.map Entity.id

/-- The identity that people mean when they name something of a kind. -/
def Kind.resolve {m : Type → Type} [Monad m] (send : Http.Url → Http.Request → m Reply)
    (c : Client) : Kind → Identifier → ExceptT Failure m String
  | job => resolveJob send c
  | runner => resolveRunner send c

/-- The identities that begin in some way when they are put into lower case. -/
def beginning (start : String) (ids : List String) : List String :=
  ids.filter fun id => start.toList <+: (Unicode.lower id).toList

/-- A beginning stands for the one identity that begins so. It is an error if there is none, and
another one if there are several. -/
structure Completes (kind : Kind) (start : String) (ids : List String)
    (r : Except Failure String) : Prop where
  found : ∀ id, r = .ok id ↔ beginning start ids = [id]
  missing : r = .error (.noMatch kind start) ↔ beginning start ids = []
  several : (∃ shown, r = .error (.ambiguous kind start shown)) ↔
    2 ≤ (beginning start ids).length

theorem beginning_append (start : String) (seen unseen : List String) :
    beginning start (seen ++ unseen) = beginning start seen ++ beginning start unseen :=
  List.filter_append seen unseen

theorem uniqueMatch_eq (kind : Kind) (start : String) (ids : List String) :
    uniqueMatch kind start ids = match beginning start ids with
      | [] => .error (.noMatch kind start)
      | [id] => .ok id
      | many => .error (.ambiguous kind start many) := by
  have same : (ids.filter fun id => start.toList.isPrefixOf (Unicode.lower id).toList) =
      beginning start ids := by
    apply List.filter_congr
    intro id _
    rw [Bool.eq_iff_iff, List.isPrefixOf_iff_prefix, decide_eq_true_iff]
  rw [← same]
  rfl

theorem completes_of_beginning_eq {kind : Kind} {start : String} {ids seen : List String}
    (same : beginning start ids = beginning start seen) :
    Completes kind start ids (uniqueMatch kind start seen) := by
  rw [uniqueMatch_eq, ← same]
  rcases h : beginning start ids with _ | ⟨id, _ | ⟨id', rest⟩⟩
  all_goals exact ⟨fun _ => by simp [h], by simp [h], by simp [h]⟩

/-- The answer from a part of the identities is right for all of them exactly if no other identity
begins so, or several of that part do already. -/
theorem completes_uniqueMatch_iff (kind : Kind) (start : String) (seen unseen : List String) :
    Completes kind start (seen ++ unseen) (uniqueMatch kind start seen) ↔
      beginning start unseen = [] ∨ 2 ≤ (beginning start seen).length := by
  have all := beginning_append start seen unseen
  have part : Completes kind start seen (uniqueMatch kind start seen) :=
    completes_of_beginning_eq rfl
  constructor
  · intro whole
    rcases hs : beginning start seen with _ | ⟨id, _ | ⟨id', rest⟩⟩
    · have none := whole.missing.mp (part.missing.mpr hs)
      rw [all, hs] at none
      exact .inl none
    · have one := (whole.found id).mp ((part.found id).mpr hs)
      rw [all, hs] at one
      exact .inl (List.cons.inj one).2
    · exact .inr (Nat.le_add_left 2 rest.length)
  · rintro (none | many)
    · exact completes_of_beginning_eq (by rw [all, none, List.append_nil])
    · obtain ⟨shown, ambiguous⟩ := part.several.mpr many
      have more : 2 ≤ (beginning start (seen ++ unseen)).length := by
        rw [all, List.length_append]
        exact Nat.le_add_right_of_le many
      rw [ambiguous]
      refine ⟨fun id => iff_of_false nofun ?_, iff_of_false nofun ?_, iff_of_true ⟨shown, rfl⟩ more⟩
      · intro one
        rw [one] at more
        exact absurd more (Nat.not_succ_le_self 1)
      · intro none
        rw [none] at more
        cases more

/-- Without criteria all is listed. -/
theorem filter_blank_jobs : JobParams.blank.query.filter = .all := rfl

theorem filter_blank_runners : RunnerParams.blank.query.filter = .all := rfl

theorem items_search_all {α : Type} [Documented α] (s : Store α) (stop : Nat) :
    (s.search .all 0 stop).items = s.entities.take (stop + 1) := by
  rw [Store.search, s.matching_all, Page.items_window_take]

section

variable {c : Client} {reg : Registry} {worded : Nat → List UInt8} {now : Time.Instant}

/-- What is looked for in the answer to a call. -/
theorem run_ask_bind {α β : Type} {call : Call α} {a : α} (context : Option String)
    (h : (call.perform (Registry.exchange worded now)).run reg = (.ok a, reg))
    (next : α → Except Failure β) :
    (ask (Registry.exchange worded now) context call >>= fun a =>
        ExceptT.mk (pure (next a))).run.run reg = (next a, reg) := by
  simp only [ask, ExceptT.run_bind, ExceptT.run_mk, bind_assoc, pure_bind]
  rw [StateT.run_bind, h]
  rfl

section

variable (worded : Nat → List UInt8) (now : Time.Instant) (root : c.AtRoot) (fits : reg.Fits)

include root fits

theorem run_listJobs (jobs : reg.jobs.plan = []) (p : JobParams) {w : Window} (window : w.Fits) :
    ((c.listJobs p w).perform (Registry.exchange worded now)).run reg =
      (.ok (reg.jobs.store.search p.query.filter w.start w.stop), reg) := by
  have found : (Jobs.search p.query w.start w.stop).perform reg.jobs =
      (.ok (reg.jobs.store.search p.query.filter w.start w.stop), reg.jobs) := by
    rw [Jobs.search, Action.perform_rephrase, Repository.search_unplanned jobs]
    rfl
  have listing : ∃ u r, _ ∧ _ ∧ _ ∧
      ((c.listJobs p w).perform (Registry.exchange worded now)).run reg = _ :=
    Client.listJobs_exchange root fits window p
  obtain ⟨u, r, -, -, -, listed⟩ := listing
  exact listed.trans (Registry.outcome_of_ok (Registry.perform_onJobs found))

theorem run_listRunners (runners : reg.runners.plan = []) (p : RunnerParams) {w : Window}
    (window : w.Fits) :
    ((c.listRunners p w).perform (Registry.exchange worded now)).run reg =
      (.ok (reg.runners.store.search p.query.filter w.start w.stop), reg) := by
  have found : (Runners.search p.query w.start w.stop).perform reg.runners =
      (.ok (reg.runners.store.search p.query.filter w.start w.stop), reg.runners) := by
    rw [Runners.search, Action.perform_rephrase, Repository.search_unplanned runners]
    rfl
  have listing : ∃ u r, _ ∧ _ ∧ _ ∧
      ((c.listRunners p w).perform (Registry.exchange worded now)).run reg = _ :=
    Client.listRunners_exchange root fits window p
  obtain ⟨u, r, -, -, -, listed⟩ := listing
  exact listed.trans (Registry.outcome_of_ok (Registry.perform_onRunners found))

/-- A beginning is completed from the first thousand identities that are stored. -/
theorem run_resolve (jobs : reg.jobs.plan = []) (runners : reg.runners.plan = []) (kind : Kind)
    (start : String) :
    (kind.resolve (Registry.exchange worded now) c (.leading start)).run.run reg =
      (uniqueMatch kind start ((kind.stored reg).take 1000), reg) := by
  have window : resolutionWindow.Fits := ⟨by decide, by decide⟩
  cases kind with
  | job =>
    have resolved := run_ask_bind (some "Failed to fetch jobs for ID resolution")
      (run_listJobs worded now root fits jobs .blank window)
      fun page => uniqueMatch .job start (page.items.map Entity.id)
    rw [filter_blank_jobs, resolutionWindow, items_search_all, List.map_take] at resolved
    exact resolved
  | runner =>
    have resolved := run_ask_bind (some "Failed to fetch runners for ID resolution")
      (run_listRunners worded now root fits runners .blank window)
      fun page => uniqueMatch .runner start (page.items.map Entity.id)
    rw [filter_blank_runners, resolutionWindow, items_search_all, List.map_take] at resolved
    exact resolved

end

end

section

open Unicode (lowerChar lowerFrom)

theorem length_lowerFrom {s : List Char} (plain : ∀ d ∈ s, d ≠ '\u0130') (before : List Char) :
    (lowerFrom before s).length = s.length := by
  induction s generalizing before with
  | nil => rfl
  | cons d s ih =>
    have rest := ih (fun e he => plain e (List.mem_cons_of_mem d he)) (d :: before)
    have one : (lowerChar d).length = 1 := by
      rw [lowerChar, if_neg (plain d List.mem_cons_self)]
      rfl
    rw [lowerFrom, List.length_append, rest, List.length_cons]
    split_ifs
    · exact Nat.add_comm _ _
    · rw [one, Nat.add_comm]

theorem length_lower {s : String} (plain : ∀ d ∈ s.toList, d ≠ '\u0130') :
    (Unicode.lower s).toList.length = s.toList.length := by
  rw [Unicode.lower, String.toList_ofList, length_lowerFrom plain]

end

/-- What people type, in lower case and without the white space around it. -/
def typed (text : String) : String := Unicode.lower (Text.trim text)

namespace Identifier

theorem ofText_of_none {text : String} (h : digits? (Text.trim text).toList = none) :
    ofText text = .leading (typed text) := by
  simp only [ofText, h, typed]

theorem ofText_leading {text : String} (part : ∀ id, ofText text ≠ .full id) :
    ofText text = .leading (typed text) := by
  cases h : digits? (Text.trim text).toList with
  | none => exact ofText_of_none h
  | some digits =>
    refine absurd ?_ (part (spell digits))
    simp only [ofText, h]

end Identifier

/-- What people type is completed to what is right for the first thousand identities. That is right
for all that is stored exactly if none of the others begins so, or several of the first thousand
do. -/
theorem completes_iff {c : Client} {reg : Registry} (root : c.AtRoot) (fits : reg.Fits)
    (jobs : reg.jobs.plan = []) (runners : reg.runners.plan = []) {text : String}
    (part : ∀ id, Identifier.ofText text ≠ .full id) (worded : Nat → List UInt8)
    (now : Time.Instant) (kind : Kind) :
    ∃ r, (kind.resolve (Registry.exchange worded now) c (.ofText text)).run.run reg = (r, reg) ∧
      Completes kind (typed text) ((kind.stored reg).take 1000) r ∧
      (Completes kind (typed text) (kind.stored reg) r ↔
        beginning (typed text) ((kind.stored reg).drop 1000) = [] ∨
          2 ≤ (beginning (typed text) ((kind.stored reg).take 1000)).length) := by
  rw [Identifier.ofText_leading part]
  refine ⟨_, run_resolve worded now root fits jobs runners kind (typed text), ?_, ?_⟩
  · have first := completes_uniqueMatch_iff kind (typed text) ((kind.stored reg).take 1000) []
    rw [List.append_nil] at first
    exact first.mpr (.inl rfl)
  · have all := completes_uniqueMatch_iff kind (typed text) ((kind.stored reg).take 1000)
      ((kind.stored reg).drop 1000)
    rw [List.take_append_drop] at all
    exact all

theorem completes_localhost :
    Post.localhost.AtRoot ∧ Registry.assorted.Fits ∧
      (∀ id, Identifier.ofText " J1 " ≠ .full id) ∧
      ∃ r, ((Kind.job.resolve (Registry.exchange (fun _ => []) .epoch) Post.localhost
          (.ofText " J1 ")).run.run Registry.assorted) = (r, Registry.assorted) ∧
        Completes .job (typed " J1 ") (Kind.job.stored Registry.assorted) r := by
  have part : ∀ id, Identifier.ofText " J1 " ≠ .full id := by
    rw [Identifier.ofText_of_none (by decide +kernel)]
    nofun
  obtain ⟨r, resolved, -, complete⟩ := completes_iff Post.atRoot_localhost Registry.fits_assorted
    rfl rfl part (fun _ => []) .epoch .job
  exact ⟨Post.atRoot_localhost, Registry.fits_assorted, part, r, resolved, complete.mpr (.inl rfl)⟩

/-- A registry with a thousand jobs, and with one that was launched much later. Those in between are
gone. -/
def crowded : Registry where
  jobs := ⟨⟨"J", 10000, (List.range 1000).map (fun k => ⟨Store.idOf "J" (k + 1), 1, .blank⟩) ++
    [⟨"J10000", 1, .blank⟩]⟩, []⟩
  runners := ⟨.empty "R", []⟩

theorem fits_crowded : crowded.Fits := by
  have one : ∀ e ∈ crowded.jobs.store.entities, e.version = 1 := by
    intro e he
    rcases List.mem_append.mp he with early | late
    · obtain ⟨k, -, rfl⟩ := List.mem_map.mp early
      rfl
    · rw [List.mem_singleton.mp late]
  have nobody : crowded.runners.store.entities = [] := rfl
  refine ⟨?_, ?_, Nat.zero_le _, by simp [nobody], by simp [nobody]⟩
  · have length : crowded.jobs.store.entities.length = 1001 := by simp [crowded]
    rw [length]
    decide
  · intro e he
    rw [one e he]
    decide

theorem stored_crowded : Kind.job.stored crowded =
    (List.range 1000).map (fun k => Store.idOf "J" (k + 1)) ++ ["J10000"] := by
  simp [Kind.stored, crowded]

/-- The identities of jobs stay as long as they are. -/
theorem length_lower_idOf (n : Nat) :
    (Unicode.lower (Store.idOf "J" n)).toList.length = (Text.digits n).length + 1 := by
  have digits : (Store.idOf "J" n).toList = 'J' :: Text.digits n := by
    simp [Store.idOf, Text.decimal]
  rw [length_lower, digits, List.length_cons]
  rw [digits]
  rintro d hd rfl
  rcases List.mem_cons.mp hd with letter | digit
  · cases letter
  · exact absurd (Text.isDigit_of_mem_digits digit) (by decide)

theorem typed_last : typed "J10000" = Unicode.lower "J10000" := by
  have trimmed : Text.trim "J10000" = "J10000" := by decide +kernel
  rw [typed, trimmed]

/-- The first thousand identities are too short to begin with the last one. -/
theorem beginning_crowded :
    beginning (typed "J10000") ((List.range 1000).map fun k => Store.idOf "J" (k + 1)) = [] := by
  have last : "J10000" = Store.idOf "J" 10000 := by decide +kernel
  rw [beginning, List.filter_eq_nil_iff, typed_last, last]
  intro id hid begins
  obtain ⟨k, hk, rfl⟩ := List.mem_map.mp hid
  have short : (Text.digits (k + 1)).length ≤ 4 :=
    Text.length_digits_le (by have := List.mem_range.mp hk; omega)
  have long : (Text.digits 10000).length = 5 := by decide +kernel
  have fits := (decide_eq_true_iff.mp begins).length_le
  rw [length_lower_idOf, length_lower_idOf, long] at fits
  omega

/-- The only job whose identity begins as it was typed is not found. -/
theorem missed_in_crowd :
    (∀ id, Identifier.ofText "J10000" ≠ .full id) ∧
      beginning (typed "J10000") (Kind.job.stored crowded) = ["J10000"] ∧
      (Kind.job.resolve (Registry.exchange (fun _ => []) .epoch) Post.localhost
        (.ofText "J10000")).run.run crowded =
          (.error (.noMatch .job (typed "J10000")), crowded) := by
  have leading : Identifier.ofText "J10000" = .leading (typed "J10000") :=
    Identifier.ofText_of_none (by decide +kernel)
  have last : beginning (typed "J10000") ["J10000"] = ["J10000"] := by
    rw [beginning, List.filter_cons_of_pos]
    · rfl
    · rw [typed_last]
      exact decide_eq_true (List.prefix_refl _)
  have seen : (Kind.job.stored crowded).take 1000 =
      (List.range 1000).map fun k => Store.idOf "J" (k + 1) := by
    rw [stored_crowded]
    exact List.take_left' (by simp)
  refine ⟨by rw [leading]; nofun, ?_, ?_⟩
  · rw [stored_crowded, beginning_append, beginning_crowded, last]
    rfl
  · have resolved := run_resolve (fun _ => []) .epoch Post.atRoot_localhost fits_crowded rfl rfl
      .job (typed "J10000")
    rw [leading, resolved, seen, uniqueMatch_eq, beginning_crowded]

end JobDispatch.CommandLine

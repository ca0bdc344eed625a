import JobDispatch.Proofs.CommandLine.Resolution
import JobDispatch.Proofs.Registry.Roster

/-!
Lists of runners that people ask for. They are told how many runners match, and are shown the first
hundred of them: as JSON, which is read back as a page of just these runners, or in a report with an
entry for each.
-/

namespace JobDispatch

/-- The runners that a criterion asks for, in the order of their registration. -/
def Registry.matching (reg : Registry) (p : RunnerParams) : List Runner :=
  reg.runners.store.entities.filter fun e => p.query.Holds e.value

namespace Registry

variable {reg : Registry}

theorem matching_eq (reg : Registry) (p : RunnerParams) :
    reg.runners.store.matching p.query.filter = reg.matching p :=
  Store.matching_eq p.query.accepts_filter_iff reg.runners.store

theorem matching_blank (reg : Registry) : reg.matching .blank = reg.runners.store.entities := by
  rw [← matching_eq, CommandLine.filter_blank_runners, Store.matching_all]

/-- Whatever was done with the runners, those that match stand as they came in. -/
theorem matching_ordered {label : String} {calls : List (StoreCall RunnerValue)}
    (h : reg.runners = (Repository.serve label calls).2) (p : RunnerParams) :
    ((reg.matching p).map Entity.id).Sublist
      ((Repository.serve label calls).1.filterMap StoreCall.created?) := by
  have stored := (Repository.serve_ordered label calls).1
  rw [← h] at stored
  exact (List.filter_sublist.map Entity.id).trans stored

end Registry

namespace CommandLine

/-- Lines as they are printed. -/
def printed (lines : List String) : String := "".intercalate (lines.map (· ++ "\n"))

theorem toList_printed (lines : List String) :
    (printed lines).toList = lines.flatMap fun l => l.toList ++ ['\n'] := by
  rw [printed, String.toList_intercalate]
  induction lines with
  | nil => rfl
  | cons l ls ih =>
    cases ls with
    | nil => simp [List.intercalate]
    | cons l' ls =>
      rw [List.flatMap_cons, ← ih]
      simp [List.intercalate]

/-- A text that lists runners and tells how many there are. As JSON it is read as a page of these
runners. A report tells the number in its first line and goes on with an entry for each runner; of
no runners at all it says only that. -/
inductive Enumerates (b : Brush) (shown : List Runner) (count : Nat) : Bool → String → Prop
  | json {text : String} {page : Page Runner} (reads : Wire.read text = .ok page)
      (items : page.items = shown) (total : page.total = count) :
      Enumerates b shown count true text
  | report (some_ : shown ≠ []) :
      Enumerates b shown count false (printed
        (b .bold ("Found " ++ Text.decimal count ++ " registered runner(s):") :: "" ::
          shown.flatMap (Report.runnerSummary b)))
  | nobody (none : shown = []) (zero : count = 0) :
      Enumerates b shown count false (printed [b .yellow "No runners registered."])

/-- What is shown of a page lists its runners and tells the size of the whole listing. -/
theorem enumerates_present (b : Brush) (json : Bool) {page : Page Runner}
    (faithful : Wire.Faithful page) (whole : page.items = [] → page.total = 0) :
    Enumerates b page.items page.total json (present json (Report.runnerList b) page) := by
  cases json with
  | true => exact .json faithful.read_pretty rfl rfl
  | false =>
    by_cases none : page.items = []
    · have report : Report.runnerList b page = [b .yellow "No runners registered."] := by
        simp [Report.runnerList, Page.isEmpty, none]
      rw [present, report]
      exact .nobody none (whole none)
    · have report : Report.runnerList b page =
          b .bold ("Found " ++ Text.decimal page.total ++ " registered runner(s):") :: "" ::
            page.items.flatMap (Report.runnerSummary b) := by
        simp [Report.runnerList, Page.isEmpty, none]
      rw [present, report]
      exact .report none

section

variable {b : Brush} {count : Nat} {json : Bool} {text : String}

/-- Every entry of a report takes some room. -/
theorem printed_summaries_ne_nil {runners : List Runner} (some_ : runners ≠ []) :
    (runners.flatMap (Report.runnerSummary b)).flatMap (fun l => l.toList ++ ['\n']) ≠ [] := by
  obtain ⟨r, rs, rfl⟩ := List.exists_cons_of_ne_nil some_
  simp [Report.runnerSummary]

/-- A text that lists some runners lists no others behind them. -/
theorem Enumerates.nothing_more {shown more : List Runner} (some_ : shown ≠ [])
    (h : Enumerates b shown count json text) (h' : Enumerates b (shown ++ more) count json text) :
    more = [] := by
  cases h with
  | nobody none => exact absurd none some_
  | json reads items =>
    cases h' with
    | json reads' items' =>
      rw [reads] at reads'
      obtain rfl := Except.ok.inj reads'
      rw [items] at items'
      exact List.self_eq_append_right.mp items'
  | report =>
    by_contra others
    generalize same : printed _ = text at h'
    cases h' with
    | nobody none => exact some_ (List.append_eq_nil_iff.mp none).1
    | report =>
      have chars := congrArg String.toList same
      simp only [toList_printed, List.flatMap_cons, List.flatMap_append, List.append_cancel_left_eq,
        List.self_eq_append_right] at chars
      exact printed_summaries_ne_nil others chars

/-- A text with the first runners in it and the number of all lists them all exactly if there are no
others. -/
theorem enumerates_iff_length {runners : List Runner} {limit : Nat} (positive : 0 < limit)
    (h : Enumerates b (runners.take limit) runners.length json text) :
    Enumerates b runners runners.length json text ↔ runners.length ≤ limit := by
  constructor
  · intro whole
    by_contra long
    have some_ : runners.take limit ≠ [] := by
      rw [← List.length_pos_iff, List.length_take]
      omega
    have all : Enumerates b (runners.take limit ++ runners.drop limit) runners.length json
        text := by
      rwa [List.take_append_drop]
    exact long (List.drop_eq_nil_iff.mp (h.nothing_more some_ all))
  · intro short
    rwa [List.take_of_length_le short] at h

end

section

variable {url : String} {reg : Registry} (root : (Client.ofAddress url).AtRoot) (fits : reg.Fits)
  (runners : reg.runners.plan = []) (worded : Nat → List UInt8) (now : Time.Instant)

include root fits runners

/-- People are shown the page of the first hundred runners that match. -/
theorem run_runnerList (b : Brush) (json : Bool) (p : RunnerParams) :
    (Invocation.run (Registry.exchange worded now) b ⟨url, json, .listRunners p⟩).run.run reg =
      (.ok (present json (Report.runnerList b) (Page.window (reg.matching p) 0 99)), reg) := by
  have window : runnerWindow.Fits := ⟨by decide, by decide⟩
  have listed := run_ask_bind none (run_listRunners worded now root fits runners p window)
    fun page => .ok (present json (Report.runnerList b) page)
  rw [Store.search, Registry.matching_eq] at listed
  exact listed

theorem enumerates_run (b : Brush) (json : Bool) (p : RunnerParams) :
    ∃ text, (Invocation.run (Registry.exchange worded now) b
        ⟨url, json, .listRunners p⟩).run.run reg = (.ok text, reg) ∧
      Enumerates b ((reg.matching p).take 100) (reg.matching p).length json text := by
  have faithful : Wire.Faithful (Page.window (reg.matching p) 0 99) := by
    rw [← Registry.matching_eq]
    exact fits.faithful_runners p.query (Nat.zero_le _)
  have items := Page.items_window_take (reg.matching p) 99
  have total := (Page.shows_window (reg.matching p) 0 99).total
  have whole : (Page.window (reg.matching p) 0 99).items = [] →
      (Page.window (reg.matching p) 0 99).total = 0 := by
    rw [items, total]
    simp
  have shown := enumerates_present b json faithful whole
  rw [items, total] at shown
  exact ⟨_, run_runnerList root fits runners worded now b json p, shown⟩

end

/-- People are told how many runners match, and are shown the first hundred of them in the order of
their registration. That is all that match exactly if there are no more than a hundred. -/
theorem enumerates_iff {url : String} {reg : Registry} (root : (Client.ofAddress url).AtRoot)
    (fits : reg.Fits) (runners : reg.runners.plan = []) (worded : Nat → List UInt8)
    (now : Time.Instant) (b : Brush) (json : Bool) (p : RunnerParams) :
    (∃ text, (Invocation.run (Registry.exchange worded now) b
        ⟨url, json, .listRunners p⟩).run.run reg = (.ok text, reg) ∧
      Enumerates b ((reg.matching p).take 100) (reg.matching p).length json text ∧
      (Enumerates b (reg.matching p) (reg.matching p).length json text ↔
        (reg.matching p).length ≤ 100)) ∧
    ∀ label calls, reg.runners = (Repository.serve label calls).2 →
      ((reg.matching p).map Entity.id).Sublist
        ((Repository.serve label calls).1.filterMap StoreCall.created?) := by
  obtain ⟨text, shown, first⟩ := enumerates_run root fits runners worded now b json p
  exact ⟨⟨text, shown, first, enumerates_iff_length (by decide) first⟩,
    fun label calls made => Registry.matching_ordered made p⟩

/-- Two of four runners are idle. -/
theorem enumerates_assorted :
    (Client.ofAddress "http://localhost/").AtRoot ∧ Registry.assorted.Fits ∧
      Registry.assorted.runners.plan = [] ∧
      ∃ text, (Invocation.run (Registry.exchange (fun _ => []) .epoch) .colours
          ⟨"http://localhost/", false, .listRunners ⟨none, none, some .idle⟩⟩).run.run
            Registry.assorted = (.ok text, Registry.assorted) ∧
        ((Registry.assorted.matching ⟨none, none, some .idle⟩).map Entity.id) = ["R1", "R3"] ∧
        Enumerates .colours (Registry.assorted.matching ⟨none, none, some .idle⟩) 2 false text := by
  have address : Client.ofAddress "http://localhost/" = Post.localhost := by decide +kernel
  have root : (Client.ofAddress "http://localhost/").AtRoot := by
    rw [address]
    exact Post.atRoot_localhost
  have idle : (Registry.assorted.matching ⟨none, none, some .idle⟩).map Entity.id =
      ["R1", "R3"] := by decide +kernel
  have two : (Registry.assorted.matching ⟨none, none, some .idle⟩).length = 2 := by
    simpa using congrArg List.length idle
  obtain ⟨⟨text, shown, -, complete⟩, -⟩ :=
    enumerates_iff root Registry.fits_assorted rfl (fun _ => []) .epoch .colours false
      ⟨none, none, some .idle⟩
  rw [two] at complete
  exact ⟨root, Registry.fits_assorted, rfl, text, shown, idle, complete.mpr (by decide)⟩

/-- A request to be registered that nothing is wrong with. -/
def guest : RegisterRunner := ⟨some "host", some 60, some ⟨some ["c"], some ["n"]⟩⟩

/-- A registry in which so many runners were registered, one after the other. -/
def throng : Nat → Registry
  | 0 => .empty
  | n + 1 => ((Registry.onRunners (Runners.register .epoch guest)).perform (throng n)).2

theorem throng_eq (n : Nat) : throng n = ⟨.empty "J", ⟨⟨"R", n, (List.range n).map fun k =>
    ⟨Store.idOf "R" (k + 1), 1, (RunnerCreation.mk guest.value).appliedAt .epoch⟩⟩, []⟩⟩ := by
  induction n with
  | zero => rfl
  | succ n ih =>
    rw [throng, ih, List.range_succ, List.map_append]
    rfl

theorem fits_throng : (throng 101).Fits := by
  rw [throng_eq]
  have one : ∀ e ∈ (List.range 101).map fun k => (⟨Store.idOf "R" (k + 1), 1,
      (RunnerCreation.mk guest.value).appliedAt .epoch⟩ : Runner),
      e.version < Text.maxWord ∧ LiveFits e.value.timeToLive := by
    intro e he
    obtain ⟨k, -, rfl⟩ := List.mem_map.mp he
    have version : 1 < Text.maxWord := by decide
    have live : LiveFits (some 60) := by decide
    exact ⟨version, live⟩
  refine ⟨Nat.zero_le _, fun e he => absurd he List.not_mem_nil, ?_, fun e he => (one e he).1,
    fun e he => (one e he).2⟩
  rw [List.length_map, List.length_range]
  decide

theorem length_matching_throng (n : Nat) : ((throng n).matching .blank).length = n := by
  rw [Registry.matching_blank, throng_eq, List.length_map, List.length_range]

/-- Of a hundred and one runners that were registered one is not shown, and all of them are
counted. -/
theorem not_enumerated_throng :
    ((throng 101).matching .blank).length = 101 ∧
      ∃ text, (Invocation.run (Registry.exchange (fun _ => []) .epoch) .none
          ⟨"http://localhost", false, .listRunners .blank⟩).run.run (throng 101) =
            (.ok text, throng 101) ∧
        Enumerates .none (((throng 101).matching .blank).take 100) 101 false text ∧
        ¬ Enumerates .none ((throng 101).matching .blank) 101 false text := by
  have address : Client.ofAddress "http://localhost" = Post.localhost := by decide +kernel
  have root : (Client.ofAddress "http://localhost").AtRoot := by
    rw [address]
    exact Post.atRoot_localhost
  have all := length_matching_throng 101
  have planned : (throng 101).runners.plan = [] := by rw [throng_eq]
  obtain ⟨text, shown, first⟩ :=
    enumerates_run root fits_throng planned (fun _ => []) .epoch .none false .blank
  have complete := enumerates_iff_length (by decide) first
  rw [all] at first complete
  exact ⟨all, text, shown, first, fun whole => absurd (complete.mp whole) (by decide)⟩

end CommandLine

end JobDispatch

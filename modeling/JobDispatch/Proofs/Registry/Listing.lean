import JobDispatch.Proofs.Text.Decimal
import JobDispatch.Registry.Listing

/-!
Requests for listings: which entities are asked for and which window of them are told apart again
in the form that holds both, and nothing is added to what was left out.
-/

namespace JobDispatch

open Http (Form)

namespace Http.Form

theorem filter_entry (name other : String) (value : Option String) :
    (Form.entry name value).filter (fun p => p.1 == other) =
      if name = other then Form.entry name value else [] := by
  cases value with
  | none => simp [Form.entry]
  | some v => by_cases same : name = other <;> simp [Form.entry, same]

/-- What was written of a value, or of none, is read back. -/
theorem read?_of_filter {α : Type} {f : Form} {name : String} {o : Option α} {write : α → String}
    {read : String → Option α}
    (only : f.filter (fun p => p.1 == name) = Form.entry name (o.map write))
    (back : ∀ a ∈ o, read (write a) = some a) : f.read? name read = some o := by
  cases o with
  | none => simp [read?, field?, only, Form.entry]
  | some a => simp [read?, field?, only, Form.entry, back a rfl]

theorem text_of_filter {f : Form} {name : String} {o : Option String}
    (only : f.filter (fun p => p.1 == name) = Form.entry name o) : f.read? name some = some o := by
  rw [← Option.map_id_apply (x := o)] at only
  exact read?_of_filter only fun _ _ => rfl

end Http.Form

open Http.Form (filter_entry read?_of_filter text_of_filter)

namespace Window

variable {f : Form} {w : Window}

theorem toForm_eq (w : Window) : w.toForm =
    Form.entry "start" (some (Text.decimal w.start)) ++
      Form.entry "end" (some (Text.decimal w.stop)) := rfl

/-- A window is read back behind a form that names none. -/
theorem ofForm?_append (other : ∀ p ∈ f, p.1 ≠ "start" ∧ p.1 ≠ "end")
    (start : w.start ≤ Text.maxWord) (stop : w.stop ≤ Text.maxWord) :
    ofForm? (f ++ w.toForm) = some w := by
  have noStart : f.filter (fun p => p.1 == "start") = [] := by
    refine List.filter_eq_nil_iff.mpr ?_
    intro p hp
    simpa using (other p hp).1
  have noStop : f.filter (fun p => p.1 == "end") = [] := by
    refine List.filter_eq_nil_iff.mpr ?_
    intro p hp
    simpa using (other p hp).2
  have starts : (f ++ w.toForm).filter (fun p => p.1 == "start") =
      Form.entry "start" ((some w.start).map Text.decimal) := by
    simp [toForm_eq, noStart, filter_entry]
  have stops : (f ++ w.toForm).filter (fun p => p.1 == "end") =
      Form.entry "end" ((some w.stop).map Text.decimal) := by
    simp [toForm_eq, noStop, filter_entry]
  have start_ : (f ++ w.toForm).read? "start" (Text.readNat Text.maxWord) = some (some w.start) :=
    read?_of_filter starts fun n hn => by
      obtain rfl := Option.some.inj hn
      exact Text.readNat_decimal start
  have stop_ : (f ++ w.toForm).read? "end" (Text.readNat Text.maxWord) = some (some w.stop) :=
    read?_of_filter stops fun n hn => by
      obtain rfl := Option.some.inj hn
      exact Text.readNat_decimal stop
  simp only [ofForm?, start_, stop_]
  rfl

end Window

/-- The names that a written entry can have. -/
theorem Form.name_of_mem_entry {name : String} {value : Option String} {p : String × String}
    (h : p ∈ Form.entry name value) : p.1 = name := by
  obtain ⟨v, -, rfl⟩ := Option.map_eq_some_iff.mp (Option.mem_toList.mp h)
  rfl

section

variable (w : Window)

theorem JobParams.ofForm?_append (p : JobParams) : ofForm? (p.toForm ++ w.toForm) = some p := by
  have account : (p.toForm ++ w.toForm).read? "account_id" some = some p.accountId :=
    text_of_filter (by simp [toForm, Window.toForm_eq, filter_entry])
  have category : (p.toForm ++ w.toForm).read? "category" some = some p.category :=
    text_of_filter (by simp [toForm, Window.toForm_eq, filter_entry])
  have names : (p.toForm ++ w.toForm).read? "names" some = some p.names :=
    text_of_filter (by simp [toForm, Window.toForm_eq, filter_entry])
  have run : ((p.toForm ++ w.toForm).read? "run_status" fun s => RunStatus.names.lookup s) =
      some p.run :=
    read?_of_filter (by simp [toForm, Window.toForm_eq, filter_entry])
      fun s _ => RunStatus.lookup_name s
  have exit : ((p.toForm ++ w.toForm).read? "exit_status" fun s => ExitStatus.names.lookup s) =
      some p.exit :=
    read?_of_filter (by simp [toForm, Window.toForm_eq, filter_entry])
      fun s _ => ExitStatus.lookup_name s
  simp only [ofForm?, account, category, names, run, exit]
  rfl

theorem JobParams.names_toForm (p : JobParams) :
    ∀ q ∈ p.toForm, q.1 ≠ "start" ∧ q.1 ≠ "end" := by
  intro q hq
  simp only [toForm, List.mem_append] at hq
  rcases hq with (((hq | hq) | hq) | hq) | hq
  all_goals
    rw [Form.name_of_mem_entry hq]
    decide

theorem RunnerParams.ofForm?_append (p : RunnerParams) :
    ofForm? (p.toForm ++ w.toForm) = some p := by
  have category : (p.toForm ++ w.toForm).read? "category" some = some p.category :=
    text_of_filter (by simp [toForm, Window.toForm_eq, filter_entry])
  have name : (p.toForm ++ w.toForm).read? "name" some = some p.name :=
    text_of_filter (by simp [toForm, Window.toForm_eq, filter_entry])
  have status : ((p.toForm ++ w.toForm).read? "status" fun s => RunnerStatus.names.lookup s) =
      some p.status :=
    read?_of_filter (by simp [toForm, Window.toForm_eq, filter_entry])
      fun s _ => RunnerStatus.lookup_name s
  simp only [ofForm?, category, name, status]
  rfl

theorem RunnerParams.names_toForm (p : RunnerParams) :
    ∀ q ∈ p.toForm, q.1 ≠ "start" ∧ q.1 ≠ "end" := by
  intro q hq
  simp only [toForm, List.mem_append] at hq
  rcases hq with (hq | hq) | hq
  all_goals
    rw [Form.name_of_mem_entry hq]
    decide

end

end JobDispatch

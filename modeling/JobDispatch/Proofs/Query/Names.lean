import JobDispatch.Proofs.Query.Criteria
import Mathlib.Data.List.DropRight

/-!
Lists of names with commas. A text is split into names that can stand in such a list again: they are
found again, all of them and in their order, however often they are joined and split. Names in the
parameters of a request are written as such a list, and asked for as they were given if and only if
each of them is found again in it.
-/

namespace JobDispatch

namespace Text

theorem trimEnd_eq (s : List Char) : trimEnd s = s.rdropWhile isBlank := rfl

/-- What is cut off at the end of a text that begins with no blank leaves the beginning. -/
theorem trimStart_trimEnd (s : List Char) :
    trimStart (trimEnd (trimStart s)) = trimEnd (trimStart s) := by
  apply List.dropWhile_eq_self_iff.mpr
  intro some_left
  have shorter : trimEnd (trimStart s) <+: trimStart s := by
    rw [trimEnd_eq]
    exact List.rdropWhile_prefix isBlank _
  have bound : 0 < (trimStart s).length := some_left.trans_le shorter.length_le
  have first : (trimEnd (trimStart s))[0] = (trimStart s)[0] := shorter.getElem some_left
  rw [first]
  exact List.dropWhile_get_zero_not isBlank s bound

theorem toList_trim (s : String) : (trim s).toList = trimEnd (trimStart s.toList) :=
  String.toList_ofList

theorem trim_trim (s : String) : trim (trim s) = trim s := by
  apply String.toList_injective
  rw [toList_trim (trim s), toList_trim, trimStart_trimEnd, trimEnd_eq]
  exact List.rdropWhile_idempotent isBlank _

theorem mem_of_mem_trim {s : String} {c : Char} (h : c ∈ (trim s).toList) : c ∈ s.toList := by
  rw [toList_trim, trimEnd_eq] at h
  have start := (List.rdropWhile_prefix isBlank _).subset h
  exact (List.dropWhile_suffix isBlank).subset start

end Text

/-- No part of a text that is split has the mark at which it is split. -/
theorem not_mem_of_mem_splitOn {mark : Char} {s part : List Char} (h : part ∈ s.splitOn mark) :
    mark ∉ part := by
  induction s generalizing part with
  | nil =>
    simp only [List.splitOn_nil, List.mem_singleton] at h
    simp [h]
  | cons c s ih =>
    rw [List.splitOn_cons_eq_if_modifyHead] at h
    split_ifs at h with same
    · rcases List.mem_cons.mp h with rfl | h
      · exact List.not_mem_nil
      · exact ih h
    · cases parts : s.splitOn mark with
      | nil => exact absurd parts (List.splitOn_ne_nil mark s)
      | cons first rest =>
        rw [parts] at h ih
        rcases List.mem_cons.mp h with rfl | h
        · intro there
          rcases List.mem_cons.mp there with rfl | there
          · exact same (by simp)
          · exact ih List.mem_cons_self there
        · exact ih (List.mem_cons_of_mem first h)

/-- A name that can stand between the commas of a list. -/
structure PlainName (n : String) : Prop where
  noComma : ',' ∉ n.toList
  trimmed : Text.trim n = n
  nonempty : n ≠ ""

/-- Whatever a text is split into can stand in a list again. -/
theorem plainName_of_mem_splitNames {s n : String} (h : n ∈ splitNames s) : PlainName n := by
  obtain ⟨mem, nonempty⟩ := List.mem_filter.mp h
  obtain ⟨part, split, rfl⟩ := List.mem_map.mp mem
  refine ⟨?_, Text.trim_trim _, by simpa using nonempty⟩
  intro comma
  have there := Text.mem_of_mem_trim comma
  rw [String.toList_ofList] at there
  exact not_mem_of_mem_splitOn split there

/-- Plain names are found again in the list that is made of them. -/
theorem splitNames_joinNames {ns : List String} (plain : ∀ n ∈ ns, PlainName n) :
    splitNames (joinNames ns) = ns := by
  by_cases none : ns = []
  · subst none
    rfl
  · have noComma : ∀ part ∈ ns.map String.toList, ',' ∉ part := by
      intro part hp
      obtain ⟨n, hn, rfl⟩ := List.mem_map.mp hp
      exact (plain n hn).noComma
    have written : (joinNames ns).toList = [','].intercalate (ns.map String.toList) :=
      String.toList_intercalate
    have parts : (joinNames ns).toList.splitOn ',' = ns.map String.toList := by
      rw [written]
      exact List.splitOn_intercalate ',' noComma (by simpa using none)
    have trimmed : (ns.map String.toList).map (fun p => Text.trim (String.ofList p)) = ns := by
      rw [List.map_map]
      refine (List.map_congr_left ?_).trans (List.map_id ns)
      intro n hn
      change Text.trim (String.ofList n.toList) = n
      rw [String.ofList_toList, (plain n hn).trimmed]
    have full : ns.filter (· != "") = ns := by
      refine List.filter_eq_self.mpr ?_
      intro n hn
      simpa using (plain n hn).nonempty
    rw [splitNames, parts, trimmed, full]

/-- What a text is split into is found again in a list that is made of it. -/
theorem splitNames_joinNames_splitNames (s : String) :
    splitNames (joinNames (splitNames s)) = splitNames s :=
  splitNames_joinNames fun _ => plainName_of_mem_splitNames

example : splitNames (joinNames (splitNames " a b ,,\tc,")) = ["a b", "c"] := by
  decide +kernel

/-! Names in the parameters of a request -/

namespace JobParams

/-- The query of parameters that ask for just the given names. -/
def naming (p : JobParams) (names : List String) : JobQuery :=
  ⟨[⟨p.accountId, p.category, names, p.run, p.exit⟩]⟩

/-- The job that parameters ask for, without a name or with one. -/
def sample (p : JobParams) (name : Option String) : JobValue :=
  { JobValue.blank with
    name := name, category := p.category, status := ⟨p.run, p.exit⟩, accountId := p.accountId }

theorem accepts_sample_iff (p : JobParams) (names : List String) (name : Option String) :
    (p.naming names).filter.accepts (p.sample name).document = true ↔
      names = [] ∨ ∃ n ∈ names, name = some n := by
  rw [JobQuery.accepts_filter_iff, naming, List.forall_mem_singleton]
  constructor
  · exact JobCriteria.Holds.names
  · intro named
    exact ⟨fun _ => id, fun _ => id, named, fun _ => id, fun _ => id⟩

/-- Names that are given are joined and split again. -/
theorem query_withNames {p : JobParams} {names : List String} (given : names ≠ []) :
    (p.withNames names).query = p.naming (splitNames (joinNames names)) := by
  have some_ : names.isEmpty = false := by simpa using given
  simp [withNames, query, naming, some_]

/-- Parameters with names select the same jobs as the names themselves if and only if each name can
stand in a list with commas. -/
theorem withNames_iff (p : JobParams) (names : List String) :
    (∀ v : JobValue, (p.withNames names).query.filter.accepts v.document =
        (p.naming names).filter.accepts v.document) ↔ ∀ n ∈ names, PlainName n := by
  by_cases given : names = []
  · subst given
    simp [withNames, query, naming]
  · rw [query_withNames given]
    constructor
    · intro same n hn
      -- A nameless job tells whether the names are still asked for, and one of the name which are.
      have named : splitNames (joinNames names) ≠ [] := by
        intro none
        have open_ := (accepts_sample_iff p _ Option.none).mpr (.inl none)
        rw [same, accepts_sample_iff] at open_
        simp [given] at open_
      have asked := (accepts_sample_iff p names (some n)).mpr (.inr ⟨n, hn, rfl⟩)
      rw [← same, accepts_sample_iff] at asked
      obtain none | ⟨m, hm, found⟩ := asked
      · exact absurd none named
      · cases found
        exact plainName_of_mem_splitNames hm
    · intro plain v
      rw [splitNames_joinNames plain]

/-- A name of which nothing is left when the list is split leaves the name open. -/
theorem withNames_blank :
    (blank.withNames [""]).query.filter.accepts JobValue.blank.document = true ∧
      (blank.naming [""]).filter.accepts JobValue.blank.document = false := by
  decide +kernel

example : (blank.withNames ["a,b", " c "]).query = blank.naming ["a", "b", "c"] := by
  decide +kernel

end JobParams

end JobDispatch

import JobDispatch.Pattern.Reader
import Mathlib.Tactic.SplitIfs

/-!
Patterns with something behind them. Anchors are put around a pattern's text before it is read: a
group is opened in front of it, and behind it stands the parenthesis that ends the group. Each
reader takes from a pattern's text what it takes from the text with that parenthesis behind it; only
where a text ends too early may it find in the parenthesis what it lacks.
-/

namespace JobDispatch.Pattern

/-- What is put behind a pattern. -/
def closing : List Char := ")$".toList

/-- A reader that takes from a text what it takes from the text with a parenthesis behind it. What
it fails on may differ: a text that ends too early may go on behind. -/
def Robust {β : Type} (f : List Char → Option (β × List Char)) : Prop :=
  ∀ s b rest, f s = some (b, rest) → f (s ++ closing) = some (b, rest ++ closing)

theorem Robust.map {β γ : Type} {f : List Char → Option (β × List Char)} (hf : Robust f)
    (g : β → γ) : Robust fun s => (f s).map fun d => (g d.1, d.2) := by
  intro s b rest h
  obtain ⟨⟨a, r⟩, read, same⟩ := Option.map_eq_some_iff.mp h
  obtain ⟨rfl, rfl⟩ := Prod.mk.inj same
  simp only [hf s a r read, Option.map_some]

section Readers

variable {verbose negated dangling : Bool} {changes : List FlagChange} {s r : List Char} {c : Char}

/-! White space and comments -/

theorem skipSpace_append {comment : Bool} (t : List Char) (h : skipSpace comment s = c :: r) :
    skipSpace comment (s ++ t) = c :: (r ++ t) := by
  induction s generalizing comment with
  | nil => cases h
  | cons d s ih =>
    rw [List.cons_append, skipSpace]
    rw [skipSpace] at h
    split_ifs at h ⊢
    · exact ih h
    · exact ih h
    · exact ih h
    · cases h
      rfl

theorem skip_append (h : skip verbose s = c :: r) :
    skip verbose (s ++ closing) = c :: (r ++ closing) := by
  cases verbose with
  | false =>
    obtain rfl : s = c :: r := h
    rfl
  | true => exact skipSpace_append closing h

theorem skipSpace_closing {comment : Bool} (h : skipSpace comment s = []) :
    skipSpace comment (s ++ closing) = [] ∨ skipSpace comment (s ++ closing) = closing := by
  induction s generalizing comment with
  | nil => cases comment <;> simp [skipSpace, closing, Text.isBlank]
  | cons d s ih =>
    rw [List.cons_append, skipSpace]
    rw [skipSpace] at h
    split_ifs at h ⊢
    · exact ih h
    · exact ih h
    · exact ih h

/-- Where only white space is left, a parenthesis behind it is found, or is part of a comment. -/
theorem skip_closing (h : skip verbose s = []) :
    skip verbose (s ++ closing) = [] ∨ skip verbose (s ++ closing) = closing := by
  cases verbose with
  | false =>
    obtain rfl : s = [] := h
    exact .inr rfl
  | true => exact skipSpace_closing h

theorem skip_append_of_ne_nil (h : skip verbose s ≠ []) :
    skip verbose (s ++ closing) = skip verbose s ++ closing := by
  cases found : skip verbose s with
  | nil => exact absurd found h
  | cons c r => exact skip_append found

/-! Escapes -/

theorem robust_hexDigits (n : Nat) : Robust (hexDigits verbose n) := by
  induction n with
  | zero =>
    rintro s ds rest ⟨⟩
    rfl
  | succ n ih =>
    intro s ds rest h
    rw [hexDigits] at h ⊢
    cases found : skip verbose s with
    | nil =>
      rw [found] at h
      cases h
    | cons c r =>
      rw [found] at h
      rw [skip_append found]
      simp only at h ⊢
      split_ifs at h ⊢
      exact ih.map (c :: ·) r ds rest h

theorem braced_eq (s : List Char) : braced verbose s =
    match skip verbose s with
    | [] => none
    | '}' :: r => some ([], r)
    | c :: r => (braced verbose r).map fun d => (c :: d.1, d.2) := by
  rw [braced]
  split <;> simp_all

theorem robust_braced : Robust (braced verbose) := by
  intro s
  fun_induction braced verbose s with
  | case1 s found =>
    rintro b rest ⟨⟩
  | case2 s r found =>
    rintro b rest ⟨⟩
    rw [braced_eq, skip_append found]
    rfl
  | case3 s c r other found ih =>
    intro b rest h
    rw [braced_eq, skip_append found]
    split
    · next end_ => cases end_
    · next end_ =>
      obtain ⟨rfl, -⟩ := List.cons.inj end_
      exact absurd rfl other
    · next same =>
      obtain ⟨rfl, rfl⟩ := List.cons.inj same
      obtain ⟨⟨a, r'⟩, read, same⟩ := Option.map_eq_some_iff.mp h
      obtain ⟨rfl, rfl⟩ := Prod.mk.inj same
      rw [ih a r' read]
      rfl

theorem robust_hexChar (count : Nat) : Robust (hexChar verbose (count + 1)) := by
  intro s l rest h
  rw [hexChar] at h ⊢
  cases found : skip verbose s with
  | nil =>
    have none : hexDigits verbose (count + 1) [] = none := by cases verbose <;> rfl
    rw [found] at h
    simp [none] at h
  | cons c r =>
    rw [found] at h
    rw [skip_append found]
    split at h
    · next same =>
      cases same
      obtain ⟨⟨ds, r'⟩, read, h⟩ := Option.bind_eq_some_iff.mp h
      simp only [Option.ite_none_right_eq_some] at h
      obtain ⟨hex, h⟩ := h
      obtain ⟨ch, char, same⟩ := Option.bind_eq_some_iff.mp h
      cases same
      simpa [robust_braced _ _ _ read, char] using hex
    · next brace =>
      obtain ⟨⟨ds, r'⟩, read, h⟩ := Option.bind_eq_some_iff.mp h
      obtain ⟨ch, char, same⟩ := Option.bind_eq_some_iff.mp h
      cases same
      have more := robust_hexDigits _ _ _ _ read
      rw [List.cons_append] at more
      split
      · simp_all
      · next other => simp [more, char]

theorem robust_property (negated : Bool) : Robust (property verbose negated) := by
  intro s b rest h
  rw [property] at h ⊢
  cases found : skip verbose s with
  | nil =>
    rw [found] at h
    cases h
  | cons c r =>
    rw [found] at h
    rw [skip_append found]
    split at h
    · cases h
    · next same =>
      cases same
      exact robust_braced.map _ _ _ _ h
    · cases h
    · next brace slash same =>
      cases same
      cases h
      split <;> simp_all

theorem robust_wordBound : Robust (wordBound verbose) := by
  intro s a rest h
  rw [wordBound.eq_def] at h ⊢
  cases s with
  | nil =>
    cases h
    rfl
  | cons c r =>
    rw [List.cons_append]
    by_cases brace : c = '{'
    · subst brace
      simp only at h ⊢
      cases found : skip verbose r with
      | nil =>
        rw [found] at h
        cases h
      | cons d r' =>
        rw [found] at h
        rw [skip_append found]
        simp only at h ⊢
        split_ifs at h ⊢ with bound
        · cases name : braced verbose r with
          | none =>
            rw [name] at h
            cases h
          | some x =>
            obtain ⟨ds, r''⟩ := x
            rw [name] at h
            rw [robust_braced _ _ _ name]
            simp only at h ⊢
            split_ifs at h ⊢ <;> (cases h; rfl)
        · cases h
          rfl
    · obtain ⟨rfl, rfl⟩ : Anchor.wordBound = a ∧ c :: r = rest := by simpa [brace] using h
      simp [brace]

theorem robust_escape : Robust (escape verbose) := by
  intro s a rest h
  cases s with
  | nil => cases h
  | cons c r =>
    rw [List.cons_append]
    simp only [escape] at h ⊢
    split at h
    · exact (robust_hexChar 1).map _ _ _ _ h
    · exact (robust_hexChar 3).map _ _ _ _ h
    · exact (robust_hexChar 7).map _ _ _ _ h
    · exact (robust_property false).map _ _ _ _ h
    · exact (robust_property true).map _ _ _ _ h
    · cases h; rfl
    · cases h; rfl
    · cases h; rfl
    · cases h; rfl
    · cases h; rfl
    · cases h; rfl
    · cases h; rfl
    · cases h; rfl
    · exact robust_wordBound.map _ _ _ _ h
    · cases h; rfl
    · cases h; rfl
    · cases h; rfl
    · split_ifs at h ⊢
      · cases h; rfl
      · obtain ⟨d, control, same⟩ := Option.map_eq_some_iff.mp h
        cases same
        rw [control]
        rfl

/-! Groups -/

theorem robust_flagChanges (negated dangling : Bool) (changes : List FlagChange) :
    Robust (flagChanges negated dangling changes) := by
  intro s
  induction s generalizing negated dangling changes with
  | nil => nofun
  | cons c s ih =>
    intro b rest h
    rw [List.cons_append]
    rw [flagChanges] at h ⊢
    split_ifs at h ⊢
    · cases h
      rfl
    · exact ih _ _ _ _ _ h
    · cases flag : Flag.ofChar? c with
      | none =>
        rw [flag] at h
        cases h
      | some f =>
        rw [flag] at h
        simp only at h ⊢
        split_ifs at h ⊢
        exact ih _ _ _ _ _ h

theorem robust_captureName (first : Bool) : Robust (captureName first) := by
  intro s
  induction s generalizing first with
  | nil => nofun
  | cons c s ih =>
    intro b rest h
    rw [List.cons_append]
    rw [captureName] at h ⊢
    split_ifs at h ⊢
    · cases h
      rfl
    · obtain ⟨⟨ds, r⟩, read, same⟩ := Option.map_eq_some_iff.mp h
      cases same
      rw [ih false ds r read]
      rfl

/-- Whether an item opens a group. -/
def Item.opens : Item → Bool
  | opening .. => true
  | _ => false

/-- Changes of flags begin with none of the signs that begin other groups. -/
theorem flagChanges_front {x : List FlagChange × List Char}
    (h : flagChanges negated dangling changes (c :: s) = some x) :
    c ≠ '=' ∧ c ≠ '!' ∧ c ≠ '<' ∧ c ≠ 'P' := by
  refine ⟨?_, ?_, ?_, ?_⟩ <;>
  · rintro rfl
    simp [flagChanges, Flag.ofChar?] at h

theorem groupStart_capture (found : skip verbose s = c :: r) (other : c ≠ '?') :
    groupStart verbose s = some (.opening .capture none, c :: r) := by
  rw [groupStart, found]
  split <;> simp_all

theorem groupStart_flags {d : Char} {rest : List Char} (found : skip verbose s = '?' :: r)
    (read : flagChanges false false [] r = some (changes, d :: rest)) :
    groupStart verbose s =
      if d = ')' then if changes = [] then none else some (.flags changes, rest)
      else some (.opening (.flagged changes) none, rest) := by
  cases r with
  | nil => cases read
  | cons c r =>
    obtain ⟨equal, bang, angle, letter⟩ := flagChanges_front read
    rw [groupStart, found]
    by_cases ends : d = ')'
    · cases changes <;> simp [equal, bang, angle, letter, read, ends]
    · simp [equal, bang, angle, letter, read, ends]

theorem groupStart_named (found : skip verbose s = '?' :: '<' :: c :: r) (equal : c ≠ '=')
    (bang : c ≠ '!') : groupStart verbose s =
      (captureName true (c :: r)).map fun d => (.opening .capture (some d.1), d.2) := by
  rw [groupStart, found]
  simp [equal, bang]

/-- Where a group is opened, something has to follow: the white space that was passed over to the
end of a text might be a comment, which hides the parenthesis. -/
theorem groupStart_closing {i : Item} {rest : List Char}
    (h : groupStart verbose s = some (i, rest)) (more : i.opens = true → rest ≠ []) :
    groupStart verbose (s ++ closing) = some (i, rest ++ closing) := by
  rw [groupStart] at h
  cases found : skip verbose s with
  | nil =>
    rw [found] at h
    cases h
    exact absurd rfl (more rfl)
  | cons c r =>
    have found' := skip_append found
    rw [found] at h
    split at h
    · cases h
    · cases h
    · cases h
    · cases h
    · next same =>
      cases same
      rw [groupStart, found']
      exact (robust_captureName true).map (fun d => Item.opening .capture (some d)) _ _ _ h
    · next r' equal bang same =>
      cases same
      have read := (robust_captureName true).map (fun d => Item.opening .capture (some d)) _ _ _ h
      cases r' with
      | nil => cases h
      | cons d r' =>
        rw [groupStart_named found' (fun mark => equal r' (mark ▸ rfl))
          fun mark => bang r' (mark ▸ rfl)]
        exact read
    · next same =>
      cases same
      split at h
      · cases h
      · next change read =>
        cases h
        rw [groupStart_flags found' (robust_flagChanges _ _ _ _ _ _ read), if_pos rfl,
          if_neg change]
        rfl
      · next colon read =>
        cases h
        rw [groupStart_flags found' (robust_flagChanges _ _ _ _ _ _ read), if_neg colon]
        rfl
      · cases h
    · next opens =>
      cases h
      exact groupStart_capture found' fun mark => opens r (mark ▸ rfl)

/-! Quantifiers -/

theorem dropLazy_closing (s : List Char) : dropLazy (s ++ closing) = dropLazy s ++ closing := by
  cases s with
  | nil => rfl
  | cons c s =>
    by_cases lazy : c = '?'
    · subst lazy
      rfl
    · simp [dropLazy, lazy]

theorem digitRow_closing (more : (digitRow verbose s).2 ≠ []) :
    digitRow verbose (s ++ closing) =
      ((digitRow verbose s).1, (digitRow verbose s).2 ++ closing) := by
  fun_induction digitRow verbose s with
  | case1 => exact absurd rfl more
  | case2 c r digit d ih =>
    have inside : skip verbose r ≠ [] := by
      intro none
      simp [d, none, digitRow] at more
    rw [List.cons_append, digitRow, if_pos digit, skip_append_of_ne_nil inside, ih more]
  | case3 c r other =>
    rw [List.cons_append, digitRow, if_neg other]

theorem dropWhile_closing {p : Char → Bool} (more : s.dropWhile p ≠ []) :
    (s ++ closing).dropWhile p = s.dropWhile p ++ closing := by
  rw [List.dropWhile_append, if_neg]
  simpa using more

theorem count_closing {n : Nat} {rest : List Char} (h : count verbose s = some (n, rest))
    (more : rest ≠ []) : count verbose (s ++ closing) = some (n, rest ++ closing) := by
  simp only [count] at h ⊢
  split_ifs at h with digits
  cases h
  have behind : skip verbose (digitRow verbose (s.dropWhile Text.isBlank)).2 ≠ [] := by
    intro none
    rw [none] at more
    exact more rfl
  have row : (digitRow verbose (s.dropWhile Text.isBlank)).2 ≠ [] := by
    intro none
    rw [none] at behind
    cases verbose <;> exact behind rfl
  have start : s.dropWhile Text.isBlank ≠ [] := by
    intro none
    rw [none] at row
    simp [digitRow] at row
  rw [dropWhile_closing start, digitRow_closing row, skip_append_of_ne_nil behind, if_pos digits,
    dropWhile_closing more]

theorem robust_closeCount (low : Nat) (high : Option Nat) :
    Robust (closeCount verbose low high) := by
  intro s i rest h
  cases s with
  | nil => cases h
  | cons c r =>
    by_cases brace : c = '}'
    · subst brace
      rw [List.cons_append]
      simp only [closeCount] at h ⊢
      split_ifs at h ⊢
      cases found : skip verbose r with
      | nil =>
        rw [found] at h
        cases h
        rcases skip_closing found with behind | behind
        · rw [behind]
        · rw [behind]
          rfl
      | cons d r' =>
        rw [skip_append found]
        rw [found] at h
        by_cases lazy : d = '?'
        · subst lazy
          cases h
          rfl
        · cases h
          simp [lazy]
    · simp [closeCount, brace] at h

theorem closeCount_ne_nil {low : Nat} {high : Option Nat} {x : Item × List Char}
    (h : closeCount verbose low high s = some x) : s ≠ [] := by
  rintro rfl
  cases h

theorem count_skip_closing {n : Nat} {rest : List Char}
    (h : count verbose (skip verbose s) = some (n, rest)) (more : rest ≠ []) :
    count verbose (skip verbose (s ++ closing)) = some (n, rest ++ closing) := by
  have inside : skip verbose s ≠ [] := by
    intro none
    simp [none, count, digitRow] at h
  rw [skip_append_of_ne_nil inside, count_closing h more]

theorem robust_counted : Robust (counted verbose) := by
  intro s i rest h
  rw [counted] at h ⊢
  split at h
  · cases h
  · next low r read =>
    rw [count_skip_closing read (List.cons_ne_nil _ _)]
    simp only [List.cons_append] at h ⊢
    split at h
    · next found =>
      rw [skip_append found]
      exact robust_closeCount low none _ _ _ h
    · next r' open_ =>
      split at h
      · cases h
      · next high rest' read =>
        have more := count_closing read (closeCount_ne_nil h)
        cases found : skip verbose r with
        | nil => simp [found, count, digitRow] at read
        | cons d r' =>
          have brace : d ≠ '}' := fun mark => open_ r' (mark ▸ found)
          rw [found, List.cons_append] at more
          simp only [skip_append found]
          simpa [brace, more] using robust_closeCount low (some high) _ _ _ h
  · next low r other read =>
    have more := closeCount_ne_nil h
    rw [count_skip_closing read more]
    cases r with
    | nil => exact absurd rfl more
    | cons c r =>
      have comma : c ≠ ',' := fun mark => other r (mark ▸ rfl)
      simpa [comma] using robust_closeCount low (some low) _ _ _ h

/-! Classes in brackets -/

theorem leadingHyphens_eq (s : List Char) : leadingHyphens verbose s =
    match skip verbose s with
    | '-' :: r => (verbatim '-' :: (leadingHyphens verbose r).1, (leadingHyphens verbose r).2)
    | r => ([], r) := by
  rw [leadingHyphens]
  split <;> simp_all

theorem leadingHyphens_nil : leadingHyphens verbose [] = ([], []) := by
  rw [leadingHyphens_eq]
  cases verbose <;> rfl

theorem leadingHyphens_closing (more : (leadingHyphens verbose s).2 ≠ []) :
    leadingHyphens verbose (s ++ closing) =
      ((leadingHyphens verbose s).1, (leadingHyphens verbose s).2 ++ closing) := by
  fun_induction leadingHyphens verbose s with
  | case1 s r found d ih =>
    rw [leadingHyphens_eq, skip_append found]
    simp only [ih more, d]
  | case2 s other =>
    cases found : skip verbose s with
    | nil => exact absurd found more
    | cons c r =>
      have hyphen : c ≠ '-' := fun mark => other r (mark ▸ found)
      rw [leadingHyphens_eq, skip_append found]
      simp [hyphen]

/-- The caret with which a bracket asks for the other characters. -/
def caret : List Char → Bool × List Char
  | '^' :: r => (true, r)
  | r => (false, r)

theorem caret_closing (s : List Char) :
    caret (s ++ closing) = ((caret s).1, (caret s).2 ++ closing) := by
  cases s with
  | nil => rfl
  | cons c r =>
    by_cases mark : c = '^'
    · subst mark
      rfl
    · simp [caret, mark]

theorem bracketStart_eq (s : List Char) : bracketStart verbose s =
    match leadingHyphens verbose (caret (skip verbose s)).2 with
    | ([], ']' :: r) => ((caret (skip verbose s)).1, [verbatim ']'], r)
    | (hyphens, r) => ((caret (skip verbose s)).1, hyphens, r) := by
  rfl

theorem posix?_colon (r : List Char) : posix? (':' :: r) =
    match (caret r).2.dropWhile (· != ':') with
    | ':' :: ']' :: rest =>
      if posixNames.contains (String.ofList ((caret r).2.takeWhile (· != ':'))) then
        some (.posix ((caret r).2.takeWhile (· != ':')) (caret r).1, rest)
      else none
    | _ => none := by
  rfl

theorem bracketStart_closing {negated : Bool} {row : List Members} {rest : List Char}
    (h : bracketStart verbose s = (negated, row, rest)) (more : rest ≠ []) :
    bracketStart verbose (s ++ closing) = (negated, row, rest ++ closing) := by
  rw [bracketStart_eq] at h
  cases row_ : leadingHyphens verbose (caret (skip verbose s)).2 with
  | mk hyphens r =>
    rw [row_] at h
    cases r with
    | nil => cases hyphens <;> (cases h; exact absurd rfl more)
    | cons c r =>
      have found : skip verbose s ≠ [] := by
        intro none
        rw [none, caret, leadingHyphens_nil] at row_
        cases row_
        nofun
      rw [bracketStart_eq, skip_append_of_ne_nil found, caret_closing, leadingHyphens_closing,
        row_]
      · cases hyphens with
        | cons m hyphens =>
          cases h
          rfl
        | nil =>
          by_cases bracket : c = ']'
          · subst bracket
            cases h
            rfl
          · obtain ⟨rfl, rfl, rfl⟩ : (caret (skip verbose s)).1 = negated ∧ [] = row ∧
                c :: r = rest := by simpa [bracket] using h
            simp [bracket]
      · rw [row_]
        exact List.cons_ne_nil c r

theorem posix?_closing (s : List Char) :
    posix? (s ++ closing) = (posix? s).map fun x => (x.1, x.2 ++ closing) := by
  cases s with
  | nil => rfl
  | cons c r =>
    by_cases colon : c = ':'
    · subst colon
      rw [List.cons_append, posix?_colon, posix?_colon, caret_closing]
      generalize caret r = x
      obtain ⟨negated, t⟩ := x
      simp only
      cases behind : t.dropWhile (· != ':') with
      | nil =>
        have none : (t ++ closing).dropWhile (· != ':') = [] := by
          rw [List.dropWhile_append, behind]
          rfl
        rw [none]
        rfl
      | cons d t' =>
        have row : (t ++ closing).dropWhile (· != ':') = d :: (t' ++ closing) := by
          rw [List.dropWhile_append, behind]
          rfl
        have name : (t ++ closing).takeWhile (· != ':') = t.takeWhile (· != ':') := by
          have parts : t.takeWhile (· != ':') ++ t.dropWhile (· != ':') = t :=
            List.takeWhile_append_dropWhile
          have both := congrArg List.length parts
          rw [behind, List.length_append, List.length_cons] at both
          rw [List.takeWhile_append, if_neg (by omega)]
        rw [row, name]
        by_cases colon : d = ':'
        · subst colon
          cases t' with
          | nil => rfl
          | cons e t' =>
            by_cases bracket : e = ']'
            · subst bracket
              simp only [List.cons_append]
              split <;> rfl
            · simp [bracket]
        · simp [colon]
    · simp [posix?, colon]

/-- Where no character is visible, all is white space. -/
theorem skipSpace_of_visible? {sign : Bool} (h : visible? sign s = none) :
    skipSpace false s = [] ∧ (sign = true → skipSpace true s = []) := by
  fun_induction visible? sign s with
  | case1 sign => exact ⟨rfl, fun _ => rfl⟩
  | case2 sign c r blank ih =>
    obtain ⟨spaces, comment⟩ := ih h
    refine ⟨by simp [skipSpace, blank, spaces], fun signed => ?_⟩
    rw [skipSpace, if_pos rfl]
    cases c != '\n' with
    | false => exact spaces
    | true => exact comment signed
  | case3 sign c r solid mark ih =>
    obtain ⟨-, comment⟩ := ih h
    simp only [Bool.and_eq_true] at mark
    simp_all [skipSpace]
  | case4 sign c r solid other => cases h

theorem robust_member : Robust (member verbose) := by
  intro s a rest h
  cases s with
  | nil => cases h
  | cons c r =>
    by_cases slash : c = '\\'
    · subst slash
      exact robust_escape _ _ _ h
    · simp_all [member]

theorem visible?_append {sign : Bool} (h : visible? sign s = some c) (t : List Char) :
    visible? sign (s ++ t) = some c := by
  fun_induction visible? sign s with
  | case1 sign => cases h
  | case2 sign d r blank ih => simp [visible?, blank, ih h]
  | case3 sign d r solid mark ih => simp_all [visible?]
  | case4 sign d r solid other => simp_all [visible?]

/-- The character that decides whether a hyphen makes a range is not found behind the pattern. -/
theorem behindHyphen_closing (h : (behindHyphen verbose s = some ']' ∨
    behindHyphen verbose s = some '-') ∨ skip verbose s ≠ []) :
    behindHyphen verbose (s ++ closing) = behindHyphen verbose s := by
  cases verbose with
  | false =>
    cases s with
    | nil => simp [behindHyphen, skip] at h
    | cons c r => rfl
  | true =>
    cases seen : visible? false s with
    | some c => simp [behindHyphen, seen, visible?_append seen]
    | none =>
      rcases h with (front | front) | more
      · obtain ⟨r, rfl⟩ : ∃ r, s = ']' :: r := by
          simpa [behindHyphen, seen, List.head?_eq_some_iff] using front
        simp [visible?, Text.isBlank] at seen
      · obtain ⟨r, rfl⟩ : ∃ r, s = '-' :: r := by
          simpa [behindHyphen, seen, List.head?_eq_some_iff] using front
        simp [visible?, Text.isBlank] at seen
      · exact absurd (skipSpace_of_visible? seen).1 more

theorem robust_memberOrRange : Robust (memberOrRange verbose) := by
  intro s m rest h
  unfold memberOrRange at h ⊢
  cases first : member verbose s with
  | none =>
    rw [first] at h
    cases h
  | some x =>
    obtain ⟨a, r⟩ := x
    rw [first] at h
    rw [robust_member _ _ _ first]
    simp only at h ⊢
    cases found : skip verbose r with
    | nil =>
      rw [found] at h
      cases h
    | cons c r' =>
      rw [found] at h
      rw [skip_append found]
      by_cases hyphen : c = '-'
      · subst hyphen
        simp only at h ⊢
        split_ifs at h with end_
        · rw [behindHyphen_closing (.inl end_), if_pos end_]
          obtain ⟨m', some_, same⟩ := Option.map_eq_some_iff.mp h
          cases same
          rw [some_]
          rfl
        · cases behind : skip verbose r' with
          | nil =>
            rw [behind] at h
            cases h
          | cons d t =>
            rw [behind] at h
            rw [behindHyphen_closing (.inr (behind ▸ List.cons_ne_nil d t)), if_neg end_,
              skip_append behind]
            split at h
            · cases h
            · next b rest' last =>
              obtain ⟨m', range, same⟩ := Option.map_eq_some_iff.mp h
              cases same
              have more := robust_member _ _ _ last
              rw [List.cons_append] at more
              rw [more]
              simp only [range]
              rfl
      · obtain ⟨m', some_, same⟩ :
            ∃ m', a.members? = some m' ∧ (m', c :: r') = (m, rest) := by
          simpa [hyphen, Option.map_eq_some_iff] using h
        cases same
        simp [hyphen, some_]

/-- Two signs of a set operation. -/
def operator? : List Char → Option (SetOp × List Char)
  | '&' :: '&' :: r => some (.intersection, r)
  | '-' :: '-' :: r => some (.difference, r)
  | '~' :: '~' :: r => some (.symmetricDifference, r)
  | _ => none

theorem operator?_closing (s : List Char) :
    operator? (s ++ closing) = (operator? s).map fun x => (x.1, x.2 ++ closing) := by
  match s with
  | [] => rfl
  | [c] => simp [operator?, closing]
  | c :: d :: r =>
    by_cases amp : c = '&' ∧ d = '&'
    · obtain ⟨rfl, rfl⟩ := amp
      rfl
    by_cases hyphen : c = '-' ∧ d = '-'
    · obtain ⟨rfl, rfl⟩ := hyphen
      rfl
    by_cases tilde : c = '~' ∧ d = '~'
    · obtain ⟨rfl, rfl⟩ := tilde
      rfl
    simp_all [operator?]

theorem bracketStep_of_ne (opens : c ≠ '[') (closes : c ≠ ']') (r : List Char) :
    bracketStep verbose (c :: r) =
      match operator? (c :: r) with
      | some (o, rest) => some (.operator o, rest)
      | none => (memberOrRange verbose (c :: r)).map fun d => (.member d.1, d.2) := by
  unfold bracketStep operator?
  split <;> simp_all

/-- Whether something inside a bracket opens another one. -/
def BracketStep.opens : BracketStep → Bool
  | opening .. => true
  | _ => false

theorem bracketStep_closing {x : BracketStep} {rest : List Char}
    (h : bracketStep verbose s = some (x, rest)) (more : x.opens = true → rest ≠ []) :
    bracketStep verbose (s ++ closing) = some (x, rest ++ closing) := by
  cases s with
  | nil => cases h
  | cons c r =>
    rw [List.cons_append]
    by_cases opens : c = '['
    · subst opens
      simp only [bracketStep] at h ⊢
      rw [posix?_closing]
      cases named : posix? r with
      | some y =>
        rw [named] at h
        cases h
        rfl
      | none =>
        rw [named] at h
        cases start : bracketStart verbose r with
        | mk negated y =>
          obtain ⟨row, rest'⟩ := y
          rw [start] at h
          cases h
          rw [bracketStart_closing start (more rfl)]
          rfl
    by_cases closes : c = ']'
    · subst closes
      cases h
      rfl
    rw [bracketStep_of_ne opens closes] at h ⊢
    rw [← List.cons_append, operator?_closing]
    cases mark : operator? (c :: r) with
    | some y =>
      rw [mark] at h
      cases h
      rfl
    | none =>
      rw [mark] at h
      exact robust_memberOrRange.map BracketStep.member _ _ _ h

theorem bracketStep_skip_closing {x : BracketStep} {rest : List Char}
    (h : bracketStep verbose (skip verbose s) = some (x, rest))
    (more : x.opens = true → rest ≠ []) :
    bracketStep verbose (skip verbose (s ++ closing)) = some (x, rest ++ closing) := by
  have found : skip verbose s ≠ [] := by
    intro none
    rw [none] at h
    cases h
  rw [skip_append_of_ne_nil found, bracketStep_closing h more]

theorem bracketRest_nil {b : OpenBracket} {outer : List OpenBracket} {row : List Members} :
    bracketRest verbose b outer row [] = none := by
  rw [bracketRest]
  cases verbose <;> rfl

-- A bracket that is opened at the end of a text is never closed: what follows it is not empty.
theorem bracketRest_closing {b : OpenBracket} {outer : List OpenBracket} {row : List Members}
    {t : Tree} {rest : List Char} (h : bracketRest verbose b outer row s = some (t, rest)) :
    bracketRest verbose b outer row (s ++ closing) = some (t, rest ++ closing) := by
  fun_induction bracketRest verbose b outer row s with
  | case1 => cases h
  | case2 b outer row s rest' shorter m read ih =>
    rw [bracketRest, bracketStep_skip_closing read nofun]
    simpa [shorter] using ih h
  | case3 b outer row s rest' shorter negated hyphens read ih =>
    have more : rest' ≠ [] := by
      rintro rfl
      rw [bracketRest_nil] at h
      cases h
    rw [bracketRest, bracketStep_skip_closing read fun _ => more]
    simpa [shorter] using ih h
  | case4 b outer row s rest' shorter o read ih =>
    rw [bracketRest, bracketStep_skip_closing read nofun]
    simpa [shorter] using ih h
  | case5 b row s rest' shorter read =>
    cases h
    rw [bracketRest, bracketStep_skip_closing read nofun]
    simp [shorter]
  | case6 b row s rest' shorter p outer read ih =>
    rw [bracketRest, bracketStep_skip_closing read nofun]
    simpa [shorter] using ih h
  | case7 => cases h

theorem robust_bracket : Robust (bracket verbose) := by
  intro s t rest h
  unfold bracket at h ⊢
  cases start : bracketStart verbose s with
  | mk negated x =>
    obtain ⟨row, r⟩ := x
    rw [start] at h
    have more : r ≠ [] := by
      rintro rfl
      simp [bracketRest_nil] at h
    rw [bracketStart_closing start more]
    exact bracketRest_closing h

/-- Whatever is taken from a text is taken from the text with a parenthesis behind it, where a group
that is opened is not the last of the text. -/
theorem item_closing {i : Item} {rest : List Char} (h : item verbose s = some (i, rest))
    (more : i.opens = true → rest ≠ []) :
    item verbose (s ++ closing) = some (i, rest ++ closing) := by
  cases s with
  | nil => cases h
  | cons c r =>
    rw [List.cons_append]
    simp only [item] at h ⊢
    split at h
    · exact groupStart_closing h more
    · cases h
      rfl
    · cases h
      rfl
    · exact robust_bracket.map Item.tree _ _ _ h
    · cases h
      rw [dropLazy_closing]
    · cases h
      rw [dropLazy_closing]
    · cases h
      rw [dropLazy_closing]
    · exact robust_counted _ _ _ h
    · exact robust_escape.map (fun a => Item.tree (.atom a)) _ _ _ h
    · cases h
      rfl
    · cases h
      rfl
    · cases h
      rfl
    · cases h
      rfl

end Readers

end JobDispatch.Pattern

import JobDispatch.Text.Decimal
import Mathlib.Tactic.IntervalCases

/-!
Digits are read back as the number that they were written for, so that no two numbers are written
alike.
-/

namespace JobDispatch.Text

theorem digitValue_digitChar (n : Nat) : digitValue (digitChar n) = n % 10 := by
  have h : n % 10 < 10 := Nat.mod_lt n (by decide)
  unfold digitChar
  generalize n % 10 = d at h
  interval_cases d <;> rfl

theorem ofDigits_append (acc : Nat) (ds es : List Char) :
    ofDigits acc (ds ++ es) = ofDigits (ofDigits acc ds) es :=
  List.foldl_append

theorem ofDigits_digits (n : Nat) : ofDigits 0 (digits n) = n := by
  induction n using Nat.strongRecOn with
  | ind n ih =>
    rw [digits]
    split_ifs with h
    · simp [ofDigits, digitValue_digitChar, Nat.mod_eq_of_lt h]
    · rw [ofDigits_append, ih (n / 10) (by omega)]
      simp only [ofDigits, List.foldl_cons, List.foldl_nil, digitValue_digitChar]
      omega

theorem isDigit_digitChar (n : Nat) : (digitChar n).isDigit = true := by
  have h : n % 10 < 10 := Nat.mod_lt n (by decide)
  unfold digitChar
  generalize n % 10 = d at h
  interval_cases d <;> rfl

theorem isDigit_of_mem_digits {n : Nat} {c : Char} (h : c ∈ digits n) : c.isDigit = true := by
  induction n using Nat.strongRecOn with
  | ind n ih =>
    rw [digits] at h
    split_ifs at h with small
    · rw [List.mem_singleton.mp h]
      exact isDigit_digitChar n
    · rcases List.mem_append.mp h with h | h
      · exact ih (n / 10) (by omega) h
      · rw [List.mem_singleton.mp h]
        exact isDigit_digitChar _

theorem digits_ne_nil (n : Nat) : digits n ≠ [] := by
  rw [digits]
  split_ifs <;> simp

/-- Only zero is written with a zero in front. -/
theorem length_digits_of_zero {n : Nat} (h : (digits n).head? = some '0') :
    (digits n).length = 1 := by
  induction n using Nat.strongRecOn with
  | ind n ih =>
    rw [digits] at h ⊢
    split_ifs at h ⊢ with small
    · rfl
    · have front := List.head?_eq_some_head (digits_ne_nil (n / 10))
      rw [List.head?_append, front, Option.some_or, ← front] at h
      have one := ih (n / 10) (by omega) h
      have zero : digits (n / 10) = ['0'] := by
        obtain ⟨c, hc⟩ := List.length_eq_one_iff.mp one
        rw [hc] at h ⊢
        rw [Option.some.inj h]
      have value := ofDigits_digits (n / 10)
      rw [zero] at value
      have nothing : n / 10 = 0 := value.symm
      omega

theorem length_digits_le {n w : Nat} (h : n < 10 ^ (w + 1)) : (digits n).length ≤ w + 1 := by
  induction w generalizing n with
  | zero =>
    rw [digits, if_pos (by simpa using h)]
    rfl
  | succ w ih =>
    rw [digits]
    split_ifs with small
    · exact Nat.succ_le_succ (Nat.zero_le _)
    · rw [List.length_append]
      exact Nat.succ_le_succ (ih (by omega))

theorem length_padded {n w : Nat} (h : n < 10 ^ (w + 1)) : (padded (w + 1) n).length = w + 1 := by
  have := length_digits_le h
  simp only [padded, List.length_append, List.length_replicate]
  omega

theorem isDigit_of_mem_padded {w n : Nat} {c : Char} (h : c ∈ padded w n) :
    c.isDigit = true := by
  rcases List.mem_append.mp h with zero | digit
  · rw [List.eq_of_mem_replicate zero]
    rfl
  · exact isDigit_of_mem_digits digit

theorem padded_ne_nil (w n : Nat) : padded w n ≠ [] := by
  simp [padded, digits_ne_nil]

/-- The zeros in front make no difference to the number. -/
theorem ofDigits_padded (w n : Nat) : ofDigits 0 (padded w n) = n := by
  have zeros (k : Nat) : ofDigits 0 (List.replicate k '0') = 0 := by
    induction k with
    | zero => rfl
    | succ k ih => exact ih
  rw [padded, ofDigits_append, zeros, ofDigits_digits]

/-- A row of digits ends where something else follows. -/
theorem takeWhile_digits {ds r : List Char} (all : ∀ c ∈ ds, c.isDigit = true)
    (other : r.head?.all fun c => !c.isDigit) :
    (ds ++ r).takeWhile Char.isDigit = ds ∧ (ds ++ r).dropWhile Char.isDigit = r := by
  rw [List.takeWhile_append_of_pos all, List.dropWhile_append_of_pos all]
  cases r with
  | nil => simp
  | cons c r =>
    have stop : c.isDigit = false := by simpa using other
    simp [stop]

/-- A number within the bound is read back. -/
theorem readNat_decimal {bound n : Nat} (h : n ≤ bound) : readNat bound (decimal n) = some n := by
  obtain ⟨c, cs, same⟩ := List.exists_cons_of_ne_nil (digits_ne_nil n)
  have digit : c.isDigit = true := isDigit_of_mem_digits (same ▸ List.mem_cons_self)
  have unsigned : c ≠ '+' := by
    rintro rfl
    cases digit
  have all : (digits n).all Char.isDigit = true :=
    List.all_eq_true.mpr fun d hd => isDigit_of_mem_digits hd
  have read : readDigits (digits n) = some n := by
    simp [readDigits, digits_ne_nil, all, ofDigits_digits]
  have text : (decimal n).toList = digits n := String.toList_ofList
  rw [readNat, text]
  split
  · next r plus =>
    rw [same] at plus
    exact absurd (List.cons.inj plus).1 unsigned
  · rw [read, Option.filter_some, if_pos (decide_eq_true h)]

theorem decimal_injective (m n : Nat) (h : decimal m = decimal n) : m = n := by
  have same : digits m = digits n := by
    simpa [decimal] using congrArg String.toList h
  rw [← ofDigits_digits m, same, ofDigits_digits n]

end JobDispatch.Text

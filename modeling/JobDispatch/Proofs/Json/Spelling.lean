import JobDispatch.Json.Reader
import JobDispatch.Proofs.Counting
import JobDispatch.Proofs.Text.Decimal

/-!
The parts of JSON texts, quoted texts and numbers, are read back as they were written.
-/

namespace JobDispatch

/-- No character is lost between quotes. -/
theorem Json.length_le_quote (s : String) : s.toList.length ≤ (quote s).length := by
  have escaped := length_le_flatMap (f := escape) (by intro c; unfold escape; split_ifs <;> simp)
    s.toList
  simp only [quote, List.length_append, List.length_cons, List.length_nil]
  omega

namespace Draft

theorem hexValue_hexDigit (n : Nat) (h : n < 16) : hexValue (Json.hexDigit n) = some n := by
  interval_cases n <;> rfl

theorem joinPieces_unit {n : Nat} (h : n < 32) (ps : List Piece) :
    joinPieces (.unit n :: ps) = (joinPieces ps).map (Char.ofNat n :: ·) := by
  have high : isHighHalf n = false := by
    simp only [isHighHalf, Bool.and_eq_false_iff, decide_eq_false_iff_not]
    omega
  have low : isLowHalf n = false := by
    simp only [isLowHalf, Bool.and_eq_false_iff, decide_eq_false_iff_not]
    omega
  cases ps with
  | nil => simp [joinPieces, high, low]
  | cons p ps => cases p <;> simp [joinPieces, high, low]

/-- A character between quotes is read as a piece that spells it. -/
theorem readPieces_escape (c : Char) (r : List Char) : ∃ p,
    readPieces (Json.escape c ++ r) = (readPieces r).map (fun x => (p :: x.1, x.2)) ∧
      ∀ ps, joinPieces (p :: ps) = (joinPieces ps).map (c :: ·) := by
  have marked (e : Char) (reads : readPieces ('\\' :: e :: r) =
      (readPieces r).map fun x => (.char c :: x.1, x.2)) : ∃ p,
        readPieces (['\\', e] ++ r) = (readPieces r).map (fun x => (p :: x.1, x.2)) ∧
          ∀ ps, joinPieces (p :: ps) = (joinPieces ps).map (c :: ·) :=
    ⟨.char c, reads, fun ps => rfl⟩
  have code (n : Nat) (h : c.toNat = n) : c = Char.ofNat n := by
    rw [← h, Char.ofNat_toNat]
  unfold Json.escape
  split_ifs with quote mark back tab line feed turn control
  · exact marked '"' (by simp [readPieces, quote, Option.map_eq_bind])
  · exact marked '\\' (by simp [readPieces, mark, Option.map_eq_bind])
  · exact marked 'b' (by simp [readPieces, code 8 back, Option.map_eq_bind])
  · exact marked 't' (by simp [readPieces, code 9 tab, Option.map_eq_bind])
  · exact marked 'n' (by simp [readPieces, code 10 line, Option.map_eq_bind])
  · exact marked 'f' (by simp [readPieces, code 12 feed, Option.map_eq_bind])
  · exact marked 'r' (by simp [readPieces, code 13 turn, Option.map_eq_bind])
  · have first := hexValue_hexDigit (c.toNat / 16) (by omega)
    have second := hexValue_hexDigit (c.toNat % 16) (by omega)
    have unit : hexUnit '0' '0' (Json.hexDigit (c.toNat / 16)) (Json.hexDigit (c.toNat % 16)) =
        some c.toNat := by
      have zero : hexValue '0' = some 0 := rfl
      simp [hexUnit, first, second, zero]
      omega
    refine ⟨.unit c.toNat, ?_, ?_⟩
    · simp [readPieces, unit, Option.map_eq_bind]
    · intro ps
      rw [joinPieces_unit control, Char.ofNat_toNat]
  · refine ⟨.char c, ?_, fun ps => rfl⟩
    have plain : (c = '\\' || c.toNat < 32) = false := by simp [mark, control]
    rw [List.singleton_append, readPieces]
    · simp [plain, Option.map_eq_bind]
    · exact fun h => quote h
    · exact fun _ _ _ _ _ h => absurd h mark
    · exact fun _ _ h => absurd h mark

theorem readPieces_quote (s r : List Char) : ∃ ps,
    readPieces (s.flatMap Json.escape ++ '"' :: r) = some (ps, r) ∧ joinPieces ps = some s := by
  induction s with
  | nil => exact ⟨[], by simp [readPieces], rfl⟩
  | cons c s ih =>
    obtain ⟨ps, reads, joins⟩ := ih
    obtain ⟨p, first, spells⟩ := readPieces_escape c (s.flatMap Json.escape ++ '"' :: r)
    refine ⟨p :: ps, ?_, ?_⟩
    · rw [List.flatMap_cons, List.append_assoc, first, reads]
      rfl
    · rw [spells, joins]
      rfl

/-- What was put between quotes is read back. -/
theorem readText_quote (s : String) (r : List Char) :
    readText (s.toList.flatMap Json.escape ++ '"' :: r) = some (some s, r) := by
  obtain ⟨ps, reads, joins⟩ := readPieces_quote s.toList r
  simp [readText, reads, joins]

end Draft

/-- What makes the spelling of a number one that JSON has. -/
structure Number.Proper (n : Number) : Prop where
  some_digit : n.whole ≠ []
  digits : ∀ c ∈ n.whole, c.isDigit = true
  no_zero : n.whole.head? = some '0' → n.whole.length = 1
  fraction : ∀ c ∈ n.fraction, c.isDigit = true
  exponent : ∀ negative ds, n.exponent = some (negative, ds) →
    ds ≠ [] ∧ ∀ c ∈ ds, c.isDigit = true

theorem Number.proper_ofInt (i : Int) : (Number.ofInt i).Proper where
  some_digit := Text.digits_ne_nil _
  digits _ := Text.isDigit_of_mem_digits
  no_zero := Text.length_digits_of_zero
  fraction := by simp [ofInt]
  exponent := by simp [ofInt]

theorem Number.int?_ofInt {i : Int} (low : Text.minSigned ≤ i) (high : i ≤ Text.maxWord) :
    (Number.ofInt i).int? = some i := by
  simp only [Text.minSigned, Text.maxWord] at low high
  simp only [int?, ofInt, Text.ofDigits_digits, Text.maxWord]
  by_cases negative : i < 0
  · have value : -((i.natAbs : Nat) : Int) = i := by omega
    have bounds : 0 < i.natAbs ∧ i.natAbs ≤ 9223372036854775808 := by omega
    generalize i.natAbs = v at value bounds ⊢
    simp [negative, bounds, value]
  · have value : ((i.natAbs : Nat) : Int) = i := by omega
    have bound : i.natAbs ≤ 18446744073709551615 := by omega
    generalize i.natAbs = v at value bound ⊢
    simp [negative, bound, value]

theorem Text.le_ofDigits (acc : Nat) (ds : List Char) : acc ≤ Text.ofDigits acc ds := by
  induction ds generalizing acc with
  | nil => exact le_refl acc
  | cons d ds ih => exact le_trans (by omega) (ih (acc * 10 + Text.digitValue d))

/-- Digits of a number that fits are all taken. -/
theorem Number.significand_of_le {acc : Nat} {ds : List Char}
    (h : Text.ofDigits acc ds ≤ Text.maxWord) : significand acc ds = (Text.ofDigits acc ds, 0) := by
  induction ds generalizing acc with
  | nil => rfl
  | cons d ds ih =>
    have fits : acc * 10 + Text.digitValue d ≤ Text.maxWord := (Text.le_ofDigits _ ds).trans h
    rw [significand, if_pos fits]
    exact ih h

theorem Number.tooLarge_ofInt {i : Int} (h : i.natAbs ≤ Text.maxWord) :
    (Number.ofInt i).tooLarge = false := by
  have all : significand 0 (Text.digits i.natAbs) = _ :=
    significand_of_le (by rwa [Text.ofDigits_digits])
  have whole : (0 : Int) < -(([] : List Char).length - 0 : Nat) + 0 ↔ False := by simp
  simp only [tooLarge, ofInt, all, significand, if_true, whole, decide_false, Bool.and_false,
    Bool.false_and]

/-- The exponent of a number as it is spelled. -/
def Number.writeExponent : Option (Bool × List Char) → List Char
  | none => []
  | some (negative, ds) => 'e' :: (if negative then ['-'] else []) ++ ds

theorem Number.write_eq (n : Number) : n.write =
    (if n.negative then ['-'] else []) ++ (n.whole ++
      ((if n.fraction = [] then [] else '.' :: n.fraction) ++ writeExponent n.exponent)) := by
  obtain ⟨negative, whole, fraction, exponent⟩ := n
  cases exponent <;> simp only [write, writeExponent, List.append_assoc]

/-- The characters that can follow a value inside a text: a comma, the end of a container, or a
blank. -/
def Draft.endsValue (c : Char) : Bool := c == ',' || c == ']' || c == '}' || isSpace c

namespace Draft

theorem head?_of_ends {p : Char → Bool}
    (h : [',', ']', '}', ' ', '\n', '\t', '\r'].all p = true)
    {r : List Char} (ends : r.head?.all endsValue) : r.head?.all p := by
  cases r with
  | nil => rfl
  | cons c r =>
    have stop : endsValue c = true := by simpa using ends
    simp only [endsValue, isSpace, Bool.or_eq_true, beq_iff_eq, decide_eq_true_iff] at stop
    refine List.all_eq_true.mp h c ?_
    simpa [or_assoc] using stop

theorem readExponent_write {exponent : Option (Bool × List Char)}
    (digits : ∀ negative ds, exponent = some (negative, ds) →
      ds ≠ [] ∧ ∀ c ∈ ds, c.isDigit = true) {r : List Char} (ends : r.head?.all endsValue) :
    readExponent (Number.writeExponent exponent ++ r) = some (exponent, r) := by
  cases exponent with
  | none =>
    cases r with
    | nil => rfl
    | cons c r =>
      have other : c ≠ 'e' ∧ c ≠ 'E' := by
        have free := head?_of_ends (p := fun c => c != 'e' && c != 'E') (by decide) ends
        simpa using free
      simp [Number.writeExponent, readExponent, other]
  | some x =>
    obtain ⟨negative, ds⟩ := x
    obtain ⟨nonempty, all⟩ := digits negative ds rfl
    obtain ⟨takes, drops⟩ :=
      Text.takeWhile_digits all (head?_of_ends (p := fun c => !c.isDigit) (by decide) ends)
    cases negative with
    | true => simp [Number.writeExponent, readExponent, takes, drops, nonempty]
    | false =>
      obtain ⟨d, ds, rfl⟩ := List.exists_cons_of_ne_nil nonempty
      have digit := all d List.mem_cons_self
      have minus : d ≠ '-' := by
        rintro rfl
        cases digit
      have plus : d ≠ '+' := by
        rintro rfl
        cases digit
      rw [List.cons_append] at takes drops
      simp [Number.writeExponent, readExponent, minus, plus, takes, drops]

/-- Whether a number can end before a character. -/
def endsDigits (c : Char) : Bool := !c.isDigit && c != '.'

theorem readFraction_write {fraction : List Char} (all : ∀ c ∈ fraction, c.isDigit = true)
    {r : List Char} (next : r.head?.all endsDigits) :
    readFraction ((if fraction = [] then [] else '.' :: fraction) ++ r) = some (fraction, r) := by
  split_ifs with nothing
  · subst nothing
    cases r with
    | nil => rfl
    | cons c r =>
      have both : c.isDigit = false ∧ c ≠ '.' := by simpa [endsDigits] using next
      simp [readFraction, both.2]
  · have stop : r.head?.all fun c => !c.isDigit := by
      cases r with
      | nil => rfl
      | cons c r =>
        have both : c.isDigit = false ∧ c ≠ '.' := by simpa [endsDigits] using next
        simpa using both.1
    obtain ⟨takes, drops⟩ := Text.takeWhile_digits all stop
    simp [readFraction, takes, drops, nothing]

/-- The digits of a number are read back behind its sign, up to where no digit follows. -/
theorem readNumber_signed {n : Number} (proper : n.Proper) {s : List Char}
    (stop : s.head?.all fun c => !c.isDigit) {fraction rest tail : List Char}
    {exponent : Option (Bool × List Char)} (hf : readFraction s = some (fraction, rest))
    (he : readExponent rest = some (exponent, tail)) :
    readNumber ((if n.negative then ['-'] else []) ++ (n.whole ++ s)) =
      some (⟨n.negative, n.whole, fraction, exponent⟩, tail) := by
  obtain ⟨takes, drops⟩ := Text.takeWhile_digits proper.digits stop
  have start : ¬ (n.whole = [] ∨ n.whole.head? = some '0' ∧ ¬ n.whole.length = 1) := by
    rintro (none | ⟨zero, long⟩)
    · exact proper.some_digit none
    · exact long (proper.no_zero zero)
  cases sign : n.negative with
  | true => simp [readNumber, takes, drops, start, hf, he]
  | false =>
    obtain ⟨d, ds, whole⟩ := List.exists_cons_of_ne_nil proper.some_digit
    have minus : d ≠ '-' := by
      rintro rfl
      have digit := proper.digits '-' (whole ▸ List.mem_cons_self)
      cases digit
    simp only [whole, List.cons_append, List.head?_cons] at takes drops start ⊢
    simp_all [readNumber]

/-- A number is read back where the value ends. -/
theorem readNumber_write {n : Number} (proper : n.Proper) {r : List Char}
    (ends : r.head?.all endsValue) : readNumber (n.write ++ r) = some (n, r) := by
  have power := readExponent_write proper.exponent ends
  have after : (Number.writeExponent n.exponent ++ r).head?.all endsDigits := by
    cases n.exponent with
    | none => exact head?_of_ends (by decide) ends
    | some x => rfl
  have part := readFraction_write proper.fraction after
  have stop : ((if n.fraction = [] then [] else '.' :: n.fraction) ++
      (Number.writeExponent n.exponent ++ r)).head?.all fun c => !c.isDigit := by
    split_ifs with nothing
    · cases h : Number.writeExponent n.exponent ++ r with
      | nil => rfl
      | cons c s =>
        rw [h] at after
        have both : c.isDigit = false ∧ c ≠ '.' := by simpa [endsDigits] using after
        simpa using both.1
    · rfl
  rw [Number.write_eq, List.append_assoc, List.append_assoc, List.append_assoc]
  exact readNumber_signed proper stop part power

end Draft

end JobDispatch

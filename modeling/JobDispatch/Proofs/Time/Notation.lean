import JobDispatch.Proofs.Text.Decimal
import JobDispatch.Proofs.Time.Calendar
import JobDispatch.Time.Notation

/-!
Instants are read back as they were written, to the nanosecond and leap seconds included.
-/

namespace JobDispatch.Time

open Text

/-- A row of digits is taken as a number, up to where the digits or the room for them end. -/
theorem takeNumber_digits {ds r : List Char} {most bound : Nat}
    (digits : ∀ c ∈ ds, c.isDigit = true) (nonempty : ds ≠ []) (room : ds.length ≤ most)
    (stop : ds.length = most ∨ r.head?.all fun c => !c.isDigit)
    (within : ofDigits 0 ds ≤ bound) :
    takeNumber most bound (ds ++ r) = some (ofDigits 0 ds, r) := by
  have taken : ((ds ++ r).take most).takeWhile Char.isDigit = ds := by
    rw [List.take_append, List.take_of_length_le room]
    refine (takeWhile_digits digits ?_).1
    rcases stop with full | other
    · simp [full]
    · cases most - ds.length with
      | zero => rfl
      | succ k =>
        rw [List.head?_take, if_neg (Nat.succ_ne_zero k)]
        exact other
  simp [takeNumber, taken, nonempty, within]

/-- A number that is written in a fixed number of digits is read back. -/
theorem takeNumber_padded {w n : Nat} (h : n < 10 ^ (w + 1)) {bound : Nat} (within : n ≤ bound)
    (r : List Char) : takeNumber (w + 1) bound (padded (w + 1) n ++ r) = some (n, r) := by
  have length := length_padded h
  rw [takeNumber_digits (fun _ => isDigit_of_mem_padded) (padded_ne_nil _ _) (le_of_eq length)
    (.inl length) (by rwa [ofDigits_padded]), ofDigits_padded]

theorem isBlank_of_isDigit {c : Char} (h : c.isDigit = true) : isBlank c = false := by
  have bounds : 48 ≤ c.toNat ∧ c.toNat ≤ 57 := by
    simpa [Char.isDigit, UInt32.le_iff_toNat_le] using h
  simp only [isBlank, Bool.or_eq_false_iff, Bool.and_eq_false_iff, decide_eq_false_iff_not,
    beq_eq_false_iff_ne]
  omega

/-- No blanks stand before a row of digits. -/
theorem trimStart_digits {ds : List Char} (digits : ∀ c ∈ ds, c.isDigit = true)
    (nonempty : ds ≠ []) (r : List Char) : trimStart (ds ++ r) = ds ++ r := by
  obtain ⟨d, ds, rfl⟩ := List.exists_cons_of_ne_nil nonempty
  exact trimStart_of_head _ (isBlank_of_isDigit (digits d List.mem_cons_self))

theorem takeField_padded {low high n : Nat} (above : low ≤ n) (below : n ≤ high) (h : n < 100)
    (r : List Char) : takeField low high (padded 2 n ++ r) = some (n, r) := by
  rw [takeField, trimStart_digits (fun _ => isDigit_of_mem_padded) (padded_ne_nil _ _),
    takeNumber_padded (w := 1) (by omega) (by omega)]
  simp [above, below]

theorem takeMark_cons {c : Char} (h : isBlank c = false) (r : List Char) :
    takeMark c (c :: r) = some r := by
  simp [takeMark, trimStart_of_head r h]

/-- A year is read back in front of what is no digit. -/
theorem takeYear_write {y : Int} (low : -262143 ≤ y) (high : y ≤ 262143) {r : List Char}
    (stop : r.head?.all fun c => !c.isDigit) : takeYear (writeYear y ++ r) = some (y, r) := by
  have signed : takeNumber (padded 4 y.natAbs ++ r).length 262143 (padded 4 y.natAbs ++ r) =
      some (y.natAbs, r) := by
    have within : ofDigits 0 (padded 4 y.natAbs) ≤ 262143 := by
      rw [ofDigits_padded]
      omega
    rw [takeNumber_digits (fun _ => isDigit_of_mem_padded) (padded_ne_nil _ _) (by simp)
      (.inr stop) within, ofDigits_padded]
  unfold writeYear
  split_ifs with plain negative
  · have digits (c : Char) (h : c ∈ padded 4 y.toNat) := isDigit_of_mem_padded h
    have number : takeNumber 4 9999 (padded 4 y.toNat ++ r) = some (y.toNat, r) :=
      takeNumber_padded (by omega) (by omega) r
    have start := trimStart_digits digits (padded_ne_nil _ _) r
    obtain ⟨d, ds, written⟩ := List.exists_cons_of_ne_nil (padded_ne_nil 4 y.toNat)
    have digit := digits d (written ▸ List.mem_cons_self)
    have minus : d ≠ '-' := by
      rintro rfl
      cases digit
    have plus : d ≠ '+' := by
      rintro rfl
      cases digit
    rw [written, List.cons_append] at start number ⊢
    simp [takeYear, start, minus, plus, number, plain.1]
  · have start := trimStart_of_head (padded 4 y.natAbs ++ r) (by decide : isBlank '-' = false)
    have value : -(y.natAbs : Int) = y := by omega
    rw [List.cons_append, takeYear, start]
    simp only [signed, Option.map_some, value]
  · have start := trimStart_of_head (padded 4 y.natAbs ++ r) (by decide : isBlank '+' = false)
    have value : (y.natAbs : Int) = y := by omega
    rw [List.cons_append, takeYear, start]
    simp only [signed, Option.map_some, value]

theorem takeFraction_write {nano : Nat} (h : nano < milliard) {r : List Char}
    (stop : r.head?.all fun c => !c.isDigit && c != '.') :
    takeFraction (writeFraction nano ++ r) = some (nano, r) := by
  obtain ⟨digits, others, point⟩ : r.head?.all (fun c => !c.isDigit) ∧
      r.dropWhile Char.isDigit = r ∧ takeFraction r = some (0, r) := by
    cases r with
    | nil => exact ⟨rfl, rfl, rfl⟩
    | cons c r =>
      have both : c.isDigit = false ∧ c ≠ '.' := by simpa using stop
      simp [takeFraction, both]
  have read {w n : Nat} (small : n < 10 ^ (w + 1)) (room : w + 1 ≤ 9) :
      takeFraction ('.' :: padded (w + 1) n ++ r) = some (n * Nat.pow 10 (9 - (w + 1)), r) := by
    have length := length_padded small
    have within : ofDigits 0 (padded (w + 1) n) ≤ milliard := by
      rw [ofDigits_padded]
      exact small.le.trans (Nat.pow_le_pow_right (by decide) room)
    have number : takeNumber 9 milliard (padded (w + 1) n ++ r) = some (n, r) := by
      rw [takeNumber_digits (fun _ => isDigit_of_mem_padded) (padded_ne_nil _ _) (by omega)
        (.inr digits) within, ofDigits_padded]
    simp [takeFraction, number, length, others]
  unfold writeFraction
  unfold milliard at h
  split_ifs with none thousandth millionth
  · rw [none]
    exact point
  · have value : nano / 1000000 * Nat.pow 10 (9 - (2 + 1)) = nano := by
      change nano / 1000000 * 1000000 = nano
      omega
    rw [read (w := 2) (by omega) (by omega), value]
  · have value : nano / 1000 * Nat.pow 10 (9 - (5 + 1)) = nano := by
      change nano / 1000 * 1000 = nano
      omega
    rw [read (w := 5) (by omega) (by omega), value]
  · rw [read (w := 8) (by omega) (by omega)]
    exact congrArg some (Prod.ext (Nat.mul_one nano) rfl)


theorem daysInMonth_le (year : Int) (month : Nat) : daysInMonth year month ≤ 31 := by
  unfold daysInMonth
  split_ifs <;> decide

/-- The years in which the instants lie. -/
theorem Date.year_of_dayNumber {d : Date} (exists_ : d.exists = true)
    (low : firstSecond ≤ d.dayNumber * 86400 + 86399) (high : d.dayNumber * 86400 ≤ lastSecond) :
    -262143 ≤ d.year ∧ d.year ≤ 262142 := by
  simp only [Date.exists, Bool.and_eq_true, decide_eq_true_eq] at exists_
  obtain ⟨⟨⟨january, december⟩, first⟩, inside⟩ := exists_
  have last : d.day ≤ 31 := inside.trans (daysInMonth_le d.year d.month)
  simp only [firstSecond, dayNumber] at low
  simp only [lastSecond, dayNumber] at high
  constructor
  · by_contra before
    rcases (by omega : d.year = -262144 ∨ d.year ≤ -262145) with year | year
    · rw [year] at low
      split_ifs at low <;> omega
    · split_ifs at low <;> omega
  · by_contra after
    rcases (by omega : d.year = 262143 ∨ 262144 ≤ d.year) with year | year
    · rw [year] at high
      split_ifs at high <;> omega
    · split_ifs at high <;> omega

/-- The clock of an instant shows it. -/
theorem Instant.ofClock_shown (t : Instant) :
    let (date, s) := t.dateAndSecond
    let (shown, nano) := t.shownSecond
    ofClock date (s / 3600) (s / 60 % 60) shown nano 0 = some t := by
  obtain ⟨low, high, nano⟩ := t.valid
  have day := Date.ofDayNumber_spec (t.second / 86400)
  simp only [dateAndSecond, shownSecond]
  generalize Date.ofDayNumber (t.second / 86400) = date at day
  obtain ⟨exists_, number⟩ := day
  obtain ⟨first, last⟩ := date.year_of_dayNumber exists_ (by omega) (by omega)
  have within : (!date.exists || date.year < -262143 || 262142 < date.year ||
      (0 : Int).natAbs ≥ 86400) = false := by
    simp [exists_, first, last]
  split_ifs with plain
  · have other : (t.second % 60).toNat ≠ 60 := by omega
    have second : date.dayNumber * 86400 + ((t.second % 86400).toNat / 3600 : Nat) * 3600 +
        ((t.second % 86400).toNat / 60 % 60 : Nat) * 60 + (t.second % 60).toNat - 0 = t.second := by
      omega
    simp only [ofClock, within, other, if_false, second]
    simp [of?, t.valid]
  · have leap : t.second % 60 = 59 := by
      rcases nano with small | leap
      · exact absurd small plain
      · exact leap.2
    have sixty : (t.second % 60).toNat + 1 = 60 := by omega
    have second : date.dayNumber * 86400 + ((t.second % 86400).toNat / 3600 : Nat) * 3600 +
        ((t.second % 86400).toNat / 60 % 60 : Nat) * 60 + 59 - 0 = t.second := by
      omega
    have rest : t.nano - milliard + milliard = t.nano := Nat.sub_add_cancel (Nat.not_lt.mp plain)
    simp only [ofClock, within, sixty, if_true, second, rest]
    simp [of?, t.valid]

/-- The parts of a date and a clock are read back, and the instant that they show is the result. -/
theorem Instant.read_parts {d : Date} {h m s nano : Nat} (exists_ : d.exists = true)
    (low : -262143 ≤ d.year) (high : d.year ≤ 262142) (hour : h ≤ 23) (minute : m ≤ 59)
    (second : s ≤ 60) (fraction : nano < milliard) :
    read (writeDate d ++ 'T' :: writeClock h m s ++ writeFraction nano ++ ['Z']) =
      ofClock d h m s nano 0 := by
  simp only [Date.exists, Bool.and_eq_true, decide_eq_true_eq] at exists_
  obtain ⟨⟨⟨january, december⟩, first⟩, inside⟩ := exists_
  have last : d.day ≤ 31 := inside.trans (daysInMonth_le d.year d.month)
  have years (r : List Char) : takeYear (writeYear d.year ++ '-' :: r) = some (d.year, '-' :: r) :=
    takeYear_write low (by omega) rfl
  have months := takeField_padded january december (by omega)
  have days := takeField_padded first last (by omega)
  have hours := takeField_padded (Nat.zero_le h) hour (by omega)
  have minutes := takeField_padded (Nat.zero_le m) minute (by omega)
  have seconds := takeField_padded (Nat.zero_le s) second (by omega)
  have fractions : takeFraction (writeFraction nano ++ ['Z']) = some (nano, ['Z']) :=
    takeFraction_write fraction rfl
  have dash := takeMark_cons (by decide : isBlank '-' = false)
  have colon := takeMark_cons (by decide : isBlank ':' = false)
  have offset : takeOffset (trimStart ['Z']) = some (0, []) := rfl
  have next {α β : Type} {x : Option α} {a : α} (taken : x = some a) (k : α → Option β) :
      x >>= k = k a := by
    rw [taken]
    rfl
  simp only [writeDate, writeClock, List.append_assoc, List.cons_append]
  refine (next (years _) _).trans ?_
  refine (next (dash _) _).trans ?_
  refine (next (months _) _).trans ?_
  refine (next (dash _) _).trans ?_
  refine (next (days _) _).trans ?_
  refine (next (hours _) _).trans ?_
  refine (next (colon _) _).trans ?_
  refine (next (minutes _) _).trans ?_
  refine (next (colon _) _).trans ?_
  refine (next (seconds _) _).trans ?_
  refine (next fractions _).trans ?_
  exact (next offset _).trans (if_pos rfl)

/-- An instant is read back as it was written. -/
theorem Instant.read_write (t : Instant) : read t.write = some t := by
  have clock := t.ofClock_shown
  obtain ⟨low, high, nano⟩ := t.valid
  obtain ⟨exists_, number⟩ := Date.ofDayNumber_spec (t.second / 86400)
  obtain ⟨first, last⟩ := Date.year_of_dayNumber exists_ (by omega) (by omega)
  have shown : t.shownSecond.1 ≤ 60 ∧ t.shownSecond.2 < milliard := by
    simp only [shownSecond]
    split_ifs with plain
    · exact ⟨by omega, plain⟩
    · exact ⟨by omega, by omega⟩
  rw [← clock]
  exact read_parts exists_ first last (by omega) (by omega) shown.1 shown.2

end JobDispatch.Time

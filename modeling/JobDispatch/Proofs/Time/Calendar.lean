import JobDispatch.Time.Calendar
import Mathlib.Tactic.IntervalCases

/-!
The calendar gives every day number a date that exists, and the date has the day number.
-/

namespace JobDispatch.Time

/-- The years of a century from the day of a cycle, but for the last day of the cycle. -/
theorem yearOfCentury {c e y : Int} (first : 0 ≤ c) (last : c ≤ 3) (low : 36524 * c ≤ e)
    (high : e < 36524 * (c + 1)) (hy : y = (e - e / 1460 + c) / 365) :
    100 * c ≤ y ∧ y ≤ 100 * c + 99 ∧ 365 * y + y / 4 - c ≤ e ∧
      e < 365 * (y + 1) + (y + 1) / 4 - c := by
  refine ⟨?_, ?_, ?_, ?_⟩
  · omega
  · omega
  · omega
  · omega

/-- Where a day of a cycle of 400 years stands in its year, which begins in March. -/
structure DayOfCycle (e y d : Int) : Prop where
  year_low : 0 ≤ y
  year_high : y ≤ 399
  day : e = 365 * y + y / 4 - y / 100 + d
  day_low : 0 ≤ d
  day_high : d ≤ 365
  leap : d = 365 → isLeap (y + 1) = true

theorem isLeap_iff (y : Int) : isLeap y = true ↔ y % 4 = 0 ∧ (y % 100 ≠ 0 ∨ y % 400 = 0) := by
  simp [isLeap]

theorem dayOfCycle {e : Int} (low : 0 ≤ e) (high : e < 146097) :
    let y := (e - e / 1460 + e / 36524 - e / 146096) / 365
    DayOfCycle e y (e - (365 * y + y / 4 - y / 100)) := by
  intro y
  rcases (by omega : e < 146096 ∨ e = 146096) with inside | last
  · have cycle : e / 146096 = 0 := by omega
    have hy : y = (e - e / 1460 + e / 36524) / 365 := by
      simp only [y, cycle, Int.sub_zero]
    obtain ⟨above, below, starts, ends⟩ :=
      yearOfCentury (c := e / 36524) (by omega) (by omega) (by omega) (by omega) hy
    have century : y / 100 = e / 36524 := by omega
    refine ⟨by omega, by omega, by omega, by omega, by omega, ?_⟩
    rw [isLeap_iff]
    intro leap
    refine ⟨?_, .inl ?_⟩
    · omega
    · omega
  · have hy : y = 399 := by simp only [y, last]; rfl
    rw [hy, last]
    exact ⟨by decide, by decide, by decide, by decide, by decide, fun _ => rfl⟩

/-- The month of a day in a year that begins in March, and the day of the month. -/
theorem monthOfDay {d m : Int} (low : 0 ≤ d) (high : d ≤ 365) (hm : m = (5 * d + 2) / 153) :
    0 ≤ m ∧ m ≤ 11 ∧ (153 * m + 2) / 5 ≤ d ∧ d < (153 * (m + 1) + 2) / 5 := by
  refine ⟨?_, ?_, ?_, ?_⟩
  · omega
  · omega
  · omega
  · omega

/-- The date of a day in a year that begins in March, the year being counted from the cycle on. -/
def Date.ofDayOfYear (year d m : Int) : Date :=
  let day := d - (153 * m + 2) / 5 + 1
  if m < 10 then ⟨year, (m + 3).toNat, day.toNat⟩ else ⟨year + 1, (m - 9).toNat, day.toNat⟩

theorem Date.dayNumber_ofDayOfYear {year d m : Int} (low : 0 ≤ d) (high : d ≤ 365)
    (hm : m = (5 * d + 2) / 153) : (ofDayOfYear year d m).dayNumber =
      365 * year + year / 4 - year / 100 + year / 400 + d - 719468 := by
  obtain ⟨first, last, starts, ends⟩ := monthOfDay low high hm
  simp only [ofDayOfYear, dayNumber]
  split_ifs <;> simp only at * <;> omega

theorem Date.exists_ofDayOfYear {year d m : Int} (low : 0 ≤ d) (high : d ≤ 365)
    (hm : m = (5 * d + 2) / 153) (leap : d = 365 → isLeap (year + 1) = true) :
    (ofDayOfYear year d m).exists = true := by
  obtain ⟨first, last, starts, ends⟩ := monthOfDay low high hm
  clear hm
  rcases (by omega : m ≤ 10 ∨ m = 11) with early | rfl
  · interval_cases m
    all_goals
      simp [ofDayOfYear, Date.exists, daysInMonth]
      omega
  · cases h : isLeap (year + 1) with
    | true =>
      simp [ofDayOfYear, Date.exists, daysInMonth, h]
      omega
    | false =>
      have short : d ≠ 365 := fun whole => by simp [leap whole] at h
      simp [ofDayOfYear, Date.exists, daysInMonth, h]
      omega

theorem isLeap_cycle (y c : Int) : isLeap (y + c * 400) = isLeap y := by
  rw [Bool.eq_iff_iff, isLeap_iff, isLeap_iff]
  omega

theorem leapDays_cycle {y : Int} (low : 0 ≤ y) (high : y ≤ 399) (c : Int) :
    (y + c * 400) / 4 - (y + c * 400) / 100 + (y + c * 400) / 400 = y / 4 - y / 100 + 97 * c := by
  have fourth : (y + c * 400) / 4 = y / 4 + 100 * c := by omega
  have century : (y + c * 400) / 100 = y / 100 + 4 * c := by omega
  have cycle : (y + c * 400) / 400 = c := by omega
  rw [fourth, century, cycle]
  omega

/-- The date of a day number exists and has the day number. -/
theorem Date.ofDayNumber_spec (n : Int) :
    (ofDayNumber n).exists = true ∧ (ofDayNumber n).dayNumber = n := by
  have day := dayOfCycle (e := (n + 719468) % 146097) (by omega) (by omega)
  simp only at day
  have same : ofDayNumber n = ofDayOfYear _ _ _ := rfl
  rw [same]
  generalize hy : ((n + 719468) % 146097 - (n + 719468) % 146097 / 1460 +
    (n + 719468) % 146097 / 36524 - (n + 719468) % 146097 / 146096) / 365 = y at day ⊢
  generalize hd : (n + 719468) % 146097 - (365 * y + y / 4 - y / 100) = d at day ⊢
  obtain ⟨low, high, number, first, last, leap⟩ := day
  constructor
  · refine exists_ofDayOfYear first last rfl fun whole => ?_
    rw [add_right_comm, isLeap_cycle]
    exact leap whole
  · have leapDays := leapDays_cycle low high ((n + 719468) / 146097)
    have whole := Int.mul_ediv_add_emod (n + 719468) 146097
    rw [dayNumber_ofDayOfYear first last rfl]
    omega

end JobDispatch.Time

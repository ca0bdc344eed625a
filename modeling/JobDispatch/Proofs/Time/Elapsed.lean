import JobDispatch.Time.Instant
import Mathlib.Tactic.SplitIfs

/-!
The order of instants, and instants and spans as whole numbers of nanoseconds. Outside leap seconds
the order of instants and the moves by a span are those of the numbers, as long as the instants do
not end.
-/

namespace JobDispatch.Time

namespace Instant

theorem le_iff (a b : Instant) :
    a ≤ b ↔ a.second < b.second ∨ (a.second = b.second ∧ a.nano ≤ b.nano) := by
  change b.before a = false ↔ _
  simp only [before, Bool.or_eq_false_iff, Bool.and_eq_false_iff, decide_eq_false_iff_not,
    beq_eq_false_iff_ne]
  omega

instance (a b : Instant) : Decidable (a ≤ b) := decidable_of_iff _ (le_iff a b).symm

protected theorem le_refl (a : Instant) : a ≤ a := by simp [le_iff]

protected theorem le_trans {a b c : Instant} (hab : a ≤ b) (hbc : b ≤ c) : a ≤ c := by
  rw [le_iff] at hab hbc ⊢
  omega

theorem before_of_before_of_le {a b c : Instant} (hab : a.before b = true) (hbc : b ≤ c) :
    a.before c = true := by
  rw [le_iff] at hbc
  simp only [before, Bool.or_eq_true, Bool.and_eq_true, decide_eq_true_eq, beq_iff_eq] at hab ⊢
  omega

end Instant

/-- The nanoseconds from the beginning of 1970 on; negative before it. -/
def Instant.elapsed (t : Instant) : Int := t.second * milliard + t.nano

def Span.length (s : Span) : Int := s.seconds * milliard + s.nanos

/-- Whether an instant lies outside all leap seconds. -/
def Instant.IsPlain (t : Instant) : Prop := t.nano < milliard

instance (t : Instant) : Decidable t.IsPlain := inferInstanceAs (Decidable (_ < _))

namespace Instant

variable {t u now : Instant}

theorem before_iff (ht : t.IsPlain) (hu : u.IsPlain) :
    t.before u = true ↔ t.elapsed < u.elapsed := by
  simp only [IsPlain, milliard] at ht hu
  simp only [before, elapsed, milliard, Bool.or_eq_true, Bool.and_eq_true, decide_eq_true_eq,
    beq_iff_eq]
  omega

theorem le_iff_elapsed (ht : t.IsPlain) (hu : u.IsPlain) : t ≤ u ↔ t.elapsed ≤ u.elapsed := by
  change u.before t = false ↔ _
  rw [← Bool.not_eq_true, before_iff hu ht, Int.not_lt]

theorem first_le (t : Instant) : first.elapsed ≤ t.elapsed := by
  have low := t.valid.1
  simp only [first, elapsed, milliard] at low ⊢
  omega

theorem le_last (ht : t.IsPlain) : t.elapsed < (lastSecond + 1) * milliard := by
  have high := t.valid.2.1
  simp only [IsPlain] at ht
  simp only [elapsed, milliard] at ht ⊢
  omega

/-- A move of a plain instant leads to the plain instant so much later, unless the instants end
before. -/
theorem move_cases (ht : t.IsPlain) (seconds nanos : Int) :
    (∃ u, t.move seconds nanos = some u ∧ u.IsPlain ∧
      u.elapsed = t.elapsed + (seconds * milliard + nanos)) ∨
    t.move seconds nanos = none ∧ (t.elapsed + (seconds * milliard + nanos) < first.elapsed ∨
      (lastSecond + 1) * milliard ≤ t.elapsed + (seconds * milliard + nanos)) := by
  simp only [move, if_pos (show t.nano < milliard from ht), of?]
  have parts := Int.mul_ediv_add_emod (t.nano + nanos) milliard
  have low := Int.emod_nonneg (t.nano + nanos) (b := milliard) (by decide)
  have high := Int.emod_lt_of_pos (t.nano + nanos) (b := milliard) (by decide)
  generalize (t.nano + nanos) / milliard = q at parts ⊢
  generalize (t.nano + nanos) % milliard = r at parts low high ⊢
  split_ifs with inside
  · left
    refine ⟨_, rfl, ?_, ?_⟩
    · simp only [IsPlain]
      omega
    · simp only [elapsed, milliard] at parts ⊢
      omega
  · right
    refine ⟨rfl, ?_⟩
    simp only [InstantParts, Classical.not_and_iff_not_or_not] at inside
    simp only [elapsed, first, milliard] at parts low high inside ⊢
    omega

theorem elapsed_addSeconds (ht : t.IsPlain) {n : Int} (h : t.addSeconds n = some u) :
    u.IsPlain ∧ u.elapsed = t.elapsed + n * milliard := by
  unfold addSeconds at h
  split_ifs at h
  rcases move_cases ht n 0 with ⟨v, moved, hv, elapsed_v⟩ | ⟨moved, -⟩
  · rw [moved, Option.some.injEq] at h
    subst h
    exact ⟨hv, by rw [elapsed_v, Int.add_zero]⟩
  · rw [moved] at h
    cases h

/-- A limit so many seconds after an instant has passed if and only if the numbers say so: behind
the last instant nothing passes. -/
theorem addSeconds_passed_iff (ht : t.IsPlain) (hnow : now.IsPlain) {n : Int} (positive : 0 < n) :
    ((t.addSeconds n).any fun limit => limit.before now) = true ↔
      t.elapsed + n * milliard < now.elapsed := by
  have low := t.first_le
  have high := le_last hnow
  simp only [first, elapsed, milliard, firstSecond, lastSecond] at low high
  unfold addSeconds
  split_ifs with short
  · rcases move_cases ht n 0 with ⟨u, moved, hu, elapsed_u⟩ | ⟨moved, outside⟩
    · rw [moved, Option.any_some, before_iff hu hnow, elapsed_u, Int.add_zero]
    · rw [moved]
      simp only [first, elapsed, milliard, firstSecond, lastSecond] at outside ⊢
      simp only [Option.any_none, Bool.false_eq_true, false_iff]
      omega
  · -- a span so long leads behind the last instant from anywhere
    simp only [Span.longest] at short
    simp only [Option.any_none, Bool.false_eq_true, false_iff, elapsed, milliard]
    omega

/-- The instant a span ago is plain, and the numbers give it as long as the instants do not begin
after it. -/
theorem elapsed_sub (hnow : now.IsPlain) (s : Span) :
    ((now.sub s).getD first).IsPlain ∧
      ((now.sub s).getD first).elapsed = max first.elapsed (now.elapsed - s.length) := by
  have low := now.first_le
  have high := le_last hnow
  have plain : first.IsPlain := by decide
  simp only [first, elapsed, milliard, firstSecond, lastSecond] at low high
  unfold sub
  split_ifs with short
  · rcases move_cases hnow (-s.seconds) (-s.nanos) with ⟨u, moved, hu, elapsed_u⟩ | ⟨moved, outside⟩
    · have low_u := u.first_le
      rw [moved, Option.getD_some]
      refine ⟨hu, ?_⟩
      simp only [Span.length, milliard] at elapsed_u ⊢
      omega
    · rw [moved, Option.getD_none]
      refine ⟨plain, ?_⟩
      simp only [first, elapsed, milliard, firstSecond, lastSecond] at outside
      simp only [first, elapsed, Span.length, milliard, firstSecond]
      omega
  · -- from anywhere a span so long leads before the first instant
    have long : Span.longest.seconds ≤ s.seconds :=
      Nat.le_of_not_lt fun less => short (by simp [Span.fits, less])
    rw [Option.getD_none]
    refine ⟨plain, ?_⟩
    simp only [Span.longest] at long
    simp only [first, elapsed, Span.length, milliard, firstSecond]
    omega

/-- An instant lies before the one a span ago, or before the first one if there is none, if and
only if the numbers say so. -/
theorem before_sub_iff (ht : t.IsPlain) (hnow : now.IsPlain) (s : Span) :
    t.before ((now.sub s).getD first) = true ↔ t.elapsed + s.length < now.elapsed := by
  obtain ⟨plain, elapsed_sub⟩ := elapsed_sub hnow s
  have low := t.first_le
  rw [before_iff ht plain, elapsed_sub]
  omega

end Instant

end JobDispatch.Time

import JobDispatch.Page
import Mathlib.Tactic.SplitIfs

/-!
What a window shows of a listing. It is cut with words of 64 bits, of which no sum and no difference
is too large or too small, and windows that follow each other show all of a listing, each item once.
-/

namespace JobDispatch.Page

variable {α : Type} {all : List α}

/-- A page shows the items of a listing from one position to another, both included, and says at
which position its last item is and how long the listing is. -/
structure Shows (p : Page α) (all : List α) (start stop : Nat) : Prop where
  items : p.items = (all.drop start).take (stop + 1 - start)
  first : p.start = start
  last : p.stop = start + (p.items.length - 1)
  total : p.total = all.length

theorem Shows.unique {p q : Page α} {start stop : Nat} (hp : p.Shows all start stop)
    (hq : q.Shows all start stop) : p = q := by
  have items : p.items = q.items := hp.items.trans hq.items.symm
  have first : p.start = q.start := hp.first.trans hq.first.symm
  have last : p.stop = q.stop := by rw [hp.last, hq.last, items]
  have total : p.total = q.total := hp.total.trans hq.total.symm
  change (⟨p.items, p.start, p.stop, p.total⟩ : Page α) = q
  rw [items, first, last, total]

theorem shows_window (all : List α) (start stop : Nat) :
    (Page.window all start stop).Shows all start stop := by
  unfold window
  split_ifs with empty
  · have items : (all.drop start).take (stop + 1 - start) = [] := by
      rcases empty with past | crossed
      · rw [List.drop_of_length_le past, List.take_nil]
      · rw [Nat.sub_eq_zero_of_le crossed, List.take_zero]
    exact ⟨items.symm, rfl, rfl, rfl⟩
  · have items : (all.drop start).take (min stop (all.length - 1) - start + 1) =
        (all.drop start).take (stop + 1 - start) := by
      rw [List.take_eq_take_iff, List.length_drop]
      omega
    have last : min stop (all.length - 1) = start +
        (((all.drop start).take (min stop (all.length - 1) - start + 1)).length - 1) := by
      rw [List.length_take, List.length_drop]
      omega
    exact ⟨items, rfl, last, rfl⟩

/-- A window from the beginning shows the first items of a listing. -/
theorem items_window_take (all : List α) (stop : Nat) :
    (Page.window all 0 stop).items = all.take (stop + 1) := by
  unfold window
  split_ifs with empty
  · have nothing : all.length = 0 := by omega
    rw [List.eq_nil_of_length_eq_zero nothing, List.take_nil]
  · change (all.drop 0).take (min stop (all.length - 1) - 0 + 1) = all.take (stop + 1)
    have last : min stop (all.length - 1) - 0 + 1 = min (stop + 1) all.length := by omega
    rw [List.drop_zero, last, List.take_eq_take_min (i := stop + 1)]

/-- A window over a whole listing shows all of it. -/
theorem items_window {stop : Nat} (h : all.length ≤ stop) :
    (Page.window all 0 stop).items = all := by
  rw [items_window_take, List.take_of_length_le (by omega)]

theorem mem_of_window {start stop : Nat} {x : α} (h : x ∈ (Page.window all start stop).items) :
    x ∈ all := by
  unfold window at h
  split_ifs at h with empty
  · cases h
  · exact List.mem_of_mem_drop (List.mem_of_mem_take h)

/-- A page has the items of a listing from one position up to another or to the end of the listing,
whichever comes first. It is empty exactly if no position lies there, and then it ends where it
starts. -/
structure Cuts (p : Page α) (all : List α) (start stop : Nat) : Prop where
  items : ∀ i, p.items[i]? = if start + i ≤ min stop (all.length - 1) then all[start + i]? else none
  first : p.start = start
  total : p.total = all.length
  full : p.items ≠ [] →
    p.stop = min stop (all.length - 1) ∧ p.start ≤ p.stop ∧ p.items.length = p.stop - p.start + 1
  empty : p.items = [] ↔ all.length ≤ start ∨ stop < start
  still : p.items = [] → p.stop = start

theorem Shows.cuts {p : Page α} {start stop : Nat} (h : p.Shows all start stop) :
    p.Cuts all start stop := by
  have length : p.items.length = min (stop + 1 - start) (all.length - start) := by
    rw [h.items, List.length_take, List.length_drop]
  have last := h.last
  have first := h.first
  refine ⟨?_, first, h.total, ?_, ?_, ?_⟩
  · intro i
    rw [h.items, List.getElem?_take, List.getElem?_drop]
    by_cases inside : start + i < all.length
    · have same : i < stop + 1 - start ↔ start + i ≤ min stop (all.length - 1) := by omega
      simp only [same]
    · rw [List.getElem?_eq_none (Nat.le_of_not_lt inside), ite_self, ite_self]
  · intro some_
    have positive : 0 < p.items.length := List.length_pos_iff.mpr some_
    omega
  · rw [← List.length_eq_zero_iff]
    omega
  · intro none
    rw [none, List.length_nil] at last
    omega

/-! Windows cut with words of 64 bits -/

/-- The sum of two words, if it is a word. -/
def addWords (a b : UInt64) : Option UInt64 :=
  if a.toNat + b.toNat < UInt64.size then some (a + b) else none

/-- The difference of two words, if it is a word. -/
def subWords (a b : UInt64) : Option UInt64 := if b ≤ a then some (a - b) else none

/-- Cuts a window with words alone; absent where a sum or a difference is no word. -/
def windowOfWords (all : List α) (start stop : UInt64) : Option (Page α) :=
  let total := UInt64.ofNat all.length
  if total ≤ start ∨ stop < start then some ⟨[], start.toNat, start.toNat, total.toNat⟩
  else do
    let last := min stop (← subWords total 1)
    let count ← addWords (← subWords last start) 1
    return ⟨(all.drop start.toNat).take count.toNat, start.toNat, last.toNat, total.toNat⟩

theorem toNat_min (a b : UInt64) : (min a b).toNat = min a.toNat b.toNat := by
  rw [show min a b = if a ≤ b then a else b from rfl, apply_ite UInt64.toNat, Nat.min_def]
  simp only [UInt64.le_iff_toNat_le]

theorem addWords_eq {a b : UInt64} (h : a.toNat + b.toNat < UInt64.size) :
    addWords a b = some (a + b) ∧ (a + b).toNat = a.toNat + b.toNat :=
  ⟨if_pos h, by rw [UInt64.toNat_add, Nat.mod_eq_of_lt h]⟩

theorem subWords_eq {a b : UInt64} (h : b.toNat ≤ a.toNat) :
    subWords a b = some (a - b) ∧ (a - b).toNat = a.toNat - b.toNat :=
  ⟨if_pos (UInt64.le_iff_toNat_le.mpr h), UInt64.toNat_sub_of_le _ _ (UInt64.le_iff_toNat_le.mpr h)⟩

/-- No sum and no difference leaves the words when a window is cut. -/
theorem windowOfWords_eq (fits : all.length < UInt64.size) (start stop : UInt64) :
    windowOfWords all start stop = some (window all start.toNat stop.toNat) := by
  have total : (UInt64.ofNat all.length).toNat = all.length := UInt64.toNat_ofNat_of_lt' fits
  have one : (1 : UInt64).toNat = 1 := rfl
  have empty : UInt64.ofNat all.length ≤ start ∨ stop < start ↔
      all.length ≤ start.toNat ∨ stop.toNat < start.toNat := by
    rw [UInt64.le_iff_toNat_le, UInt64.lt_iff_toNat_lt, total]
  unfold windowOfWords window
  simp only [empty]
  split_ifs with nothing
  · rw [total]
  · obtain ⟨less, lessNat⟩ :=
      subWords_eq (a := UInt64.ofNat all.length) (b := 1) (by rw [total, one]; omega)
    rw [total, one] at lessNat
    have lastNat := toNat_min stop (UInt64.ofNat all.length - 1)
    rw [lessNat] at lastNat
    obtain ⟨span, spanNat⟩ :=
      subWords_eq (a := min stop (UInt64.ofNat all.length - 1)) (b := start)
        (by rw [lastNat]; omega)
    rw [lastNat] at spanNat
    obtain ⟨count, countNat⟩ :=
      addWords_eq (a := min stop (UInt64.ofNat all.length - 1) - start) (b := 1)
        (by rw [spanNat, one]; omega)
    rw [spanNat, one] at countNat
    simp only [less, span, count, Option.bind_eq_bind, Option.bind_some, countNat, lastNat, total]
    rfl

/-- Windows of one size that follow each other show the beginning of a listing. -/
theorem flatMap_window (all : List α) {size : Nat} (positive : 0 < size) (n : Nat) :
    ((List.range n).flatMap fun k => (window all (k * size) (k * size + size - 1)).items) =
      all.take (n * size) := by
  induction n with
  | zero => simp
  | succ n ih =>
    have next : (window all (n * size) (n * size + size - 1)).items =
        (all.drop (n * size)).take size := by
      rw [(shows_window all _ _).items, show n * size + size - 1 + 1 - n * size = size by omega]
    rw [List.range_succ, List.flatMap_append, ih, List.flatMap_singleton, next, Nat.succ_mul,
      List.take_add]

/-- A window is cut without leaving the words of 64 bits, and shows what stands there. Windows of
one size that follow each other show a whole listing as soon as they reach its end. -/
theorem window_exact (fits : all.length < UInt64.size) :
    (∀ start stop : UInt64,
      windowOfWords all start stop = some (window all start.toNat stop.toNat) ∧
        (window all start.toNat stop.toNat).Cuts all start.toNat stop.toNat) ∧
    ∀ size n, 0 < size → all.length ≤ n * size →
      ((List.range n).flatMap fun k => (window all (k * size) (k * size + size - 1)).items) =
        all := by
  constructor
  · intro start stop
    exact ⟨windowOfWords_eq fits start stop, (shows_window all _ _).cuts⟩
  · intro size n positive reached
    rw [flatMap_window all positive, List.take_of_length_le reached]

/-- A window without an end begins behind the first of four items. -/
theorem window_exact_four :
    [1, 2, 3, 4].length < UInt64.size ∧
      windowOfWords [1, 2, 3, 4] 1 18446744073709551615 = some ⟨[2, 3, 4], 1, 3, 4⟩ ∧
      ((List.range 2).flatMap fun k => (window [1, 2, 3, 4] (k * 3) (k * 3 + 3 - 1)).items) =
        [1, 2, 3, 4] := by
  have fits : [1, 2, 3, 4].length < UInt64.size := by decide
  obtain ⟨words, chunks⟩ := window_exact fits
  exact ⟨fits, (words 1 18446744073709551615).1, chunks 3 2 (by decide) (by decide)⟩

end JobDispatch.Page

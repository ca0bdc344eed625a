import JobDispatch.Pattern.Image
import Mathlib.Data.List.Forall2
import Mathlib.Data.Nat.Bitwise

/-!
Matches of rows. The places where a row ends are found node by node, and a row of sets between the
anchors of a text matches the texts whose characters lie in the sets, one in each.
-/

namespace JobDispatch.Pattern

open Unicode (CharSet)

theorem testBit_bitsWhere {α : Type} (p : α → Bool) (as : List α) (i : Nat) :
    (bitsWhere p as).testBit i = as[i]?.any p := by
  induction as generalizing i with
  | nil => simp [bitsWhere]
  | cons a as ih =>
    cases i with
    | zero => cases h : p a <;> simp [bitsWhere, h]
    | succ i =>
      have half : bitsWhere p (a :: as) / 2 = bitsWhere p as := by
        rw [bitsWhere]
        split <;> omega
      rw [Nat.testBit_succ, half, ih, List.getElem?_cons_succ]

/-- At each place of a text the characters before it and behind it make up the text. -/
theorem getElem?_places (before text : List Char) (i : Nat) :
    (places before text)[i]? =
      if i ≤ text.length then some ((text.take i).reverse ++ before, text.drop i) else none := by
  induction text generalizing before i with
  | nil => cases i <;> simp [places]
  | cons c text ih =>
    cases i with
    | zero => simp [places]
    | succ i => simp [places, ih]

/-- The places at which a condition holds. -/
theorem Look.testBit_holds (word : Char → Bool) (l : Look) (text : List Char) (i : Nat) :
    (bitsWhere (l.holds word) (places [] text)).testBit i = true ↔
      i ≤ text.length ∧ l.holds word ((text.take i).reverse, text.drop i) = true := by
  rw [testBit_bitsWhere, getElem?_places]
  by_cases inside : i ≤ text.length <;> simp [inside]

theorem Look.testBit_textStart (text : List Char) (i : Nat) :
    (Look.bits text .textStart).testBit i = true ↔ i = 0 := by
  show (bitsWhere (holds CharSet.empty.contains .textStart) (places [] text)).testBit i = true ↔ _
  rw [testBit_holds]
  cases i <;> cases text <;> simp [holds]

theorem Look.testBit_textEnd (text : List Char) (i : Nat) :
    (Look.bits text .textEnd).testBit i = true ↔ i = text.length := by
  show (bitsWhere (holds CharSet.empty.contains .textEnd) (places [] text)).testBit i = true ↔ _
  rw [testBit_holds]
  simp only [holds, List.isEmpty_iff, List.drop_eq_nil_iff]
  omega

namespace Node

variable {text : List Char} {s : Nat}

theorem isEmpty_iff {n : Meaning} : n.isEmpty = true ↔ n = .empty := by
  cases n <;> simp [isEmpty]

/-- A row ends where its nodes end, each beginning where the one before it ended. -/
theorem ends_seq (ns : List Meaning) :
    (seq ns).ends text s = ns.foldl (fun s n => n.ends text s) s := by
  induction ns generalizing s with
  | nil => rfl
  | cons n ns ih => exact ih

/-- The empty nodes of a row are left out. -/
theorem ends_ofRow (ns : List Meaning) :
    (ofRow ns).ends text s = ns.foldl (fun s n => n.ends text s) s := by
  have kept : (ns.filter fun n => !n.isEmpty).foldl (fun s n => n.ends text s) s =
      ns.foldl (fun s n => n.ends text s) s := by
    induction ns generalizing s with
    | nil => rfl
    | cons n ns ih =>
      by_cases none : n.isEmpty = true
      · have same : n.ends text s = s := by rw [isEmpty_iff.mp none]; rfl
        simp [none, ih, same]
      · simp [none, ih]
  rw [← kept, ofRow]
  split
  · next none => rw [none]; rfl
  · next n single => rw [single]; rfl
  · rw [ends_seq]

theorem testBit_ends_one (set : CharSet) (j : Nat) :
    ((one set).ends text s).testBit j = true ↔
      ∃ i c, s.testBit i = true ∧ text[i]? = some c ∧ set.contains c = true ∧ j = i + 1 := by
  show ((s &&& bitsWhere set.contains text) <<< 1).testBit j = true ↔ _
  cases j with
  | zero => simp
  | succ j => simp [testBit_bitsWhere, Option.any_eq_true]

/-- A row of sets ends behind as many characters, each of which lies in its set. -/
theorem testBit_ends_sets (sets : List CharSet) (j : Nat) :
    ((sets.map one).foldl (fun s n => n.ends text s) s).testBit j = true ↔
      ∃ i, s.testBit i = true ∧ j = i + sets.length ∧
        List.Forall₂ (fun set c => set.contains c = true) sets
          ((text.drop i).take sets.length) := by
  induction sets generalizing s with
  | nil => simp
  | cons set sets ih =>
    rw [List.map_cons, List.foldl_cons, ih]
    constructor
    · rintro ⟨k, start, rfl, rest⟩
      obtain ⟨i, c, there, char, first, rfl⟩ := (testBit_ends_one set k).mp start
      obtain ⟨inside, rfl⟩ := List.getElem?_eq_some_iff.mp char
      refine ⟨i, there, by simp; omega, ?_⟩
      rw [List.drop_eq_getElem_cons inside, List.length_cons, List.take_succ_cons]
      exact .cons first rest
    · rintro ⟨i, there, rfl, all⟩
      cases behind : text.drop i with
      | nil => simp [behind] at all
      | cons c r =>
        rw [behind, List.length_cons, List.take_succ_cons] at all
        obtain ⟨first, rest⟩ := List.forall₂_cons.mp all
        have char : text[i]? = some c := by
          rw [← List.head?_drop, behind, List.head?_cons]
        have tail : text.drop (i + 1) = r := by
          rw [← List.tail_drop, behind, List.tail_cons]
        refine ⟨i + 1, (testBit_ends_one set _).mpr ⟨i, c, there, char, first, rfl⟩, ?_, ?_⟩
        · simp
          omega
        · rwa [tail]

/-- Between the anchors of a text, a node matches a part of it if it matches the whole. -/
theorem matchesPart_anchored (n : Meaning) (text : List Char) :
    (ofRow [look .textStart, n, look .textEnd]).matchesPart text = n.matchesWhole text := by
  have start : (look .textStart).ends text (Nat.pow 2 (text.length + 1) - 1) = 1 := by
    refine Nat.eq_of_testBit_eq ?_
    intro i
    show ((2 ^ (text.length + 1) - 1) &&& Look.bits text .textStart).testBit i = _
    rw [Bool.eq_iff_iff, Nat.testBit_and, Nat.testBit_two_pow_sub_one, Bool.and_eq_true,
      Look.testBit_textStart, Nat.testBit_one_eq_true_iff_self_eq_zero, decide_eq_true_iff]
    omega
  have stop (s i : Nat) : ((look .textEnd).ends text s).testBit i = true ↔
      s.testBit i = true ∧ i = text.length := by
    show (s &&& Look.bits text .textEnd).testBit i = true ↔ _
    rw [Nat.testBit_and, Bool.and_eq_true, Look.testBit_textEnd]
  have found (b : Nat) : (b != 0) = true ↔ ∃ i, b.testBit i = true := by
    rw [bne_iff_ne]
    constructor
    · exact Nat.exists_testBit_of_ne_zero
    · rintro ⟨i, h⟩ rfl
      simp at h
  rw [Bool.eq_iff_iff, matchesPart, ends_ofRow, found, matchesWhole]
  simp only [List.foldl_cons, List.foldl_nil, stop, start, exists_eq_right]

/-- Between the anchors of a text, a row of sets matches the whole of it. -/
theorem matchesPart_sets_iff (sets : List CharSet) :
    (ofRow [look .textStart, ofRow (sets.map one), look .textEnd]).matchesPart text = true ↔
      List.Forall₂ (fun set c => set.contains c = true) sets text := by
  rw [matchesPart_anchored, matchesWhole, ends_ofRow, testBit_ends_sets]
  constructor
  · rintro ⟨i, start, ends_, all⟩
    obtain rfl := Nat.testBit_one_eq_true_iff_self_eq_zero.mp start
    have length : sets.length = text.length := by omega
    rwa [List.drop_zero, length, List.take_length] at all
  · intro all
    refine ⟨0, rfl, ?_, ?_⟩
    · rw [Nat.zero_add, all.length_eq]
    · rwa [List.drop_zero, all.length_eq, List.take_length]

end Node

end JobDispatch.Pattern

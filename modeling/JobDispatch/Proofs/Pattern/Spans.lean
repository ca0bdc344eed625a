import JobDispatch.Proofs.Pattern.Row

/-!
What a match is: a node spans a part of a text from one place to another, as its parts do. The
places that are found for a node are those where a match ends, from the places that it may begin at.
-/

namespace JobDispatch.Pattern

open Unicode (CharSet)

/-- So many steps of a relation, one after the other. -/
def Times (R : Nat → Nat → Prop) : Nat → Nat → Nat → Prop
  | 0, i, j => j = i
  | k + 1, i, j => ∃ m, R i m ∧ Times R k m j

/-- Whether a condition holds at a place of a text. -/
def Look.HoldsAt (text : List Char) (l : Look) (i : Nat) : Prop :=
  let words := match l with
    | .word unicode _ => wordSet unicode
    | _ => .empty
  i ≤ text.length ∧ l.holds words.contains ((text.take i).reverse, text.drop i) = true

mutual

/-- Whether a node matches a text from one place to another. -/
def Node.Spans (text : List Char) : Meaning → Nat → Nat → Prop
  | .empty, i, j => j = i
  | .one set, i, j => j = i + 1 ∧ ∃ c, text[i]? = some c ∧ set.contains c = true
  | .look l, i, j => j = i ∧ l.HoldsAt text i
  | .capture n, i, j => n.Spans text i j
  | .seq ns, i, j => RowSpans text ns i j
  | .alt ns, i, j => BranchSpans text ns i j
  | .rep low high n, i, j =>
    ∃ more, (∀ most ∈ high, more ≤ most - low) ∧ Times (n.Spans text) (low + more) i j

/-- One node after the other. -/
def RowSpans (text : List Char) : List Meaning → Nat → Nat → Prop
  | [], i, j => j = i
  | n :: ns, i, j => ∃ k, n.Spans text i k ∧ RowSpans text ns k j

/-- One node of several. -/
def BranchSpans (text : List Char) : List Meaning → Nat → Nat → Prop
  | [], _, _ => False
  | n :: ns, i, j => n.Spans text i j ∨ BranchSpans text ns i j

end

/-- A function on sets of places that goes from the places of a set to those a relation leads to. -/
def Tracks (f : Nat → Nat) (R : Nat → Nat → Prop) : Prop :=
  ∀ s j, (f s).testBit j = true ↔ ∃ i, s.testBit i = true ∧ R i j

theorem tracks_id : Tracks id fun i j => j = i := by
  intro s j
  simp

theorem Tracks.comp {f g : Nat → Nat} {R S : Nat → Nat → Prop} (hf : Tracks f R)
    (hg : Tracks g S) : Tracks (fun s => g (f s)) fun i j => ∃ k, R i k ∧ S k j := by
  intro s j
  rw [hg]
  simp only [hf _ _]
  constructor
  · rintro ⟨k, ⟨i, there, first⟩, second⟩
    exact ⟨i, there, k, first, second⟩
  · rintro ⟨i, there, k, first, second⟩
    exact ⟨k, ⟨i, there, first⟩, second⟩

theorem Tracks.union {f g : Nat → Nat} {R S : Nat → Nat → Prop} (hf : Tracks f R)
    (hg : Tracks g S) : Tracks (fun s => f s ||| g s) fun i j => R i j ∨ S i j := by
  intro s j
  rw [Nat.testBit_or, Bool.or_eq_true, hf, hg]
  constructor
  · rintro (⟨i, there, first⟩ | ⟨i, there, second⟩)
    · exact ⟨i, there, .inl first⟩
    · exact ⟨i, there, .inr second⟩
  · rintro ⟨i, there, first | second⟩
    · exact .inl ⟨i, there, first⟩
    · exact .inr ⟨i, there, second⟩

/-- Stopping where nothing changes any more changes nothing. -/
theorem applyTimes_eq (f : Nat → Nat) (k s : Nat) : applyTimes f k s = f^[k] s := by
  induction k generalizing s with
  | zero => rfl
  | succ k ih =>
    rw [applyTimes]
    split
    · next fixed => exact (Function.iterate_fixed fixed (k + 1)).symm
    · rw [ih, Function.iterate_succ_apply]

theorem applyUpTo_eq (f : Nat → Nat) (k s : Nat) :
    applyUpTo f k s = (fun s => s ||| f s)^[k] s := by
  induction k generalizing s with
  | zero => rfl
  | succ k ih =>
    rw [applyUpTo]
    split
    · next fixed => exact (Function.iterate_fixed fixed (k + 1)).symm
    · rw [ih, Function.iterate_succ_apply]

section

variable {f : Nat → Nat} {R : Nat → Nat → Prop}

theorem Tracks.iterate (h : Tracks f R) (k : Nat) : Tracks f^[k] (Times R k) := by
  induction k with
  | zero => exact tracks_id
  | succ k ih => exact h.comp ih

theorem times_add (a b i j : Nat) :
    Times R (a + b) i j ↔ ∃ k, Times R a i k ∧ Times R b k j := by
  induction a generalizing i with
  | zero => simp [Times]
  | succ a ih =>
    rw [Nat.succ_add]
    simp only [Times, ih]
    constructor
    · rintro ⟨m, first, k, rest, last⟩
      exact ⟨k, ⟨m, first, rest⟩, last⟩
    · rintro ⟨k, ⟨m, first, rest⟩, last⟩
      exact ⟨m, first, k, rest, last⟩

/-- Steps that may be left out are up to so many steps. -/
theorem times_or_iff (k i j : Nat) :
    Times (fun i j => j = i ∨ R i j) k i j ↔ ∃ m ≤ k, Times R m i j := by
  induction k generalizing i with
  | zero => simp [Times]
  | succ k ih =>
    simp only [Times, ih]
    constructor
    · rintro ⟨_, rfl | first, m, low, rest⟩
      · exact ⟨m, Nat.le_succ_of_le low, rest⟩
      · exact ⟨m + 1, Nat.succ_le_succ low, _, first, rest⟩
    · rintro ⟨m, low, steps⟩
      cases m with
      | zero => exact ⟨i, .inl rfl, 0, Nat.zero_le k, steps⟩
      | succ m =>
        obtain ⟨next, first, rest⟩ := steps
        exact ⟨next, .inr first, m, Nat.le_of_succ_le_succ low, rest⟩

theorem Tracks.upTo (h : Tracks f R) (k : Nat) :
    Tracks (applyUpTo f k) fun i j => ∃ m ≤ k, Times R m i j := by
  have steps : Tracks (fun s => s ||| f s)^[k] _ := (tracks_id.union h).iterate k
  intro s j
  rw [applyUpTo_eq]
  simpa only [times_or_iff] using steps s j

/-- A relation that never leads back, nor from one place to another beyond a bound. -/
def Advances (bound : Nat) (R : Nat → Nat → Prop) : Prop :=
  ∀ i j, R i j → j = i ∨ (i < j ∧ j ≤ bound)

theorem Advances.trans {bound i k j : Nat} (first : k = i ∨ (i < k ∧ k ≤ bound))
    (second : j = k ∨ (k < j ∧ j ≤ bound)) : j = i ∨ (i < j ∧ j ≤ bound) := by
  omega

/-- Steps that lead nowhere can be left out, and then there are no more steps than places. -/
theorem Advances.shorten {bound : Nat} (h : Advances bound R) {k i j : Nat}
    (steps : Times R k i j) :
    (j = i ∨ (i < j ∧ j ≤ bound)) ∧ ∃ m ≤ j - i, Times R m i j := by
  induction k generalizing i with
  | zero => exact ⟨.inl steps, 0, Nat.zero_le _, steps⟩
  | succ k ih =>
    obtain ⟨next, first, rest⟩ := steps
    obtain ⟨ahead, m, low, fewer⟩ := ih rest
    rcases h i next first with rfl | ⟨less, inside⟩
    · exact ⟨ahead, m, low, fewer⟩
    · exact ⟨Advances.trans (.inr ⟨less, inside⟩) ahead, m + 1, by omega, next, first, fewer⟩

/-- A relation repeated: so many times, and then up to a number of times more or without end. -/
theorem Tracks.repeated {bound : Nat} (h : Tracks f R) (advances : Advances bound R) (low : Nat)
    (high : Option Nat) :
    Tracks
      (fun s => applyUpTo f ((high.map (· - low)).getD (bound + 1)) (applyTimes f low s))
      fun i j => ∃ more, (∀ most ∈ high, more ≤ most - low) ∧ Times R (low + more) i j := by
  have first : Tracks (applyTimes f low) (Times R low) := by
    intro s j
    rw [applyTimes_eq]
    exact h.iterate low s j
  intro s j
  rw [first.comp (h.upTo ((high.map (· - low)).getD (bound + 1))) s j]
  simp only [times_add]
  constructor
  · rintro ⟨i, there, k, start, m, few, rest⟩
    refine ⟨i, there, m, ?_, k, start, rest⟩
    rintro most rfl
    exact few
  · rintro ⟨i, there, m, few, k, start, rest⟩
    refine ⟨i, there, k, start, ?_⟩
    cases high with
    | some most => exact ⟨m, few most rfl, rest⟩
    | none =>
      obtain ⟨ahead, fewer, low, steps⟩ := advances.shorten rest
      have places : fewer ≤ bound + 1 := by omega
      exact ⟨fewer, places, steps⟩

end

mutual

theorem Node.advances (text : List Char) :
    (n : Meaning) → Advances text.length (n.Spans text)
  | .empty => fun _ _ h => .inl h
  | .one set => by
    rintro i _ ⟨rfl, c, char, -⟩
    obtain ⟨inside, -⟩ := List.getElem?_eq_some_iff.mp char
    exact .inr ⟨Nat.lt_succ_self i, inside⟩
  | .look l => fun _ _ h => .inl h.1
  | .capture n => n.advances text
  | .seq ns => rowAdvances text ns
  | .alt ns => branchAdvances text ns
  | .rep low high n => by
    rintro i j ⟨more, -, steps⟩
    exact ((n.advances text).shorten steps).1

theorem rowAdvances (text : List Char) :
    (ns : List Meaning) → Advances text.length (RowSpans text ns)
  | [] => fun _ _ h => .inl h
  | n :: ns => by
    rintro i j ⟨k, first, rest⟩
    exact Advances.trans (n.advances text i k first) (rowAdvances text ns k j rest)

theorem branchAdvances (text : List Char) :
    (ns : List Meaning) → Advances text.length (BranchSpans text ns)
  | [] => nofun
  | n :: ns => by
    rintro i j (first | rest)
    · exact n.advances text i j first
    · exact branchAdvances text ns i j rest

end

theorem Look.testBit_bits (text : List Char) (l : Look) (i : Nat) :
    (Look.bits text l).testBit i = true ↔ l.HoldsAt text i :=
  testBit_holds _ l text i

mutual

/-- What is found for a node is where its matches end. -/
theorem Node.tracks (text : List Char) :
    (n : Meaning) → Tracks (fun s => n.ends text s) (n.Spans text)
  | .empty => tracks_id
  | .one set => by
    intro s j
    show ((Node.one set : Meaning).ends text s).testBit j = true ↔ _
    rw [Node.testBit_ends_one]
    constructor
    · rintro ⟨i, c, there, char, inside, rfl⟩
      exact ⟨i, there, rfl, c, char, inside⟩
    · rintro ⟨i, there, rfl, c, char, inside⟩
      exact ⟨i, c, there, char, inside, rfl⟩
  | .look l => by
    intro s j
    show (s &&& Look.bits text l).testBit j = true ↔ _
    rw [Nat.testBit_and, Bool.and_eq_true, Look.testBit_bits]
    constructor
    · rintro ⟨there, holds⟩
      exact ⟨j, there, rfl, holds⟩
    · rintro ⟨_, there, rfl, holds⟩
      exact ⟨there, holds⟩
  | .capture n => n.tracks text
  | .seq ns => by
    intro s j
    show ((Node.seq ns : Meaning).ends text s).testBit j = true ↔ _
    rw [Node.ends_seq]
    exact rowTracks text ns s j
  | .alt ns => branchTracks text ns
  | .rep low high n => (n.tracks text).repeated (n.advances text) low high

theorem rowTracks (text : List Char) : (ns : List Meaning) →
    Tracks (fun s => ns.foldl (fun s n => n.ends text s) s) (RowSpans text ns)
  | [] => tracks_id
  | n :: ns => (n.tracks text).comp (rowTracks text ns)

theorem branchTracks (text : List Char) : (ns : List Meaning) →
    Tracks (fun s => (Node.alt ns : Meaning).ends text s) (BranchSpans text ns)
  | [] => by
    intro s j
    show (0 : Nat).testBit j = true ↔ _
    simp [BranchSpans]
  | n :: ns => (n.tracks text).union (branchTracks text ns)

end

theorem Node.matchesWhole_iff (n : Meaning) (text : List Char) :
    n.matchesWhole text = true ↔ n.Spans text 0 text.length := by
  have ends_ := n.tracks text 1 text.length
  simp only [Nat.testBit_one_eq_true_iff_self_eq_zero, exists_eq_left] at ends_
  exact ends_

end JobDispatch.Pattern

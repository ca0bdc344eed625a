import JobDispatch.Pattern.Competency
import JobDispatch.Proofs.Pattern.Row

/-!
Plain texts as patterns. A text without the signs of which patterns are made covers itself, and if
it has no dot either, it covers nothing else.
-/

namespace JobDispatch.Pattern

open Unicode (CharSet)

/-- The characters that do not stand for themselves at the front of an item. The dot is not among
them: it stands for itself, too. -/
def signs : List Char := ['\\', '^', '$', '|', '?', '*', '+', '(', ')', '[', '{']

def Plain (s : List Char) : Prop := ∀ c ∈ s, c ∉ signs

instance (s : List Char) : Decidable (Plain s) := List.decidableBAll (· ∉ signs) s

/-- What a character that is no sign is read as. -/
def Atom.ofChar (c : Char) : Atom := if c = '.' then .dot else .literal ⟨c, false⟩

/-- The row that the characters of a plain text are read as. -/
def letters (s : List Char) : List Tree := s.map fun c => .atom (.ofChar c)

/-- The characters that a character which is no sign stands for. -/
def sense (c : Char) : CharSet := if c = '.' then dotSet .start else .singleton c

theorem item_of_plain {c : Char} (h : c ∉ signs) (rest : List Char) :
    item false (c :: rest) = some (.tree (.atom (.ofChar c)), rest) := by
  simp only [item]
  split <;> simp_all [signs, Atom.ofChar]

section Reading

variable {r r' : Reading} {s rest : List Char}

theorem readItems_nil (r : Reading) : readItems r [] = some r := by
  rw [readItems]
  cases h : r.verbose <;> rfl

/-- A text is read one item after the other. -/
theorem readItems_next {c : Char} {cs : List Char} {i : Item} (found : skip r.verbose s = c :: cs)
    (first : item r.verbose (c :: cs) = some (i, rest)) (taken : r.take i = some r')
    (shorter : rest.length < s.length) : readItems r s = readItems r' rest := by
  rw [readItems]
  simp only [found, first, taken, if_pos shorter]

theorem readItems_step {i : Item} (verbose : r.verbose = false)
    (first : item false s = some (i, rest)) (taken : r.take i = some r')
    (shorter : rest.length < s.length) : readItems r s = readItems r' rest := by
  cases s with
  | nil => cases first
  | cons c s =>
    have kept : skip r.verbose (c :: s) = c :: s := by
      rw [verbose]
      rfl
    exact readItems_next kept (verbose ▸ first) taken shorter

theorem readItems_plain (verbose : r.verbose = false) (plain : Plain s) (rest : List Char) :
    readItems r (s ++ rest) = readItems { r with
      level := { r.level with row := (letters s).reverse ++ r.level.row } } rest := by
  induction s generalizing r with
  | nil => rfl
  | cons c s ih =>
    obtain ⟨first, others⟩ := List.forall_mem_cons.mp plain
    have taken : r.take (.tree (.atom (.ofChar c))) =
        some { r with level := r.level.push (.atom (.ofChar c)) } := rfl
    rw [List.cons_append, readItems_step verbose (item_of_plain first (s ++ rest)) taken (by simp),
      ih (r := { r with level := r.level.push (.atom (.ofChar c)) }) verbose others]
    simp [letters, Level.push]

/-- A plain text between anchors is read as a group between anchors. -/
theorem readItems_anchored {p : List Char} (plain : Plain p) :
    readItems .start (anchored p) = some { Reading.start with
      level := ⟨[], [.atom (.anchor .lineEnd), .group (.flagged []) (.ofRow (letters p)),
        .atom (.anchor .lineStart)]⟩ } := by
  have text : anchored p = '^' :: '(' :: '?' :: ':' :: (p ++ [')', '$']) := by simp [anchored]
  have opening (s : List Char) :
      item false ('(' :: '?' :: ':' :: s) = some (.opening (.flagged []) none, s) := by
    rfl
  rw [text, readItems_step rfl rfl rfl (by simp),
    readItems_step rfl (opening (p ++ [')', '$'])) rfl (by simp),
    readItems_plain rfl plain, readItems_step rfl rfl rfl (by simp),
    readItems_step rfl rfl rfl (by simp), readItems_nil]
  simp [Level.push, Level.tree, Level.start, Tree.ofBranches, Reading.start]

theorem Tree.read_eq_some_iff {t : Tree} : Tree.read s = some t ↔
    ∃ r, readItems .start s = some r ∧ r.groups = [] ∧ r.level.tree = t ∧ t.depth ≤ maxDepth := by
  have finish (r : Reading) (t : Tree) :
      r.finish = some t ↔ r.groups = [] ∧ r.level.tree = t := by
    cases groups : r.groups <;> simp [Reading.finish, groups]
  constructor
  · intro h
    obtain ⟨r, reads, h⟩ := Option.bind_eq_some_iff.mp h
    obtain ⟨t', ends, h⟩ := Option.bind_eq_some_iff.mp h
    obtain ⟨shallow, same⟩ := Option.ite_none_right_eq_some.mp h
    cases same
    obtain ⟨closed, tree⟩ := (finish r t).mp ends
    exact ⟨r, reads, closed, tree, shallow⟩
  · rintro ⟨r, reads, closed, tree, shallow⟩
    rw [Tree.read, reads]
    simp [(finish r t).mpr ⟨closed, tree⟩, shallow]

theorem meaning?_eq_some_iff {n : Meaning} : meaning? s = some n ↔
    ∃ t fl, Tree.read s = some t ∧ t.node .start = some (n, fl) ∧ fitsSize n = true := by
  simp [meaning?, Option.bind_eq_some_iff]

end Reading

theorem Tree.node_ofRow (fl : Flags) (ts : List Tree) :
    (Tree.ofRow ts).node fl = (nodes fl ts).map fun x => (Node.ofRow x.1, x.2) := by
  match ts with
  | [] => rfl
  | [t] =>
    cases h : t.node fl with
    | none => simp [Tree.ofRow, nodes, h]
    | some x =>
      obtain ⟨n, fl'⟩ := x
      cases n <;> simp [Tree.ofRow, nodes, h, Node.ofRow, Node.isEmpty]
  | t :: u :: ts =>
    simp only [Tree.ofRow, Tree.node]
    cases nodes fl (t :: u :: ts) <;> rfl

theorem nodes_letters (p : List Char) :
    nodes .start (letters p) = some ((p.map sense).map .one, .start) := by
  induction p with
  | nil => rfl
  | cons c p ih =>
    have first : (Atom.ofChar c).node .start = some (.one (sense c)) := by
      by_cases dot : c = '.'
      · simp [Atom.ofChar, sense, dot, Atom.node, Flags.start]
      · simp [Atom.ofChar, sense, dot, Atom.node, literalNode, Flags.start, Flags.fold]
    rw [letters] at ih
    simp [letters, nodes, Tree.node, first, ih]

/-- A group between anchors means what is in it, between the ends of the text. -/
theorem Tree.node_anchored {t : Tree} {n : Meaning} {fl : Flags}
    (h : t.node .start = some (n, fl)) :
    (Tree.ofRow [.atom (.anchor .lineStart), .group (.flagged []) t,
        .atom (.anchor .lineEnd)]).node .start =
      some (.ofRow [.look .textStart, n, .look .textEnd], .start) := by
  have first : (Tree.atom (.anchor .lineStart)).node .start = some (.look .textStart, .start) := rfl
  have group : (Tree.group (.flagged []) t).node .start = some (n, .start) := by
    have same : Flags.start.change [] = .start := rfl
    rw [Tree.node, same, h]
    rfl
  have last : (Tree.atom (.anchor .lineEnd)).node .start = some (.look .textEnd, .start) := rfl
  simp [Tree.node_ofRow, nodes, first, group, last]

/-- What a plain text means between anchors, if it is not too large. -/
theorem meaning?_anchored {p : List Char} (plain : Plain p) {n : Meaning}
    (h : meaning? (anchored p) = some n) :
    n = .ofRow [.look .textStart, .ofRow ((p.map sense).map .one), .look .textEnd] := by
  obtain ⟨t, fl, read, means, -⟩ := meaning?_eq_some_iff.mp h
  obtain ⟨r, reads, -, rfl, -⟩ := Tree.read_eq_some_iff.mp read
  rw [readItems_anchored plain] at reads
  cases reads
  have inner : (Tree.ofRow (letters p)).node .start =
      some (.ofRow ((p.map sense).map .one), .start) := by
    rw [Tree.node_ofRow, nodes_letters]
    rfl
  have same := (Tree.node_anchored inner).symm.trans means
  cases same
  rfl

/-- A character that is no sign stands for itself, and the dot for whatever does not end a line. -/
theorem contains_sense_iff {c d : Char} :
    (sense c).contains d = true ↔ c = d ∨ (c = '.' ∧ d ≠ '\n') := by
  by_cases dot : c = '.'
  · have line : dotSet .start = ⟨[(0, 9), (11, Unicode.maxCode)]⟩ := rfl
    have bound : d.toNat ≤ Unicode.maxCode := by
      have valid : d.toNat < 0xD800 ∨ (0xDFFF < d.toNat ∧ d.toNat < 0x110000) := d.valid
      unfold Unicode.maxCode
      omega
    have stop : d = '\n' ↔ d.toNat = 10 := Char.toNat_inj.symm
    have period : '.' = d ↔ 46 = d.toNat := Char.toNat_inj.symm
    rw [sense, if_pos dot, line, CharSet.contains, CharSet.containsCode]
    simp [dot, stop, period, bound]
    omega
  · have same : c = d ↔ c.toNat = d.toNat := Char.toNat_inj.symm
    rw [sense, if_neg dot, CharSet.contains, CharSet.containsCode, CharSet.singleton]
    simp [dot, same]
    omega

/-- A plain text covers itself. If it is a pattern it covers the texts that have its characters in
their places, too, where a dot may be any character of a line; if it is too large for one, it covers
nothing else. -/
theorem fits_iff_of_plain {p v : String} (plain : Plain p.toList) :
    fits p v = true ↔ p = v ∨ (competency? p ≠ none ∧
      List.Forall₂ (fun c d => c = d ∨ (c = '.' ∧ d ≠ '\n')) p.toList v.toList) := by
  cases meaning : competency? p with
  | none => simp [fits, covers, meaning]
  | some n =>
    have anchored_ : meaning? (anchored p.toList) = some n := by
      unfold competency? at meaning
      split_ifs at meaning
      exact meaning
    have whole : fits p v = true ↔
        List.Forall₂ (fun c d => c = d ∨ (c = '.' ∧ d ≠ '\n')) p.toList v.toList := by
      rw [fits, meaning]
      show n.matchesPart v.toList = true ↔ _
      rw [meaning?_anchored plain anchored_, Node.matchesPart_sets_iff, List.forall₂_map_left_iff]
      simp only [contains_sense_iff]
    have self : p = v → fits p v = true := by
      rintro rfl
      exact whole.mpr (List.forall₂_same.mpr fun c _ => .inl rfl)
    constructor
    · intro h
      exact .inr ⟨nofun, whole.mp h⟩
    · rintro (same | ⟨-, all⟩)
      · exact self same
      · exact whole.mpr all

theorem fits_self {p : String} (plain : Plain p.toList) : fits p p = true :=
  (fits_iff_of_plain plain).mpr (.inl rfl)

/-- A plain text without a dot covers nothing but itself. -/
theorem fits_iff_of_dotless {p v : String} (plain : Plain p.toList) (dotless : '.' ∉ p.toList) :
    fits p v = true ↔ p = v := by
  rw [fits_iff_of_plain plain]
  constructor
  · rintro (same | ⟨-, all⟩)
    · exact same
    · have each : ∀ c ∈ p.toList, c ≠ '.' := fun c hc dot => dotless (dot ▸ hc)
      have equal : List.Forall₂ Eq p.toList v.toList := by
        refine ((List.forall₂_and_left p.toList v.toList).mpr ⟨each, all⟩).imp ?_
        rintro c d ⟨other, same | ⟨dot, -⟩⟩
        · exact same
        · exact absurd dot other
      exact String.toList_injective (List.forall₂_eq_eq_eq ▸ equal)
  · exact .inl

end JobDispatch.Pattern

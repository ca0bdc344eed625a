import JobDispatch.Pattern.Cache
import JobDispatch.Proofs.Pattern.Enclosure
import JobDispatch.Proofs.Pattern.Plain
import JobDispatch.Proofs.Pattern.Spans

/-!
Patterns between anchors. What a pattern means between anchors is what it means on its own, from the
start of a text to its end: none of its alternatives, groups or flags reach around the anchors, and
where a comment in it would hide the end of the group, it is no pattern between anchors at all. So
a competency covers the values that its pattern spans, whatever was looked up before.
-/

namespace JobDispatch.Pattern

namespace Reading

/-- The same reading inside of one more group. -/
def within (r : Reading) (g : OpenGroup) : Reading := { r with groups := r.groups ++ [g] }

theorem take_within {r r' : Reading} {i : Item} (g : OpenGroup) (h : r.take i = some r') :
    (r.within g).take i = some (r'.within g) := by
  cases i with
  | tree t =>
    cases h
    rfl
  | flags changes =>
    cases h
    rfl
  | bar =>
    cases h
    rfl
  | quantifier low high =>
    obtain ⟨row, some_, same⟩ := Option.map_eq_some_iff.mp h
    cases same
    simp [take, within, some_]
  | opening kind name =>
    simp only [take] at h ⊢
    split_ifs at h with fresh
    cases h
    simp_all [within]
  | closing =>
    cases groups : r.groups with
    | nil => simp [take, groups] at h
    | cons g' gs =>
      simp only [take, groups] at h
      cases h
      simp [take, within, groups]

@[simp]
theorem within_verbose (r : Reading) (g : OpenGroup) : (r.within g).verbose = r.verbose := rfl

theorem take_closing_within {r : Reading} (g : OpenGroup) (closed : r.groups = []) :
    (r.within g).take .closing = some
      { r with verbose := g.verbose, level := g.outer.push (.group g.kind r.level.tree) } := by
  simp [take, within, closed]

theorem groups_of_opens {r r' : Reading} {i : Item} (h : r.take i = some r')
    (opens : i.opens = true) : r'.groups ≠ [] := by
  cases i with
  | opening kind name =>
    simp only [take] at h
    split_ifs at h
    cases h
    exact List.cons_ne_nil _ _
  | _ => cases opens

end Reading

section

variable {r r' : Reading} {s : List Char}

theorem skip_closing_self (verbose : Bool) : skip verbose closing = closing := by
  cases verbose <;> rfl

/-- What is read of a text without its surroundings is read of it inside of a group, too, up to the
end of the group; a comment may hide that end. -/
theorem readItems_closing (g : OpenGroup) (h : readItems r s = some r') (closed : r'.groups = []) :
    readItems (r.within g) (s ++ closing) = readItems (r'.within g) closing ∨
      readItems (r.within g) (s ++ closing) = some (r'.within g) := by
  fun_induction readItems r s with
  | case1 r s found =>
    cases h
    rcases skip_closing found with behind | behind
    · right
      rw [readItems, Reading.within_verbose, behind]
    · left
      have ends := Reading.take_closing_within g closed
      have inside : skip (r'.within g).verbose (s ++ closing) = closing := behind
      rw [readItems_next inside rfl ends (by simp [closing]),
        readItems_next (skip_closing_self _) rfl ends (by simp [closing])]
  | case2 => cases h
  | case3 => cases h
  | case4 r s c cs found i rest first r₁ taken shorter ih =>
    have more : i.opens = true → rest ≠ [] := by
      rintro opens rfl
      rw [readItems_nil] at h
      cases h
      exact Reading.groups_of_opens taken opens closed
    have next : readItems (r.within g) (s ++ closing) = readItems (r₁.within g) (rest ++ closing) :=
      readItems_next (skip_append found) (item_closing first more) (Reading.take_within g taken)
        (by simpa using shorter)
    rw [next]
    exact ih h
  | case5 => cases h

/-- The group that stands between the anchors. -/
def anchorGroup : OpenGroup :=
  ⟨.flagged [], ⟨[], [.atom (.anchor .lineStart)]⟩, false⟩

theorem readItems_anchored_eq (p : List Char) : readItems .start (anchored p) =
    readItems (Reading.start.within anchorGroup) (p ++ closing) := by
  have text : anchored p = '^' :: '(' :: '?' :: ':' :: (p ++ closing) := by
    simp [anchored, closing]
  rw [text, readItems_step rfl rfl rfl (by simp), readItems_step rfl rfl rfl (by simp; omega)]
  rfl

/-- Where a pattern is one between anchors, too, its anchors stand around all of it. -/
theorem Tree.read_anchored {p : List Char} {t t' : Tree} (h : Tree.read p = some t)
    (h' : Tree.read (anchored p) = some t') :
    t' = .ofRow [.atom (.anchor .lineStart), .group (.flagged []) t,
      .atom (.anchor .lineEnd)] := by
  obtain ⟨r, reads, closed, rfl, -⟩ := Tree.read_eq_some_iff.mp h
  obtain ⟨r', reads', closed', rfl, -⟩ := Tree.read_eq_some_iff.mp h'
  rw [readItems_anchored_eq] at reads'
  rcases readItems_closing anchorGroup reads closed with ends | swallowed
  · have rest : readItems (r.within anchorGroup) closing = some r' := ends ▸ reads'
    rw [readItems_next (skip_closing_self _) rfl (Reading.take_closing_within anchorGroup closed)
      (by simp [closing]), readItems_next rfl rfl rfl (by simp), readItems_nil] at rest
    cases rest
    rfl
  · rw [swallowed] at reads'
    cases reads'
    simp [Reading.within] at closed'

/-- What a pattern means between anchors is what it means on its own, from the start of a text to
its end. -/
theorem meaning?_anchored_of_some {p : List Char} {n m : Meaning} (h : meaning? p = some n)
    (h' : meaning? (anchored p) = some m) :
    m = .ofRow [.look .textStart, n, .look .textEnd] := by
  obtain ⟨t, fl, reads, means, -⟩ := meaning?_eq_some_iff.mp h
  obtain ⟨t', fl', reads', means', -⟩ := meaning?_eq_some_iff.mp h'
  rw [Tree.read_anchored reads reads', Tree.node_anchored means] at means'
  cases means'
  rfl

end

namespace Cache

/-- The cache after lookups of competencies, each with a value. -/
def after (earlier : List (String × String)) : Cache :=
  earlier.foldl (fun c x => (c.fits x.1 x.2).2) .empty

/-- A cache that keeps nothing but the meanings of texts. -/
def Sound (c : Cache) : Prop := ∀ p m, c.known.lookup p = some m → m = competency? p

theorem sound_empty : Sound .empty := nofun

theorem Sound.find {c : Cache} (h : Sound c) (p : String) :
    (c.find p).1 = competency? p ∧ Sound (c.find p).2 := by
  unfold Cache.find
  cases known : c.known.lookup p with
  | some m => exact ⟨h p m known, h⟩
  | none =>
    refine ⟨rfl, fun q m found => ?_⟩
    rw [List.lookup_cons] at found
    split at found
    · next same =>
      cases found
      rw [eq_of_beq same]
    · exact h q m found

theorem sound_after (earlier : List (String × String)) : Sound (after earlier) := by
  have each (c : Cache) (h : Sound c) :
      Sound (earlier.foldl (fun c x => (c.fits x.1 x.2).2) c) := by
    induction earlier generalizing c with
    | nil => exact h
    | cons x earlier ih => exact ih _ (h.find x.1).2
  exact each .empty sound_empty

end Cache

/-- A text that is a pattern on its own and between anchors, and what it means on its own. -/
def Compiles (p : List Char) (n : Meaning) : Prop :=
  meaning? p = some n ∧ (meaning? (anchored p)).isSome = true

theorem competency?_eq_some {p : String} {m : Meaning} (h : competency? p = some m) :
    ∃ n, Compiles p.toList n ∧ m = .ofRow [.look .textStart, n, .look .textEnd] := by
  unfold competency? at h
  split_ifs at h with alone
  obtain ⟨n, means⟩ := Option.isSome_iff_exists.mp alone
  exact ⟨n, ⟨means, Option.isSome_iff_exists.mpr ⟨m, h⟩⟩, meaning?_anchored_of_some means h⟩

theorem Compiles.competency?_ne_none {p : String} {n : Meaning} (h : Compiles p.toList n) :
    competency? p ≠ none := by
  have alone : (meaning? p.toList).isSome = true := Option.isSome_iff_exists.mpr ⟨n, h.1⟩
  rw [competency?, if_pos alone]
  exact Option.isSome_iff_ne_none.mp h.2

theorem Compiles.unique {p : List Char} {n n' : Meaning} (h : Compiles p n) (h' : Compiles p n') :
    n = n' :=
  Option.some.inj (h.1.symm.trans h'.1)

/-- A competency covers the values that its pattern spans, or, where it is no pattern, itself. -/
theorem fits_iff_spans {p v : String} :
    fits p v = true ↔
      (∃ n, Compiles p.toList n ∧ n.Spans v.toList 0 v.toList.length) ∨
        ((¬ ∃ n, Compiles p.toList n) ∧ v = p) := by
  unfold fits
  cases meaning : competency? p with
  | some m =>
    obtain ⟨n, compiles, rfl⟩ := competency?_eq_some meaning
    show Node.matchesPart _ v.toList = true ↔ _
    rw [Node.matchesPart_anchored, Node.matchesWhole_iff]
    constructor
    · intro spans
      exact .inl ⟨n, compiles, spans⟩
    · rintro (⟨n', compiles', spans⟩ | ⟨none, -⟩)
      · exact compiles.unique compiles' ▸ spans
      · exact absurd ⟨n, compiles⟩ none
  | none =>
    have alone : ¬ ∃ n, Compiles p.toList n := fun ⟨n, compiles⟩ =>
      compiles.competency?_ne_none meaning
    show (p == v) = true ↔ _
    rw [beq_iff_eq]
    constructor
    · rintro rfl
      exact .inr ⟨alone, rfl⟩
    · rintro (compiles | ⟨-, rfl⟩)
      · exact absurd (compiles.imp fun n h => h.1) alone
      · rfl

example : fits "a|b" "b" = true ∧ fits "a|b" "ab" = false := by
  cbv

-- Between the anchors, the comment hides the end of the group.
example : fits "(?x)a #" "a" = false ∧ fits "(?x)a #" "(?x)a #" = true := by
  cbv

namespace Cache

theorem Sound.fits_eq {c : Cache} (h : Sound c) (p v : String) :
    (c.fits p v).1 = Pattern.fits p v := by
  show covers (c.find p).1 p v = _
  rw [(h.find p).1]
  rfl

/-- Whatever was looked up before, a competency covers just the values that its pattern, read on its
own, matches as a whole. A text that is no pattern, on its own or between anchors, covers itself. -/
theorem fits_iff_whole (earlier : List (String × String)) (p v : String) :
    ((after earlier).fits p v).1 = Pattern.fits p v ∧
      (Pattern.fits p v = true ↔
        (∃ n, Compiles p.toList n ∧ n.Spans v.toList 0 v.toList.length) ∨
          ((¬ ∃ n, Compiles p.toList n) ∧ v = p)) :=
  ⟨(sound_after earlier).fits_eq p v, fits_iff_spans⟩

end Cache

end JobDispatch.Pattern

import JobDispatch.Http.Url
import Mathlib.Data.List.TakeWhile

/-!
Addresses below the root of a host: letters, digits and hyphens stand in the path of a request as
they stand in the address.
-/

namespace JobDispatch.Http

namespace Url

theorem ne_of_isAlphanum {c : Char} (h : c.isAlphanum = true) (d : Char)
    (other : d.isAlphanum = false) : c ≠ d := by
  rintro rfl
  rw [other] at h
  cases h

theorem isAlphanum_iff (c : Char) : c.isAlphanum = true ↔
    (65 ≤ c.toNat ∧ c.toNat ≤ 90 ∨ 97 ≤ c.toNat ∧ c.toNat ≤ 122) ∨
      48 ≤ c.toNat ∧ c.toNat ≤ 57 := by
  change ((decide (65 ≤ c.val ∧ c.val ≤ 90) || (decide (97 ≤ c.val) && decide (c.val ≤ 122))) ||
    (decide (48 ≤ c.val) && decide (c.val ≤ 57))) = true ↔ _
  simp only [Bool.or_eq_true, Bool.and_eq_true, decide_eq_true_eq, UInt32.le_iff_toNat_le]
  rfl

theorem toNat_of_isAlphanum {c : Char} (h : c.isAlphanum = true) :
    0x30 ≤ c.toNat ∧ c.toNat ≤ 0x7A := by
  rw [isAlphanum_iff] at h
  omega

/-- The characters that need no encoding in a path, and that no mark of an address is. -/
def isSlug (c : Char) : Bool := c.isAlphanum || c == '-'

theorem ne_of_isSlug {c : Char} (h : isSlug c = true) (d : Char) (other : isSlug d = false) :
    c ≠ d := by
  rintro rfl
  rw [other] at h
  cases h

theorem toNat_of_isSlug {c : Char} (h : isSlug c = true) : 0x2D ≤ c.toNat ∧ c.toNat ≤ 0x7A := by
  simp only [isSlug, Bool.or_eq_true, beq_iff_eq] at h
  rcases h with h | rfl
  · have bounds := toNat_of_isAlphanum h
    omega
  · decide

theorem isPathEscaped_of_isSlug {c : Char} (h : isSlug c = true) : isPathEscaped c = false := by
  have bounds := toNat_of_isSlug h
  have other := ne_of_isSlug h
  have inside : isOutside c = false := by
    simp only [isOutside, Bool.or_eq_false_iff, decide_eq_false_iff_not]
    omega
  simp [isPathEscaped, inside, other ' ' rfl, other '"' rfl, other '#' rfl, other '<' rfl,
    other '>' rfl, other '?' rfl, other '\x60' rfl, other '\x7b' rfl, other '\x7d' rfl]

/-- A segment of letters and digits. -/
def Plain (s : List Char) : Prop := s ≠ [] ∧ ∀ c ∈ s, c.isAlphanum = true

/-- A segment of letters, digits and hyphens. -/
def Slug (s : List Char) : Prop := s ≠ [] ∧ ∀ c ∈ s, isSlug c = true

theorem Plain.slug {s : List Char} (h : Plain s) : Slug s :=
  ⟨h.1, fun c hc => by simp [isSlug, h.2 c hc]⟩

theorem slug_of_all {s : List Char} (nonempty : s ≠ []) (all : s.all isSlug = true) : Slug s :=
  ⟨nonempty, List.all_eq_true.mp all⟩

/-- What an address keeps inside its path: no blank or control character, and no mark that ends a
path. -/
def isPart (c : Char) : Bool := 0x20 < c.toNat && c != '?' && c != '#'

theorem isPart_iff {c : Char} : isPart c = true ↔ 0x20 < c.toNat ∧ c ≠ '?' ∧ c ≠ '#' := by
  simp [isPart, and_assoc]

theorem solid_of_isPart {c : Char} (h : isPart c = true) : c ≠ '\t' ∧ c ≠ '\n' ∧ c ≠ '\r' := by
  have other (d : Char) (blank : isPart d = false) : c ≠ d := by
    rintro rfl
    rw [blank] at h
    cases h
  exact ⟨other '\t' (by decide), other '\n' (by decide), other '\r' (by decide)⟩

theorem Slug.isPart {s : List Char} (h : Slug s) : ∀ c ∈ s, isPart c = true := by
  intro c hc
  have bounds := toNat_of_isSlug (h.2 c hc)
  have other := ne_of_isSlug (h.2 c hc)
  have visible : 0x20 < c.toNat := by omega
  simp [Url.isPart, visible, other '?' rfl, other '#' rfl]

theorem isPart_pair {s t : List Char} (hs : Slug s) (ht : Slug t) :
    ∀ c ∈ s ++ '/' :: t, Url.isPart c = true := by
  intro c hc
  rcases List.mem_append.mp hc with hc | hc
  · exact hs.isPart c hc
  · rcases List.mem_cons.mp hc with rfl | hc
    · rfl
    · exact ht.isPart c hc

theorem percentEncode_slug {s : List Char} (h : Slug s) :
    percentEncode isPathEscaped s = s := by
  have all := h.2
  clear h
  induction s with
  | nil => rfl
  | cons c s ih =>
    have tail := ih fun d hd => all d (List.mem_cons_of_mem c hd)
    have first := isPathEscaped_of_isSlug (all c List.mem_cons_self)
    simpa [percentEncode, first] using tail

theorem Slug.unslashed {s : List Char} (h : Slug s) : ∀ c ∈ s, isSlash c = false := by
  intro c hc
  have other := ne_of_isSlug (h.2 c hc)
  simp [isSlash, other '/' rfl, other '\\' rfl]

theorem Slug.whole {s : List Char} (h : Slug s) : '/' ∉ s := fun slash => by
  cases h.unslashed '/' slash

/-- A text without slashes is one segment. -/
theorem split_unslashed {s : List Char} (h : ∀ c ∈ s, isSlash c = false) : split s = [s] := by
  induction s with
  | nil => rfl
  | cons c s ih =>
    have tail := ih fun d hd => h d (List.mem_cons_of_mem c hd)
    simp [split, h c List.mem_cons_self, tail]

theorem split_append {s : List Char} (h : ∀ c ∈ s, isSlash c = false) (r : List Char) :
    split (s ++ '/' :: r) = s :: split r := by
  induction s with
  | nil => rfl
  | cons c s ih =>
    have tail := ih fun d hd => h d (List.mem_cons_of_mem c hd)
    simp [split, h c List.mem_cons_self, tail]

theorem le_toLower (c : Char) : c.toNat ≤ c.toLower.toNat := by
  unfold Char.toLower
  split
  · next upper =>
    have low := UInt32.le_iff_toNat_le.mp upper.1
    have high := UInt32.le_iff_toNat_le.mp upper.2
    have last : 'Z'.val.toNat = 90 := rfl
    have shift : (32 : UInt32).toNat = 32 := rfl
    change c.val.toNat ≤ (c.val + 32).toNat
    rw [UInt32.toNat_add]
    omega
  · exact le_refl _

theorem toLower_ne {c : Char} (h : isSlug c = true) : c.toLower ≠ '.' ∧ c.toLower ≠ '%' := by
  simp only [isSlug, Bool.or_eq_true, beq_iff_eq] at h
  rcases h with h | rfl
  · have code : 0x30 ≤ c.toLower.toNat := (toNat_of_isAlphanum h).1.trans (le_toLower c)
    have lower (d : Char) (small : d.toNat < 0x30) : c.toLower ≠ d := by
      rintro rfl
      omega
    exact ⟨lower '.' (by decide), lower '%' (by decide)⟩
  · decide

/-- Such a segment is a place of its own. -/
theorem stays_of_slug {s : List Char} (h : Slug s) : isHere s = false ∧ isAbove s = false := by
  obtain ⟨c, s, rfl⟩ := List.exists_cons_of_ne_nil h.1
  have slug := h.2 c List.mem_cons_self
  obtain ⟨dot, percent⟩ := toLower_ne slug
  constructor
  · simp [isHere, lowerAscii, ne_of_isSlug slug '.' rfl, percent]
  · simp [isAbove, lowerAscii, dot, percent]

/-- A path of one such segment stays as it is. -/
theorem pathOf_single {s : List Char} (h : Slug s) : pathOf ('/' :: s) = '/' :: s := by
  obtain ⟨here, above⟩ := stays_of_slug h
  have first : pathOf ('/' :: s) = (follow [] (split s)).flatMap ('/' :: ·) := rfl
  rw [first, split_unslashed h.unslashed]
  simp [follow, here, above, percentEncode_slug h]

/-- A path of two such segments stays as it is. -/
theorem pathOf_pair {s t : List Char} (hs : Slug s) (ht : Slug t) :
    pathOf ('/' :: (s ++ '/' :: t)) = '/' :: (s ++ '/' :: t) := by
  obtain ⟨hereS, aboveS⟩ := stays_of_slug hs
  obtain ⟨hereT, aboveT⟩ := stays_of_slug ht
  have first : pathOf ('/' :: (s ++ '/' :: t)) =
      (follow [] (split (s ++ '/' :: t))).flatMap ('/' :: ·) := rfl
  rw [first, split_append hs.unslashed, split_unslashed ht.unslashed]
  simp [follow, hereS, aboveS, hereT, aboveT, percentEncode_slug hs, percentEncode_slug ht]

def scheme (secure : Bool) : List Char := if secure then "https".toList else "http".toList

/-- What stands between the scheme and the path: a host, with or without a port. -/
structure Authority (secure : Bool) (s : List Char) (host : String) (port : Nat) : Prop where
  reads : authorityOf secure s = some (host, port)
  parts : ∀ c ∈ s, isPart c = true ∧ isSlash c = false

/-- What an address keeps of the text behind a slash: no blanks and control characters at its end,
and no tabs and line ends. -/
def kept (s : List Char) : List Char :=
  (s.reverse.dropWhile fun c => decide (c.toNat ≤ 0x20)).reverse.filter fun c =>
    c != '\t' && c != '\n' && c != '\r'

/-- The path of what is kept. -/
def pathPart (s : List Char) : List Char := ((kept s).takeWhile (· != '#')).takeWhile (· != '?')

/-- The query of what is kept. -/
def queryPart (s : List Char) : Option (List Char) :=
  match ((kept s).takeWhile (· != '#')).dropWhile (· != '?') with
  | [] => none
  | _ :: q => some (percentEncode isQueryEscaped q)

section

variable {front : List Char} (parts : ∀ c ∈ front, isPart c = true) (s : List Char)

include parts

/-- What is kept of parts and of what stands behind them. -/
theorem kept_append : kept (front ++ '/' :: s) = front ++ '/' :: kept s := by
  have back : ((front ++ '/' :: s).reverse.dropWhile fun c => decide (c.toNat ≤ 0x20)).reverse =
      front ++ '/' :: (s.reverse.dropWhile fun c => decide (c.toNat ≤ 0x20)).reverse := by
    rw [List.reverse_append, List.reverse_cons, List.append_assoc, List.dropWhile_append]
    split
    · next gone => simp [List.isEmpty_iff.mp gone]
    · simp
  have solid : front.filter (fun c => c != '\t' && c != '\n' && c != '\r') = front := by
    refine List.filter_eq_self.mpr ?_
    intro c hc
    simp [solid_of_isPart (parts c hc)]
  rw [kept, back, List.filter_append, solid]
  rfl

theorem clean_append : clean (front ++ '/' :: s) = front ++ '/' :: kept s := by
  have noEdge : (front ++ '/' :: s).dropWhile (fun c => decide (c.toNat ≤ 0x20)) =
      front ++ '/' :: s := by
    cases front with
    | nil => rfl
    | cons c front =>
      have visible := (isPart_iff.mp (parts c List.mem_cons_self)).1
      exact List.dropWhile_cons_of_neg (by simpa using visible)
  rw [← kept_append parts]
  exact congrArg kept noEdge

theorem pathPart_append : pathPart (front ++ '/' :: s) = front ++ '/' :: pathPart s := by
  have unmarked (d : Char) (hd : d = '?' ∨ d = '#') : ∀ c ∈ front, (c != d) = true := by
    intro c hc
    have part := isPart_iff.mp (parts c hc)
    rcases hd with rfl | rfl
    · simp [part]
    · simp [part]
  rw [pathPart, kept_append parts, List.takeWhile_append_of_pos (unmarked '#' (.inr rfl)),
    List.takeWhile_cons_of_pos rfl, List.takeWhile_append_of_pos (unmarked '?' (.inl rfl)),
    List.takeWhile_cons_of_pos rfl]
  rfl

end

theorem kept_eq {s : List Char} (solid : ∀ c ∈ s, c ≠ '\t' ∧ c ≠ '\n' ∧ c ≠ '\r')
    (last : ∀ c, s.getLast? = some c → 0x20 < c.toNat) : kept s = s := by
  have edge : s.reverse.dropWhile (fun c => decide (c.toNat ≤ 0x20)) = s.reverse := by
    cases ends : s.reverse with
    | nil => rfl
    | cons c t =>
      have visible : ¬ c.toNat ≤ 0x20 := by
        refine Nat.not_le.mpr (last c ?_)
        rw [← List.head?_reverse, ends, List.head?_cons]
      rw [List.dropWhile_cons_of_neg (by simpa using visible)]
  rw [kept, edge, List.reverse_reverse]
  refine List.filter_eq_self.mpr ?_
  intro c hc
  simp [solid c hc]

theorem Authority.ne_nil {secure : Bool} {s : List Char} {host : String} {port : Nat}
    (h : Authority secure s host port) : s ≠ [] := by
  rintro rfl
  have reads := h.reads
  simp [authorityOf, hostOf, percentDecode, Text.decodeStrict] at reads

/-- An address of a host is read as the host and what it keeps behind it. -/
theorem read?_below {secure : Bool} {authority : List Char} {host : String} {port : Nat}
    (h : Authority secure authority host port) (s : List Char) :
    read? (String.ofList (scheme secure ++ "://".toList ++ authority ++ '/' :: s)) =
      some ⟨secure, host, port, pathOf ('/' :: pathPart s), queryPart s⟩ := by
  have schemes : (scheme secure).all isPart = true := by cases secure <;> decide
  have mark : "://".toList.all isPart = true := by decide
  have front : ∀ c ∈ scheme secure ++ "://".toList ++ authority, isPart c = true := by
    intro c hc
    simp only [List.mem_append] at hc
    rcases hc with (hc | hc) | hc
    · exact List.all_eq_true.mp schemes c hc
    · exact List.all_eq_true.mp mark c hc
    · exact (h.parts c hc).1
  have ends : ∀ c ∈ authority, (!(isSlash c || c == '?' || c == '#')) = true := by
    intro c hc
    obtain ⟨part, slash⟩ := h.parts c hc
    simp [slash, isPart_iff.mp part]
  have start : (authority ++ '/' :: kept s).dropWhile isSlash = authority ++ '/' :: kept s := by
    obtain ⟨a, rest, same⟩ := List.exists_cons_of_ne_nil h.ne_nil
    have slash := (h.parts a (same ▸ List.mem_cons_self)).2
    rw [same, List.cons_append, List.dropWhile_cons_of_neg (by simp [slash])]
  have scheme_ : schemeOf (scheme secure) = some secure := by
    cases secure <;> decide
  have taken : (scheme secure ++ "://".toList ++ authority ++ '/' :: kept s).takeWhile
      (· != ':') = scheme secure := by
    cases secure <;> simp [scheme]
  have dropped : ((scheme secure ++ "://".toList ++ authority ++ '/' :: kept s).dropWhile
      (· != ':')).drop 1 = '/' :: '/' :: (authority ++ '/' :: kept s) := by
    cases secure <;> simp [scheme]
  have slashes : ('/' :: '/' :: (authority ++ '/' :: kept s)).dropWhile isSlash =
      authority ++ '/' :: kept s := by
    rw [List.dropWhile_cons_of_pos rfl, List.dropWhile_cons_of_pos rfl, start]
  have before : (authority ++ '/' :: kept s).takeWhile
      (fun c => !(isSlash c || c == '?' || c == '#')) = authority := by
    rw [List.takeWhile_append_of_pos ends, List.takeWhile_cons_of_neg (by decide),
      List.append_nil]
  have behind : (authority ++ '/' :: kept s).dropWhile
      (fun c => !(isSlash c || c == '?' || c == '#')) = '/' :: kept s := by
    rw [List.dropWhile_append_of_pos ends, List.dropWhile_cons_of_neg (by decide)]
  have whole : ('/' :: kept s).takeWhile (· != '#') = '/' :: (kept s).takeWhile (· != '#') :=
    List.takeWhile_cons_of_pos rfl
  have unasked : ('/' :: (kept s).takeWhile (· != '#')).takeWhile (· != '?') = '/' :: pathPart s :=
    List.takeWhile_cons_of_pos rfl
  have asked : ('/' :: (kept s).takeWhile (· != '#')).dropWhile (· != '?') =
      ((kept s).takeWhile (· != '#')).dropWhile (· != '?') := List.dropWhile_cons_of_pos rfl
  simp only [read?, String.toList_ofList, clean_append front, taken, dropped, slashes, scheme_,
    before, behind, whole, unasked, asked, Option.bind_eq_bind, Option.bind_some, h.reads]
  rfl

/-- What is kept whole is all path where no mark ends it. -/
theorem pathPart_eq {s : List Char} (whole : kept s = s)
    (unmarked : ∀ c ∈ s, c ≠ '?' ∧ c ≠ '#') : pathPart s = s ∧ queryPart s = none := by
  have before : s.takeWhile (· != '#') = s :=
    List.takeWhile_eq_self_iff.mpr fun c hc => by simp [unmarked c hc]
  have path : s.takeWhile (· != '?') = s :=
    List.takeWhile_eq_self_iff.mpr fun c hc => by simp [unmarked c hc]
  have behind : s.dropWhile (· != '?') = [] :=
    List.dropWhile_eq_nil_iff.mpr fun c hc => by simp [unmarked c hc]
  exact ⟨by rw [pathPart, whole, before, path], by rw [queryPart, whole, before, behind]⟩

theorem pathPart_parts {s : List Char} (h : ∀ c ∈ s, isPart c = true) :
    pathPart s = s ∧ queryPart s = none := by
  have whole : kept s = s := kept_eq (fun c hc => solid_of_isPart (h c hc))
    fun c last => (isPart_iff.mp (h c (List.mem_of_getLast? last))).1
  exact pathPart_eq whole fun c hc => (isPart_iff.mp (h c hc)).2

end Url

end JobDispatch.Http

import JobDispatch.Proofs.Http.Percent
import JobDispatch.Proofs.Http.Url

/-!
Texts as segments of a path: which texts, written behind a slash at the end of an address, come back
out of the path of a request for it. All others are cut off, divided, followed or decoded on their
way, and nothing that an address leads to is found under their own name.
-/

namespace JobDispatch.Http.Url

/-- A text that an address keeps as one segment of its path, and whose segment stands for it. -/
structure Legible (s : List Char) : Prop where
  nonempty : s ≠ []
  unslashed : ∀ c ∈ s, isSlash c = false
  unmarked : ∀ c ∈ s, c ≠ '?' ∧ c ≠ '#'
  solid : ∀ c ∈ s, c ≠ '\t' ∧ c ≠ '\n' ∧ c ≠ '\r'
  /-- no blank or control character stands at the end -/
  last : ∀ c, s.getLast? = some c → 0x20 < c.toNat
  /-- no percent sign has two hexadecimal digits behind it -/
  unescaped : hasEscape s = false
  /-- neither the place itself is meant nor the one above -/
  stays : isHere s = false ∧ isAbove s = false

theorem hasEscape_eq_false {s : List Char} (h : ∀ c ∈ s, c ≠ '%') : hasEscape s = false := by
  induction s with
  | nil => rfl
  | cons c s ih =>
    have tail := ih fun d hd => h d (List.mem_cons_of_mem c hd)
    simp [hasEscape, h c List.mem_cons_self, tail]

theorem Slug.legible {s : List Char} (h : Slug s) : Legible s where
  nonempty := h.1
  unslashed := h.unslashed
  unmarked c hc := (isPart_iff.mp (h.isPart c hc)).2
  solid c hc := solid_of_isPart (h.isPart c hc)
  last c last := (isPart_iff.mp (h.isPart c (List.mem_of_getLast? last))).1
  unescaped := hasEscape_eq_false fun c hc => ne_of_isSlug (h.2 c hc) '%' rfl
  stays := stays_of_slug h

variable {s t p : List Char} {done ss : List (List Char)}

theorem split_ne_nil (s : List Char) : split s ≠ [] := by
  cases s with
  | nil => simp [split]
  | cons c s =>
    rw [split]
    split
    · simp
    · split <;> simp

/-- A piece of a text has no slashes, and nothing that the text has not. -/
theorem mem_split (h : p ∈ split s) : (∀ c ∈ p, isSlash c = false) ∧ p.Sublist s := by
  induction s generalizing p with
  | nil =>
    obtain rfl := List.mem_singleton.mp h
    exact ⟨fun c hc => absurd hc List.not_mem_nil, List.Sublist.refl _⟩
  | cons c s ih =>
    rw [split] at h
    cases slash : isSlash c with
    | true =>
      rw [slash, if_pos rfl] at h
      obtain rfl | h := List.mem_cons.mp h
      · exact ⟨fun c hc => absurd hc List.not_mem_nil, List.nil_sublist _⟩
      · exact (ih h).imp_right (.cons c)
    | false =>
      rw [slash, if_neg (by decide)] at h
      obtain ⟨q, qs, pieces⟩ := List.exists_cons_of_ne_nil (split_ne_nil s)
      rw [pieces] at h
      obtain rfl | h := List.mem_cons.mp h
      · obtain ⟨unslashed, part⟩ := ih (pieces ▸ List.mem_cons_self)
        exact ⟨List.forall_mem_cons.mpr ⟨slash, unslashed⟩, part.cons_cons c⟩
      · exact (ih (pieces ▸ List.mem_cons_of_mem q h)).imp_right (.cons c)

/-- What following some segments can write: nothing, or one that is a place of its own. -/
def Written (ss : List (List Char)) (t : List Char) : Prop :=
  t = [] ∨ ∃ p ∈ ss, (isHere p = false ∧ isAbove p = false) ∧ t = percentEncode isPathEscaped p

theorem Written.cons (h : Written ss t) (p : List Char) : Written (p :: ss) t :=
  h.imp_right fun ⟨q, hq, written⟩ => ⟨q, List.mem_cons_of_mem p hq, written⟩

/-- Nothing comes out of following segments but what was there and what is written of them. -/
theorem mem_follow (h : t ∈ follow done ss) : t ∈ done ∨ Written ss t := by
  induction ss generalizing done with
  | nil => exact .inl (List.mem_reverse.mp h)
  | cons p ss ih =>
    have stays (above : ¬ isAbove p = true) (here : ¬ isHere p = true) :
        Written (p :: ss) (percentEncode isPathEscaped p) :=
      .inr ⟨p, List.mem_cons_self, ⟨by simpa using here, by simpa using above⟩, rfl⟩
    have either {front : List Char} {rest : List (List Char)} (hf : Written (p :: ss) front)
        (sub : rest ⊆ done) (ht : t ∈ front :: rest) : t ∈ done ∨ Written (p :: ss) t := by
      obtain rfl | ht := List.mem_cons.mp ht
      · exact .inr hf
      · exact .inl (sub ht)
    have fewer : done.drop 1 ⊆ done := List.drop_subset 1 done
    cases ss with
    | nil =>
      simp only [follow] at h
      split_ifs at h with above here
      · exact either (.inl rfl) fewer (List.mem_reverse.mp h)
      · exact either (.inl rfl) (List.Subset.refl _) (List.mem_reverse.mp h)
      · exact either (stays above here) (List.Subset.refl _) (List.mem_reverse.mp h)
    | cons q qs =>
      simp only [follow] at h
      split_ifs at h with above here
      · exact (ih h).imp (@fewer t) (·.cons p)
      · exact (ih h).imp_right (·.cons p)
      · obtain ht | written := ih h
        · exact either (stays above here) (List.Subset.refl _) ht
        · exact .inr (written.cons p)

/-- Behind a segment a path is followed from there. -/
theorem pathOf_below (slug : Slug s) (t : List Char) :
    pathOf ('/' :: (s ++ '/' :: t)) = (follow [s] (split t)).flatMap ('/' :: ·) := by
  obtain ⟨here, above⟩ := stays_of_slug slug
  obtain ⟨p, ps, pieces⟩ := List.exists_cons_of_ne_nil (split_ne_nil t)
  have first : pathOf ('/' :: (s ++ '/' :: t)) =
      (follow [] (split (s ++ '/' :: t))).flatMap ('/' :: ·) := rfl
  rw [first, split_append slug.unslashed, pieces]
  simp [follow, here, above, percentEncode_slug slug]

theorem isAlphanum_of_hexValue? {c : Char} (h : (hexValue? c).isSome = true) :
    c.isAlphanum = true := by
  unfold hexValue? at h
  split_ifs at h with digit upper lower
  · simp [Char.isAlphanum, digit]
  · have low : 65 ≤ c.toNat := upper.1
    have high : c.toNat ≤ 70 := upper.2
    exact (isAlphanum_iff c).mpr (by omega)
  · have low : 97 ≤ c.toNat := lower.1
    have high : c.toNat ≤ 102 := lower.2
    exact (isAlphanum_iff c).mpr (by omega)
  · cases h

theorem isPathEscaped_of_hexValue? (c : Char) (h : (hexValue? c).isSome = true) :
    isPathEscaped c = false :=
  isPathEscaped_of_isSlug (by simp [isSlug, isAlphanum_of_hexValue? h])

theorem mem_percentEncode {escaped : Char → Bool} {c : Char} (h : c ∈ percentEncode escaped s) :
    c ∈ s ∧ escaped c = false ∨ c = '%' ∨ c.isAlphanum = true := by
  obtain ⟨d, hd, h⟩ := List.mem_flatMap.mp h
  split at h
  · obtain ⟨b, -, hb⟩ := List.mem_flatMap.mp h
    have small := b.toNat_lt
    have high := isAlphanum_hexDigit (n := b.toNat / 16) (by omega)
    have low := isAlphanum_hexDigit (n := b.toNat % 16) (by omega)
    simp only [encodeByte, List.mem_cons, List.not_mem_nil, or_false] at hb
    obtain rfl | rfl | rfl := hb
    · exact .inr (.inl rfl)
    · exact .inr (.inr high)
    · exact .inr (.inr low)
  · next stays =>
    rw [List.mem_singleton.mp h]
    exact .inl ⟨hd, by simpa using stays⟩

/-- Neither a slash nor a mark that ends a path is left in what is written of segments. -/
theorem Written.marks (h : Written (split s) t) : ∀ c ∈ t, c ≠ '/' ∧ c ≠ '?' ∧ c ≠ '#' := by
  intro c hc
  obtain rfl | ⟨p, hp, -, rfl⟩ := h
  · cases hc
  · obtain ⟨inside, plain⟩ | rfl | letter := mem_percentEncode hc
    · refine ⟨?_, ?_, ?_⟩
      · rintro rfl
        cases (mem_split hp).1 '/' inside
      · rintro rfl
        cases plain
      · rintro rfl
        cases plain
    · decide
    · have other := ne_of_isAlphanum letter
      exact ⟨other '/' rfl, other '?' rfl, other '#' rfl⟩

/-- No mark ends a path before its end. -/
theorem pathOf_unmarked (s : List Char) : ∀ c ∈ pathOf s, c ≠ '?' ∧ c ≠ '#' := by
  intro c hc
  obtain ⟨t, ht, hc⟩ := List.mem_flatMap.mp hc
  obtain rfl | hc := List.mem_cons.mp hc
  · decide
  · exact ((mem_follow ht).resolve_left List.not_mem_nil).marks c hc |>.2

namespace Legible

variable (h : Legible t)

include h

theorem pathPart_eq : pathPart t = t :=
  (Url.pathPart_eq (kept_eq h.solid h.last) h.unmarked).1

/-- A legible text is the last segment of its path. -/
theorem pathOf_eq (slug : Slug s) : pathOf ('/' :: (s ++ '/' :: t)) =
    '/' :: (s ++ '/' :: percentEncode isPathEscaped t) := by
  rw [pathOf_below slug, split_unslashed h.unslashed]
  simp [follow, h.stays.1, h.stays.2]

theorem written : Written (split t) (percentEncode isPathEscaped t) := by
  rw [split_unslashed h.unslashed]
  exact .inr ⟨t, List.mem_singleton_self t, h.stays, rfl⟩

/-- The last segment stands for the text. -/
theorem percentDecode_eq : percentDecode (percentEncode isPathEscaped t) = Text.utf8 t := by
  rw [percentDecode_percentEncode isPathEscaped_of_hexValue? (by decide),
    percentDecode_of_not_hasEscape h.unescaped]

theorem percentEncode_ne_nil : percentEncode isPathEscaped t ≠ [] := by
  intro empty
  have bytes := h.percentDecode_eq
  rw [empty] at bytes
  have read := Text.decodeStrict_utf8 t
  rw [← bytes, percentDecode, Text.decodeStrict] at read
  exact h.nonempty (Option.some.inj read).symm

end Legible

theorem kept_sublist (s : List Char) : (kept s).Sublist s := by
  have front := (List.dropWhile_sublist (fun c : Char => decide (c.toNat ≤ 0x20)) (l := s.reverse))
  exact List.filter_sublist.trans (List.reverse_sublist.mp (by simpa using front))

theorem pathPart_sublist (s : List Char) : (pathPart s).Sublist (kept s) :=
  (List.takeWhile_sublist _).trans (List.takeWhile_sublist _)

/-- What stands at the end of a text that is kept whole is no blank. -/
theorem last_of_kept {c : Char} (whole : kept s = s) (last : s.getLast? = some c) :
    0x20 < c.toNat := by
  let edge : Char → Bool := fun c => decide (c.toNat ≤ 0x20)
  have back : (s.reverse.dropWhile edge).reverse.Sublist s :=
    List.reverse_sublist.mp (by simpa using List.dropWhile_sublist edge)
  have all : s.Sublist (s.reverse.dropWhile edge).reverse := by
    conv_lhs => rw [← whole]
    exact List.filter_sublist
  have same : s.reverse.dropWhile edge = s.reverse := by
    rw [← List.reverse_inj, List.reverse_reverse]
    exact back.antisymm all
  have first := List.head?_dropWhile_not edge s.reverse
  rw [same, List.head?_reverse, last] at first
  simpa [edge] using first

/-- A text that stands for what is written of one of its own pieces is legible. -/
theorem legible_of_written (nonempty : t ≠ []) (written : Written (split (pathPart s)) t)
    (read : Text.decodeStrict (percentDecode t) = some s) : Legible s := by
  obtain rfl | ⟨p, hp, stays, rfl⟩ := written
  · exact absurd rfl nonempty
  · obtain ⟨unslashed, piece⟩ := mem_split hp
    have part : p.Sublist s := piece.trans ((pathPart_sublist s).trans (kept_sublist s))
    have fewer := Text.length_utf8_le_of_decodeStrict read
    rw [percentDecode_percentEncode isPathEscaped_of_hexValue? (by decide)] at fewer
    have shorter := length_percentDecode p
    -- the piece has all the bytes of the text
    obtain rfl : p = s := Text.eq_of_sublist_of_length part (by omega)
    have none : hasEscape p = false := by
      cases escapes : hasEscape p with
      | false => rfl
      | true =>
        rw [escapes] at shorter
        simp at shorter
        omega
    have path : pathPart p = p :=
      ((pathPart_sublist p).trans (kept_sublist p)).antisymm piece
    have whole : kept p = p :=
      (kept_sublist p).antisymm (piece.trans (pathPart_sublist p))
    refine ⟨fun empty => nonempty (congrArg _ empty), unslashed, ?_, ?_,
      fun c => last_of_kept whole, none, stays⟩
    · intro c hc
      rw [← path] at hc
      have before := (List.takeWhile_sublist _).subset hc
      exact ⟨by simpa using List.mem_takeWhile_imp hc, by simpa using List.mem_takeWhile_imp before⟩
    · intro c hc
      rw [← whole] at hc
      simpa [and_assoc] using (List.mem_filter.mp hc).2

end JobDispatch.Http.Url

import JobDispatch.Http.Percent
import JobDispatch.Proofs.Text.Utf8
import Mathlib.Tactic.IntervalCases

/-!
Percent-encoding: encoded bytes are read back, and every other character but the percent sign stands
for itself. A percent sign does so too unless two hexadecimal digits stand behind it.
-/

namespace JobDispatch.Http

theorem hexValue?_hexDigit {n : Nat} (h : n < 16) : hexValue? (hexDigit n) = some n := by
  interval_cases n <;> rfl

theorem isAlphanum_hexDigit {n : Nat} (h : n < 16) : (hexDigit n).isAlphanum = true := by
  interval_cases n <;> rfl

theorem percentDecode_cons {c : Char} (other : c ≠ '%') (r : List Char) :
    percentDecode (c :: r) = Text.utf8 [c] ++ percentDecode r := by
  rw [percentDecode.eq_def]
  simp [other]

theorem percentDecode_plain {s : List Char} (h : ∀ c ∈ s, c ≠ '%') :
    percentDecode s = Text.utf8 s := by
  induction s with
  | nil => rfl
  | cons c s ih =>
    have tail := ih fun d hd => h d (List.mem_cons_of_mem c hd)
    rw [percentDecode_cons (h c List.mem_cons_self), tail]
    exact (Text.utf8_cons c s).symm

theorem percentDecode_encodeByte (b : UInt8) (r : List Char) :
    percentDecode (encodeByte b ++ r) = b :: percentDecode r := by
  have small := b.toNat_lt
  have high := hexValue?_hexDigit (n := b.toNat / 16) (by omega)
  have low := hexValue?_hexDigit (n := b.toNat % 16) (by omega)
  have value : b.toNat / 16 * 16 + b.toNat % 16 = b.toNat := Nat.div_add_mod' b.toNat 16
  simp only [encodeByte, List.cons_append, List.nil_append, percentDecode, high, low, value,
    UInt8.ofNat_toNat]

theorem percentDecode_encodeBytes (bs : List UInt8) (r : List Char) :
    percentDecode (bs.flatMap encodeByte ++ r) = bs ++ percentDecode r := by
  induction bs with
  | nil => rfl
  | cons b bs ih =>
    rw [List.flatMap_cons, List.append_assoc, percentDecode_encodeByte, ih, List.cons_append]

/-- Whether a text begins with two hexadecimal digits. -/
def startsHex : List Char → Bool
  | a :: b :: _ => (hexValue? a).isSome && (hexValue? b).isSome
  | _ => false

/-- Whether a percent sign with two hexadecimal digits behind it stands anywhere in a text. -/
def hasEscape : List Char → Bool
  | [] => false
  | c :: s => c == '%' && startsHex s || hasEscape s

/-- A text is taken apart into escapes and other characters. -/
theorem escape_induction {motive : List Char → Prop} (nil : motive [])
    (plain : ∀ c s, (c == '%' && startsHex s) = false → motive s → motive (c :: s))
    (escape : ∀ a b s x y, hexValue? a = some x → hexValue? b = some y → motive s →
      motive ('%' :: a :: b :: s)) (s : List Char) : motive s := by
  induction h : s.length using Nat.strong_induction_on generalizing s with
  | h n ih =>
    match s with
    | [] => exact nil
    | c :: s =>
      have rest := ih s.length (h ▸ Nat.lt_succ_self _) s rfl
      cases begins : c == '%' && startsHex s with
      | false => exact plain c s begins rest
      | true =>
        match s with
        | [] | [_] => simp [startsHex] at begins
        | a :: b :: s =>
          simp only [startsHex, Bool.and_eq_true, beq_iff_eq, Option.isSome_iff_exists] at begins
          obtain ⟨rfl, ⟨x, hx⟩, y, hy⟩ := begins
          exact escape a b s x y hx hy (ih s.length (by simp at h; omega) s rfl)

/-- A character that begins no escape stands for itself. -/
theorem percentDecode_plainChar {c : Char} {s : List Char} (h : (c == '%' && startsHex s) = false) :
    percentDecode (c :: s) = Text.utf8 [c] ++ percentDecode s := by
  rw [percentDecode.eq_def]
  split
  · next same => cases same
  · next a b r same =>
    cases same
    split
    · next x y hx hy => simp [startsHex, hx, hy] at h
    · rfl
  · next same =>
    cases same
    rfl

theorem percentDecode_escape {a b : Char} {x y : Nat} (hx : hexValue? a = some x)
    (hy : hexValue? b = some y) (s : List Char) :
    percentDecode ('%' :: a :: b :: s) = UInt8.ofNat (x * 16 + y) :: percentDecode s := by
  simp only [percentDecode, hx, hy]

/-- A text without escapes stands for itself. -/
theorem percentDecode_of_not_hasEscape {s : List Char} (h : hasEscape s = false) :
    percentDecode s = Text.utf8 s := by
  induction s with
  | nil => rfl
  | cons c s ih =>
    obtain ⟨plain, rest⟩ := Bool.or_eq_false_iff.mp h
    rw [percentDecode_plainChar plain, ih rest, Text.utf8_cons c s]

/-- What a text stands for has no more bytes than the text, and less if it has escapes. -/
theorem length_percentDecode (s : List Char) :
    (percentDecode s).length + (hasEscape s).toNat ≤ (Text.utf8 s).length := by
  induction s using escape_induction with
  | nil => exact le_refl 0
  | plain c s plain ih =>
    have one := Text.length_utf8_cons c []
    rw [percentDecode_plainChar plain, hasEscape, plain, Bool.false_or, Text.length_utf8_cons,
      List.length_append, one, Text.utf8, List.flatMap_nil, List.length_nil]
    omega
  | escape a b s x y hx hy ih =>
    have first := '%'.utf8Size_pos
    have second := a.utf8Size_pos
    have third := b.utf8Size_pos
    have most := Bool.toNat_le (hasEscape ('%' :: a :: b :: s))
    rw [percentDecode_escape hx hy, List.length_cons, Text.length_utf8_cons, Text.length_utf8_cons,
      Text.length_utf8_cons]
    omega

theorem startsHex_cons_of_not {c : Char} (h : (hexValue? c).isSome = false) (s : List Char) :
    startsHex (c :: s) = false := by
  cases s with
  | nil => rfl
  | cons d s => simp only [startsHex, h, Bool.false_and]

section

variable {escaped : Char → Bool} (digits : ∀ c, (hexValue? c).isSome = true → escaped c = false)

theorem percentEncode_cons_of_neg {c : Char} (h : escaped c = false) (s : List Char) :
    percentEncode escaped (c :: s) = c :: percentEncode escaped s := by
  simp [percentEncode, h]

theorem percentEncode_cons_of_pos {c : Char} (h : escaped c = true) (s : List Char) :
    percentEncode escaped (c :: s) =
      (Text.utf8 [c]).flatMap encodeByte ++ percentEncode escaped s := by
  simp [percentEncode, h]

include digits

theorem startsHex_percentEncode (s : List Char) :
    startsHex (percentEncode escaped s) = startsHex s := by
  have marked {c : Char} (h : escaped c = true) (s : List Char) :
      ∃ t, percentEncode escaped (c :: s) = '%' :: t := by
    obtain ⟨b, bs, bytes, -⟩ := Text.firstChar_utf8EncodeChar c []
    rw [percentEncode_cons_of_pos h]
    exact ⟨_, by simp [Text.utf8, bytes, encodeByte]; rfl⟩
  have other {c : Char} (h : escaped c = true) : (hexValue? c).isSome = false := by
    cases digit : (hexValue? c).isSome with
    | false => rfl
    | true => exact h.symm.trans (digits c digit)
  have percent : (hexValue? '%').isSome = false := by decide
  cases s with
  | nil => rfl
  | cons a s =>
    cases ha : escaped a with
    | true =>
      obtain ⟨t, begins⟩ := marked ha s
      rw [begins, startsHex_cons_of_not percent, startsHex_cons_of_not (other ha)]
    | false =>
      rw [percentEncode_cons_of_neg ha]
      cases s with
      | nil => rfl
      | cons b r =>
        cases hb : escaped b with
        | true =>
          obtain ⟨t, begins⟩ := marked hb r
          rw [begins]
          simp only [startsHex, percent, other hb]
        | false =>
          rw [percentEncode_cons_of_neg hb]
          rfl

/-- Encoding characters that belong to no escape changes nothing in what a text stands for. -/
theorem percentDecode_percentEncode (percent : escaped '%' = false) (s : List Char) :
    percentDecode (percentEncode escaped s) = percentDecode s := by
  have hex {c : Char} {x : Nat} (h : hexValue? c = some x) : escaped c = false :=
    digits c (by rw [h]; rfl)
  induction s using escape_induction with
  | nil => rfl
  | plain c s plain ih =>
    rw [percentDecode_plainChar plain, ← ih]
    cases h : escaped c with
    | false =>
      rw [percentEncode_cons_of_neg h, percentDecode_plainChar]
      rw [startsHex_percentEncode digits, plain]
    | true => rw [percentEncode_cons_of_pos h, percentDecode_encodeBytes]
  | escape a b s x y hx hy ih =>
    rw [percentDecode_escape hx hy, percentEncode_cons_of_neg percent,
      percentEncode_cons_of_neg (hex hx), percentEncode_cons_of_neg (hex hy),
      percentDecode_escape hx hy, ih]

end

end JobDispatch.Http

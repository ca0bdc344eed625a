import JobDispatch.Proofs.Counting
import JobDispatch.Text.Utf8
import Mathlib.Tactic.IntervalCases

/-!
Texts are read back from their bytes, and no text has more bytes than those it was read from.
-/

namespace JobDispatch.Text

theorem utf8_cons (c : Char) (s : List Char) : utf8 (c :: s) = utf8 [c] ++ utf8 s := by
  simp [utf8]

theorem toNat_lt (c : Char) : c.toNat < 0x110000 ∧ ¬ (0xD800 ≤ c.toNat ∧ c.toNat < 0xE000) := by
  have valid : c.toNat.isValidChar := c.valid
  unfold Nat.isValidChar at valid
  omega

theorem toNat_byte {n : Nat} (h : n < 256) : (UInt8.ofNat n).toNat = n := by
  rw [UInt8.toNat_ofNat', Nat.mod_eq_of_lt h]

theorem takeContinuation_cons {low high : UInt8} {k : Nat} (bounds : k < 64)
    (above : low.toNat ≤ k + 128) (below : k + 128 ≤ high.toNat) (n acc : Nat) (r : List UInt8)
    (taken : Nat) :
    takeContinuation (n + 1) low high acc (UInt8.ofNat (k + 128) :: r) taken =
      takeContinuation n 0x80 0xBF (acc * 64 + k) r (taken + 1) := by
  have value := toNat_byte (n := k + 128) (by omega)
  have between : (low ≤ UInt8.ofNat (k + 128) && UInt8.ofNat (k + 128) ≤ high) = true := by
    simp only [UInt8.le_iff_toNat_le, value, Bool.and_eq_true, decide_eq_true_eq]
    exact ⟨above, below⟩
  rw [takeContinuation, if_pos between, value]
  exact congrArg (takeContinuation n 0x80 0xBF · r (taken + 1))
    (congrArg (acc * 64 + ·) (Nat.add_sub_cancel k 128))

theorem continuation_two {n : Nat} (low : 0xC2 ≤ n) (high : n ≤ 0xDF) :
    continuation (UInt8.ofNat n) = some (1, 0x80, 0xBF) := by
  interval_cases n <;> rfl

theorem continuation_three {n : Nat} (low : 0xE0 ≤ n) (high : n ≤ 0xEF) :
    continuation (UInt8.ofNat n) =
      some (2, if n = 0xE0 then 0xA0 else 0x80, if n = 0xED then 0x9F else 0xBF) := by
  interval_cases n <;> rfl

theorem continuation_four {n : Nat} (low : 0xF0 ≤ n) (high : n ≤ 0xF4) :
    continuation (UInt8.ofNat n) =
      some (3, if n = 0xF0 then 0x90 else 0x80, if n = 0xF4 then 0x8F else 0xBF) := by
  interval_cases n <;> rfl

section

variable {v : Nat} (r : List UInt8)

theorem firstChar_one (high : v ≤ 0x7F) : firstChar (UInt8.ofNat v) r = .char (Char.ofNat v) 1 := by
  have value := toNat_byte (n := v) (by omega)
  have ascii : UInt8.ofNat v < 0x80 := by
    rw [UInt8.lt_iff_toNat_lt, value]
    exact Nat.lt_succ_of_le high
  rw [firstChar, if_pos ascii, value]

theorem not_ascii {n : Nat} (low : 0x80 ≤ n) (high : n < 256) : ¬ UInt8.ofNat n < 0x80 := by
  rw [UInt8.lt_iff_toNat_lt, toNat_byte high]
  exact Nat.not_lt.mpr low

theorem firstChar_two (low : 0x80 ≤ v) (high : v ≤ 0x7FF) :
    firstChar (UInt8.ofNat (v / 64 % 32 + 192)) (UInt8.ofNat (v % 64 + 128) :: r) =
      .char (Char.ofNat v) 2 := by
  have lead := toNat_byte (n := v / 64 % 32 + 192) (by omega)
  have least : (0x80 : UInt8).toNat = 128 := rfl
  have most : (0xBF : UInt8).toNat = 191 := rfl
  have joined : v / 64 % 32 * 64 + v % 64 = v := by omega
  rw [firstChar, if_neg (not_ascii (by omega) (by omega)),
    continuation_two (by omega) (by omega)]
  simp only [lead]
  rw [takeContinuation_cons (by omega) (by omega) (by omega)]
  simp [takeContinuation, joined]

theorem firstChar_three (low : 0x800 ≤ v) (high : v ≤ 0xFFFF)
    (whole : ¬ (0xD800 ≤ v ∧ v < 0xE000)) :
    firstChar (UInt8.ofNat (v / 4096 % 16 + 224))
      (UInt8.ofNat (v / 64 % 64 + 128) :: UInt8.ofNat (v % 64 + 128) :: r) =
        .char (Char.ofNat v) 3 := by
  have lead := toNat_byte (n := v / 4096 % 16 + 224) (by omega)
  have least : (0x80 : UInt8).toNat = 128 := rfl
  have most : (0xBF : UInt8).toNat = 191 := rfl
  have joined : (v / 4096 % 16 * 64 + v / 64 % 64) * 64 + v % 64 = v := by omega
  rw [firstChar, if_neg (not_ascii (by omega) (by omega)),
    continuation_three (by omega) (by omega)]
  simp only [lead]
  rw [takeContinuation_cons (by omega), takeContinuation_cons (by omega) (by omega) (by omega)]
  · simp [takeContinuation, joined]
  · split_ifs
    · have : (0xA0 : UInt8).toNat = 160 := rfl
      omega
    · omega
  · split_ifs
    · have : (0x9F : UInt8).toNat = 159 := rfl
      omega
    · omega

theorem firstChar_four (low : 0x10000 ≤ v) (high : v < 0x110000) :
    firstChar (UInt8.ofNat (v / 262144 % 8 + 240))
      (UInt8.ofNat (v / 4096 % 64 + 128) :: UInt8.ofNat (v / 64 % 64 + 128) ::
        UInt8.ofNat (v % 64 + 128) :: r) = .char (Char.ofNat v) 4 := by
  have lead := toNat_byte (n := v / 262144 % 8 + 240) (by omega)
  have least : (0x80 : UInt8).toNat = 128 := rfl
  have most : (0xBF : UInt8).toNat = 191 := rfl
  have joined : ((v / 262144 % 8 * 64 + v / 4096 % 64) * 64 + v / 64 % 64) * 64 +
      v % 64 = v := by omega
  rw [firstChar, if_neg (not_ascii (by omega) (by omega)),
    continuation_four (by omega) (by omega)]
  simp only [lead]
  rw [takeContinuation_cons (by omega), takeContinuation_cons (by omega) (by omega) (by omega),
    takeContinuation_cons (by omega) (by omega) (by omega)]
  · simp [takeContinuation, joined]
  · split_ifs
    · have : (0x90 : UInt8).toNat = 144 := rfl
      omega
    · omega
  · split_ifs
    · have : (0x8F : UInt8).toNat = 143 := rfl
      omega
    · omega

end

/-- The first character of a text is read back from its bytes. -/
theorem firstChar_utf8EncodeChar (c : Char) (r : List UInt8) : ∃ b bs,
    String.utf8EncodeChar c = b :: bs ∧ firstChar b (bs ++ r) = .char c (bs.length + 1) := by
  obtain ⟨largest, whole⟩ := toNat_lt c
  have code : Char.ofNat c.val.toNat = c := Char.ofNat_toNat c
  change c.val.toNat < _ at largest
  change ¬ (0xD800 ≤ c.val.toNat ∧ c.val.toNat < 0xE000) at whole
  simp only [String.utf8EncodeChar]
  generalize c.val.toNat = v at largest whole code
  subst code
  split_ifs with one two three
  · exact ⟨_, _, rfl, firstChar_one r one⟩
  · exact ⟨_, _, rfl, firstChar_two r (by omega) two⟩
  · exact ⟨_, _, rfl, firstChar_three r (by omega) three whole⟩
  · exact ⟨_, _, rfl, firstChar_four r (by omega) largest⟩

/-- A text is read back from its bytes. -/
theorem decodeStrict_utf8 (s : List Char) : decodeStrict (utf8 s) = some s := by
  induction s with
  | nil => simp [utf8, decodeStrict]
  | cons c s ih =>
    obtain ⟨b, bs, bytes, first⟩ := firstChar_utf8EncodeChar c (utf8 s)
    have split : utf8 (c :: s) = b :: (bs ++ utf8 s) := by
      simp only [utf8, List.flatMap_cons, bytes, List.cons_append]
    rw [split, decodeStrict, first]
    simp [ih]

/-- Nothing is replaced in the bytes of a text. -/
theorem decodeLossy_utf8 (s : List Char) : decodeLossy (utf8 s) = s := by
  induction s with
  | nil => simp [utf8, decodeLossy]
  | cons c s ih =>
    obtain ⟨b, bs, bytes, first⟩ := firstChar_utf8EncodeChar c (utf8 s)
    have split : utf8 (c :: s) = b :: (bs ++ utf8 s) := by
      simp only [utf8, List.flatMap_cons, bytes, List.cons_append]
    rw [split, decodeLossy, first]
    simp [ih]

/-- A text has no more characters than bytes. -/
theorem length_le_utf8ByteSize (s : List Char) : s.length ≤ (String.ofList s).utf8ByteSize := by
  have size : (String.ofList s).utf8ByteSize = (utf8 s).length := by
    simp [String.utf8ByteSize, String.ofList, List.utf8Encode, utf8]
  rw [size, utf8]
  refine length_le_flatMap ?_ s
  intro c empty
  have none : c.utf8Size = 0 := by rw [← String.length_utf8EncodeChar, empty, List.length_nil]
  have some := c.utf8Size_pos
  omega

theorem length_utf8_cons (c : Char) (s : List Char) :
    (utf8 (c :: s)).length = c.utf8Size + (utf8 s).length := by
  rw [utf8_cons, List.length_append]
  simp [utf8]

/-- A part of a text that has all its bytes is the whole text. -/
theorem eq_of_sublist_of_length {s t : List Char} (part : s.Sublist t)
    (bytes : (utf8 t).length ≤ (utf8 s).length) : s = t := by
  have fewer : (utf8 s).length + t.length ≤ (utf8 t).length + s.length := by
    clear bytes
    induction part with
    | slnil => exact le_refl _
    | cons c part ih =>
      have some := c.utf8Size_pos
      rw [length_utf8_cons, List.length_cons]
      omega
    | cons_cons c part ih =>
      rw [length_utf8_cons, length_utf8_cons, List.length_cons, List.length_cons]
      omega
  exact part.eq_of_length_le (by omega)

section

variable {bs : List UInt8} {n size : Nat}

/-- The number that continuation bytes make of what was read before them. -/
theorem takeContinuation_bound {low high : UInt8} {acc taken v : Nat} (top : high ≤ 0xBF)
    (h : takeContinuation n low high acc bs taken = (some v, size)) :
    v < (acc + 1) * 64 ^ n ∧ size = taken + n ∧ n ≤ bs.length := by
  induction n generalizing low high acc taken bs with
  | zero =>
    cases h
    exact ⟨by simp, rfl, Nat.zero_le _⟩
  | succ n ih =>
    cases bs with
    | nil => cases h
    | cons b bs =>
      rw [takeContinuation] at h
      split_ifs at h with between
      · obtain ⟨less, rfl, enough⟩ := ih (by decide) h
        have most : b.toNat ≤ 191 := by
          simp only [Bool.and_eq_true, decide_eq_true_eq] at between
          exact (UInt8.le_iff_toNat_le.mp between.2).trans (UInt8.le_iff_toNat_le.mp top)
        refine ⟨less.trans_le ?_, by omega, Nat.succ_le_succ enough⟩
        rw [pow_succ', ← mul_assoc]
        exact Nat.mul_le_mul_right _ (by omega)
      · cases h

theorem continuation_bound {lead low high : UInt8}
    (h : continuation lead = some (n, low, high)) : high ≤ 0xBF ∧
      (n = 1 ∧ lead.toNat < 0xE0 ∨ n = 2 ∧ lead.toNat < 0xF0 ∨ n = 3) := by
  simp only [continuation, Bool.and_eq_true, decide_eq_true_eq, beq_iff_eq, UInt8.le_iff_toNat_le,
    ← UInt8.toNat_inj, UInt8.reduceToNat] at h
  split_ifs at h <;> cases h <;> exact ⟨by decide, by omega⟩

theorem toNat_ofNat_le (v : Nat) : (Char.ofNat v).toNat ≤ v := by
  by_cases valid : v.isValidChar
  · have same : (Char.ofNat v).toNat = v := congrArg Char.toNat (dif_pos valid)
    exact same.le
  · have blank : (Char.ofNat v).toNat = 0 := congrArg Char.toNat (dif_neg valid)
    omega

theorem utf8Size_ofNat_le {v : Nat}
    (h : v < 0x80 ∧ 1 ≤ size ∨ v < 0x800 ∧ 2 ≤ size ∨ v < 0x10000 ∧ 3 ≤ size ∨ 4 ≤ size) :
    (Char.ofNat v).utf8Size ≤ size := by
  have code : (Char.ofNat v).val.toNat ≤ v := toNat_ofNat_le v
  unfold Char.utf8Size
  simp only [UInt32.le_iff_toNat_le]
  change (if (Char.ofNat v).val.toNat ≤ 127 then 1 else if (Char.ofNat v).val.toNat ≤ 2047 then 2
    else if (Char.ofNat v).val.toNat ≤ 65535 then 3 else 4) ≤ size
  split_ifs <;> omega

/-- A character has no more bytes than those it is read from. -/
theorem utf8Size_le_of_firstChar {lead : UInt8} {c : Char} (h : firstChar lead bs = .char c size) :
    c.utf8Size ≤ size ∧ size ≤ bs.length + 1 := by
  unfold firstChar at h
  split_ifs at h with ascii
  · cases h
    exact ⟨utf8Size_ofNat_le (.inl ⟨UInt8.lt_iff_toNat_lt.mp ascii, le_refl 1⟩), by omega⟩
  · split at h
    · cases h
    · next count low high begins =>
      obtain ⟨top, counts⟩ := continuation_bound begins
      simp only at h
      split at h
      · next v taken read =>
        cases h
        obtain ⟨less, rfl, enough⟩ := takeContinuation_bound top read
        refine ⟨utf8Size_ofNat_le ?_, by omega⟩
        obtain ⟨rfl, small⟩ | ⟨rfl, small⟩ | rfl := counts
        · simp only [beq_self_eq_true, if_true] at less
          omega
        · simp at less
          omega
        · omega
      · cases h

/-- A text has no more bytes than those it is read from. -/
theorem length_utf8_le_of_decodeStrict {s : List Char} (h : decodeStrict bs = some s) :
    (utf8 s).length ≤ bs.length := by
  induction bs using decodeStrict.induct generalizing s with
  | case1 =>
    rw [decodeStrict] at h
    cases h
    exact le_refl _
  | case2 b r c size first ih =>
    rw [decodeStrict, first] at h
    obtain ⟨t, read, rfl⟩ := Option.map_eq_some_iff.mp h
    obtain ⟨small, enough⟩ := utf8Size_le_of_firstChar first
    have rest := ih read
    rw [List.length_drop] at rest
    rw [length_utf8_cons, List.length_cons]
    omega
  | case3 b r size first =>
    rw [decodeStrict, first] at h
    cases h

end

end JobDispatch.Text

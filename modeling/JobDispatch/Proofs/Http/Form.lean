import JobDispatch.Http.Form
import JobDispatch.Proofs.Http.Percent
import JobDispatch.Proofs.Text.Utf8
import Mathlib.Data.List.TakeWhile

/-!
Forms are read back as they were written, whatever stands in their names and values: no mark that
divides a form stands in what is written of a part.
-/

namespace JobDispatch.Http.Form

/-- What a plus sign stands for in a written form. -/
def unplus (c : Char) : Char := if c = '+' then ' ' else c

/-- What is written of a character. -/
def encodeChar (c : Char) : List Char :=
  if isPlain c then [c] else if c = ' ' then ['+'] else percentEncode (fun _ => true) [c]

theorem encodeChar_bytes {c : Char} (marked : isPlain c = false) (solid : c ≠ ' ') :
    encodeChar c = (Text.utf8 [c]).flatMap encodeByte := by
  simp [encodeChar, marked, solid, percentEncode]

theorem ne_of_isPlain {c : Char} (h : isPlain c = true) (d : Char) (other : isPlain d = false) :
    c ≠ d := by
  rintro rfl
  rw [other] at h
  cases h

theorem isPlain_hexDigit {n : Nat} (h : n < 16) : isPlain (hexDigit n) = true := by
  simp [isPlain, isAlphanum_hexDigit h]

/-- The characters that a written part is made of. -/
def isWritten (c : Char) : Bool := isPlain c || c == '+' || c == '%'

theorem isWritten_encodeByte (b : UInt8) : ∀ c ∈ encodeByte b, isWritten c = true := by
  have small := b.toNat_lt
  have high := isPlain_hexDigit (n := b.toNat / 16) (by omega)
  have low := isPlain_hexDigit (n := b.toNat % 16) (by omega)
  simp only [encodeByte, List.mem_cons, List.not_mem_nil, or_false]
  rintro c (rfl | rfl | rfl)
  · rfl
  · simp [isWritten, high]
  · simp [isWritten, low]

theorem isWritten_encodeChar (c : Char) : ∀ d ∈ encodeChar c, isWritten d = true := by
  intro d hd
  by_cases plain : isPlain c = true
  · rw [encodeChar, if_pos plain, List.mem_singleton] at hd
    simp [isWritten, hd, plain]
  · by_cases blank : c = ' '
    · rw [encodeChar, if_neg plain, if_pos blank, List.mem_singleton] at hd
      simp [isWritten, hd]
    · rw [encodeChar_bytes (by simpa using plain) blank] at hd
      obtain ⟨b, -, hb⟩ := List.mem_flatMap.mp hd
      exact isWritten_encodeByte b d hb

theorem isWritten_encodePart (s : String) : ∀ c ∈ encodePart s, isWritten c = true := by
  intro c hc
  obtain ⟨d, -, hd⟩ := List.mem_flatMap.mp hc
  exact isWritten_encodeChar d c hd

theorem ne_of_isWritten {c : Char} (h : isWritten c = true) (d : Char)
    (other : isWritten d = false) : c ≠ d := by
  rintro rfl
  rw [other] at h
  cases h

/-- Encoded bytes have no plus sign. -/
theorem unplus_encodeByte (b : UInt8) : (encodeByte b).map unplus = encodeByte b := by
  have small := b.toNat_lt
  have high := ne_of_isPlain (isPlain_hexDigit (n := b.toNat / 16) (by omega)) '+' rfl
  have low := ne_of_isPlain (isPlain_hexDigit (n := b.toNat % 16) (by omega)) '+' rfl
  simp [encodeByte, unplus, high, low]

theorem unplus_encodeBytes (bs : List UInt8) :
    (bs.flatMap encodeByte).map unplus = bs.flatMap encodeByte := by
  simp only [List.map_flatMap, unplus_encodeByte]

theorem percentDecode_encodeChar (c : Char) (r : List Char) :
    percentDecode ((encodeChar c).map unplus ++ r) = Text.utf8 [c] ++ percentDecode r := by
  by_cases plain : isPlain c = true
  · have plus := ne_of_isPlain plain '+' rfl
    have percent := ne_of_isPlain plain '%' rfl
    have same : (encodeChar c).map unplus = [c] := by simp [encodeChar, plain, unplus, plus]
    rw [same, List.singleton_append, percentDecode_cons percent]
  · by_cases blank : c = ' '
    · subst blank
      exact percentDecode_cons (by decide) r
    · rw [encodeChar_bytes (by simpa using plain) blank, unplus_encodeBytes,
        percentDecode_encodeBytes]

theorem percentDecode_encodePart (s : List Char) :
    percentDecode ((s.flatMap encodeChar).map unplus) = Text.utf8 s := by
  induction s with
  | nil => rfl
  | cons c s ih =>
    rw [List.flatMap_cons, List.map_append, percentDecode_encodeChar, ih, Text.utf8_cons c s]

theorem decodePart_encodePart (s : String) : decodePart (encodePart s) = s := by
  have bytes := percentDecode_encodePart s.toList
  change String.ofList (Text.decodeLossy (percentDecode ((s.toList.flatMap encodeChar).map unplus)))
    = s
  rw [bytes, Text.decodeLossy_utf8, String.ofList_toList]

/-- What is written of a pair. -/
def encodePair (p : String × String) : List Char := encodePart p.1 ++ '=' :: encodePart p.2

theorem decodePair_encodePair (p : String × String) : decodePair (encodePair p) = p := by
  have name : ∀ c ∈ encodePart p.1, (c != '=') = true := by
    intro c hc
    simpa using ne_of_isWritten (isWritten_encodePart p.1 c hc) '=' rfl
  have before : (encodePair p).takeWhile (· != '=') = encodePart p.1 := by
    rw [encodePair, List.takeWhile_append_of_pos name, List.takeWhile_cons_of_neg (by decide),
      List.append_nil]
  have behind : (encodePair p).dropWhile (· != '=') = '=' :: encodePart p.2 := by
    rw [encodePair, List.dropWhile_append_of_pos name, List.dropWhile_cons_of_neg (by decide)]
  rw [decodePair, before, behind, List.drop_one, List.tail_cons, decodePart_encodePart,
    decodePart_encodePart]

theorem encodePair_cases (p : String × String) :
    ∀ c ∈ encodePair p, isWritten c = true ∨ c = '=' := by
  intro c hc
  rcases List.mem_append.mp hc with hc | hc
  · exact .inl (isWritten_encodePart p.1 c hc)
  · rcases List.mem_cons.mp hc with rfl | hc
    · exact .inr rfl
    · exact .inl (isWritten_encodePart p.2 c hc)

/-- A form is read back as it was written. -/
theorem decode_encode (f : Form) : decode (encode f) = f := by
  cases f with
  | nil => rfl
  | cons p ps =>
    have pairs : ∀ s ∈ (p :: ps).map encodePair, '&' ∉ s := by
      intro s hs amp
      obtain ⟨q, -, rfl⟩ := List.mem_map.mp hs
      rcases encodePair_cases q '&' amp with written | same
      · cases written
      · cases same
    have parts : (encode (p :: ps)).splitOn '&' = (p :: ps).map encodePair :=
      List.splitOn_intercalate '&' pairs (by simp)
    have full : ((p :: ps).map encodePair).filter (· != []) = (p :: ps).map encodePair := by
      refine List.filter_eq_self.mpr ?_
      intro s hs
      obtain ⟨q, -, rfl⟩ := List.mem_map.mp hs
      simp [encodePair]
    rw [decode, parts, full, List.map_map]
    exact (List.map_congr_left fun q _ => decodePair_encodePair q).trans (List.map_id _)

/-- A written form is made of what is written of its parts, and of the marks that divide it. -/
theorem encode_cases (f : Form) : ∀ c ∈ encode f, isWritten c = true ∨ c = '=' ∨ c = '&' := by
  intro c hc
  induction f with
  | nil => cases hc
  | cons p ps ih =>
    have first (h : c ∈ encodePair p) : isWritten c = true ∨ c = '=' ∨ c = '&' :=
      (encodePair_cases p c h).imp_right .inl
    cases ps with
    | nil =>
      have single : encode [p] = encodePair p := List.append_nil _
      rw [single] at hc
      exact first hc
    | cons q qs =>
      have next : encode (p :: q :: qs) = encodePair p ++ ['&'] ++ encode (q :: qs) :=
        List.intercalate_cons_cons
      rw [next, List.append_assoc] at hc
      rcases List.mem_append.mp hc with hc | hc
      · exact first hc
      · rcases List.mem_cons.mp hc with rfl | hc
        · exact .inr (.inr rfl)
        · exact ih hc

/-- A written form ends no query. -/
theorem ne_of_mem_encode {f : Form} {c : Char} (h : c ∈ encode f) : c ≠ '#' := by
  rcases encode_cases f c h with written | rfl | rfl
  · exact ne_of_isWritten written '#' rfl
  · decide
  · decide

end JobDispatch.Http.Form

import JobDispatch.Json.Decoder
import JobDispatch.Proofs.Json.Spelling
import Mathlib.Data.List.DropRight

/-!
JSON texts are read back. A text of a value may have blanks before what is in a container, before
the end of the container and behind a colon, and all of these texts are read as the value. Both
forms in which a value is written, the compact one and the one on lines, are such texts.
-/

namespace JobDispatch

/-- A row of blanks. -/
def Draft.Blank (b : List Char) : Prop := ∀ c ∈ b, isSpace c = true

namespace Json

open Draft (Blank)

mutual

/-- A text of a value. -/
inductive LaidOut : Json → List Char → Prop
  | null : LaidOut .null "null".toList
  | true : LaidOut (.bool true) "true".toList
  | false : LaidOut (.bool false) "false".toList
  | number {n : Number} (proper : n.Proper) : LaidOut (.number n) n.write
  | text (s : String) : LaidOut (.text s) (quote s)
  | noItems : LaidOut (.list []) ['[', ']']
  | list {items : List Json} {s : List Char} (h : ItemsLaidOut items s) :
      LaidOut (.list items) ('[' :: s)
  | noFields : LaidOut (.record []) ['\x7b', '\x7d']
  | record {fields : List (String × Json)} {s : List Char} (h : FieldsLaidOut fields s) :
      LaidOut (.record fields) ('\x7b' :: s)

/-- One or more items, and the closing bracket. -/
inductive ItemsLaidOut : List Json → List Char → Prop
  | last {x : Json} {b s e : List Char} (before : Blank b) (h : LaidOut x s) (after : Blank e) :
      ItemsLaidOut [x] (b ++ (s ++ (e ++ [']'])))
  | next {x : Json} {xs : List Json} {b s t : List Char} (before : Blank b) (h : LaidOut x s)
      (more : ItemsLaidOut xs t) : ItemsLaidOut (x :: xs) (b ++ (s ++ ',' :: t))

/-- One or more fields, and the closing brace. -/
inductive FieldsLaidOut : List (String × Json) → List Char → Prop
  | last {v : Json} {b g s e : List Char} (k : String) (before : Blank b) (gap : Blank g)
      (h : LaidOut v s) (after : Blank e) :
      FieldsLaidOut [(k, v)] (b ++ (quote k ++ ':' :: (g ++ (s ++ (e ++ ['\x7d'])))))
  | next {v : Json} {fs : List (String × Json)} {b g s t : List Char} (k : String)
      (before : Blank b) (gap : Blank g) (h : LaidOut v s) (more : FieldsLaidOut fs t) :
      FieldsLaidOut ((k, v) :: fs) (b ++ (quote k ++ ':' :: (g ++ (s ++ ',' :: t))))

end

end Json

theorem Number.head_write {n : Number} (proper : n.Proper) :
    ∃ c s, n.write = c :: s ∧ (c = '-' ∨ c.isDigit = true) := by
  rw [Number.write_eq]
  cases n.negative with
  | true => exact ⟨'-', _, rfl, .inl rfl⟩
  | false =>
    obtain ⟨d, ds, whole⟩ := List.exists_cons_of_ne_nil proper.some_digit
    have digit := proper.digits d (whole ▸ List.mem_cons_self)
    rw [whole]
    exact ⟨d, _, rfl, .inr digit⟩

namespace Draft

open Json (LaidOut ItemsLaidOut FieldsLaidOut)

/-- No number begins with a character that is neither a digit nor a minus sign. -/
theorem ne_of_startsNumber {c : Char} (start : c = '-' ∨ c.isDigit = true) (d : Char)
    (other : (d == '-' || d.isDigit) = false) : c ≠ d := by
  rintro rfl
  simp only [Bool.or_eq_false_iff, beq_eq_false_iff_ne] at other
  rcases start with minus | digit
  · exact other.1 minus
  · rw [other.2] at digit
    cases digit

theorem isSpace_of_startsNumber {c : Char} (start : c = '-' ∨ c.isDigit = true) :
    isSpace c = false := by
  have other := ne_of_startsNumber start
  simp [isSpace, other ' ' rfl, other '\n' rfl, other '\t' rfl, other '\r' rfl]

/-- The text of a value begins with neither a blank nor the end of a list. -/
theorem head_laidOut {j : Json} {s : List Char} (h : j.LaidOut s) :
    ∃ c t, s = c :: t ∧ isSpace c = false ∧ c ≠ ']' := by
  cases h with
  | null => exact ⟨'n', _, rfl, by decide⟩
  | true => exact ⟨'t', _, rfl, by decide⟩
  | false => exact ⟨'f', _, rfl, by decide⟩
  | text s => exact ⟨'"', _, rfl, by decide⟩
  | noItems => exact ⟨'[', _, rfl, by decide⟩
  | list h => exact ⟨'[', _, rfl, by decide⟩
  | noFields => exact ⟨'\x7b', _, rfl, by decide⟩
  | record h => exact ⟨'\x7b', _, rfl, by decide⟩
  | number proper =>
    obtain ⟨c, s, written, start⟩ := Number.head_write proper
    have other := ne_of_startsNumber start
    exact ⟨c, s, written, isSpace_of_startsNumber start, other ']' rfl⟩

theorem length_pos_of_laidOut {j : Json} {s : List Char} (h : j.LaidOut s) : 0 < s.length := by
  obtain ⟨c, t, rfl, -⟩ := head_laidOut h
  exact Nat.succ_pos _

@[simp]
theorem skipSpace_cons {c : Char} (h : isSpace c = false) (s : List Char) :
    skipSpace (c :: s) = c :: s := by
  simp [skipSpace, h]

theorem readValue_number {c : Char} (start : c = '-' ∨ c.isDigit = true) (fuel : Nat)
    (s : List Char) : readValue (fuel + 1) (c :: s) =
      match readNumber (c :: s) with
      | some (n, rest) => (number n, some rest)
      | none => (broken, none) := by
  have other := ne_of_startsNumber start
  rw [readValue, skipSpace_cons (isSpace_of_startsNumber start)]
  cases read : readNumber (c :: s) <;>
    simp [read, other 'n' rfl, other 't' rfl, other 'f' rfl, other '"' rfl, other '[' rfl,
      other '\x7b' rfl]

theorem quote_append (s : String) (r : List Char) :
    Json.quote s ++ r = '"' :: (s.toList.flatMap Json.escape ++ '"' :: r) := by
  simp [Json.quote]

theorem skipSpace_skipSpace (s : List Char) : skipSpace (skipSpace s) = skipSpace s :=
  List.dropWhile_idempotent isSpace s

/-! Blanks at the front change nothing -/

theorem readValue_skipSpace (fuel : Nat) (s : List Char) :
    readValue fuel (skipSpace s) = readValue fuel s := by
  cases fuel with
  | zero => rw [readValue, readValue]
  | succ fuel => simp only [readValue, skipSpace_skipSpace]

theorem readItems_skipSpace (fuel : Nat) (s : List Char) :
    readItems fuel (skipSpace s) = readItems fuel s := by
  cases fuel with
  | zero => rw [readItems, readItems]
  | succ fuel => simp only [readItems, readValue_skipSpace]

section

variable {b : List Char} (blank : Blank b)

include blank

theorem skipSpace_blank (s : List Char) : skipSpace (b ++ s) = skipSpace s :=
  List.dropWhile_append_of_pos blank

theorem readValue_blank (fuel : Nat) (s : List Char) :
    readValue fuel (b ++ s) = readValue fuel s := by
  rw [← readValue_skipSpace, skipSpace_blank blank, readValue_skipSpace]

theorem readFields_blank (fuel : Nat) (s : List Char) :
    readFields fuel (b ++ s) = readFields fuel s := by
  cases fuel with
  | zero => rw [readFields, readFields]
  | succ fuel => simp only [readFields, skipSpace_blank blank]

/-- A value can end where blanks stand before a comma or the end of the container. -/
theorem ends_blank {c : Char} (close : endsValue c = true) (r : List Char) :
    (b ++ c :: r).head?.all endsValue := by
  cases b with
  | nil => simpa using close
  | cons d b =>
    have space : isSpace d = true := blank d List.mem_cons_self
    simp [endsValue, space]

end

section

variable {fuel : Nat} {s t r : List Char} {ending : Ending} {rest : Option (List Char)}

/-- Behind blanks a list goes on with something else than its end. -/
theorem skipSpace_itemsLaidOut {xs : List Json} (h : ItemsLaidOut xs s) (r : List Char) :
    ∃ c t, skipSpace (s ++ r) = c :: t ∧ c ≠ ']' := by
  have first {j : Json} {b u : List Char} (before : Blank b) (h : j.LaidOut u) (t : List Char) :
      ∃ c t', skipSpace (b ++ (u ++ t)) = c :: t' ∧ c ≠ ']' := by
    obtain ⟨c, v, rfl, solid, other⟩ := head_laidOut h
    exact ⟨c, v ++ t, by rw [skipSpace_blank before, List.cons_append, skipSpace_cons solid], other⟩
  cases h with
  | last before h after =>
    rw [List.append_assoc, List.append_assoc]
    exact first before h _
  | next before h more =>
    rw [List.append_assoc, List.append_assoc]
    exact first before h _

/-- Behind blanks a record goes on with a name. -/
theorem skipSpace_fieldsLaidOut {fs : List (String × Json)} (h : FieldsLaidOut fs s)
    (r : List Char) : ∃ t, skipSpace (s ++ r) = '"' :: t := by
  have first {b : List Char} (before : Blank b) (k : String) (t : List Char) :
      skipSpace (b ++ (Json.quote k ++ t)) = '"' :: (k.toList.flatMap Json.escape ++ '"' :: t) := by
    rw [skipSpace_blank before, quote_append, skipSpace_cons (by decide)]
  cases h with
  | last k before gap h after =>
    rw [List.append_assoc, List.append_assoc]
    exact ⟨_, first before k _⟩
  | next k before gap h more =>
    rw [List.append_assoc, List.append_assoc]
    exact ⟨_, first before k _⟩

theorem readValue_list {xs : List Json} (text : ItemsLaidOut xs s) {items : List Draft}
    (reads : readItems fuel (s ++ r) = (items, ending, rest)) :
    readValue (fuel + 1) ('[' :: (s ++ r)) = (list items ending, rest) := by
  obtain ⟨c, t, first, other⟩ := skipSpace_itemsLaidOut text r
  rw [readValue, skipSpace_cons (by decide)]
  simp [first, other, reads]

theorem readValue_record {fs : List (String × Json)} (text : FieldsLaidOut fs s)
    {fields : List (Option String × Draft)}
    (reads : readFields fuel (s ++ r) = (fields, ending, rest)) :
    readValue (fuel + 1) ('\x7b' :: (s ++ r)) = (record fields ending, rest) := by
  obtain ⟨t, first⟩ := skipSpace_fieldsLaidOut text r
  rw [readValue, skipSpace_cons (by decide)]
  simp [first, reads]

theorem readItems_last {x : Draft} {e : List Char} (after : Blank e)
    (reads : readValue fuel s = (x, some (e ++ ']' :: r))) :
    readItems (fuel + 1) s = ([x], .closed, some r) := by
  have bracket : skipSpace (e ++ ']' :: r) = ']' :: r := by
    rw [skipSpace_blank after, skipSpace_cons (by decide)]
  simp only [readItems, reads, bracket]

theorem readItems_next {xs : List Json} {x : Draft} (text : ItemsLaidOut xs t)
    (reads : readValue fuel s = (x, some (',' :: (t ++ r)))) {items : List Draft}
    (more : readItems fuel (t ++ r) = (items, ending, rest)) :
    readItems (fuel + 1) s = (x :: items, ending, rest) := by
  obtain ⟨c, u, first, other⟩ := skipSpace_itemsLaidOut text r
  have comma : skipSpace (',' :: (t ++ r)) = ',' :: (t ++ r) := skipSpace_cons (by decide) _
  rw [← readItems_skipSpace, first] at more
  simp only [readItems, reads, comma, first]
  simp [other, more]

theorem readFields_last {k : String} {v : Draft} {e : List Char} (after : Blank e)
    (reads : readValue fuel s = (v, some (e ++ '\x7d' :: r))) :
    readFields (fuel + 1) (Json.quote k ++ ':' :: s) = ([(some k, v)], .closed, some r) := by
  have colon : skipSpace (':' :: s) = ':' :: s := skipSpace_cons (by decide) s
  have brace : skipSpace (e ++ '\x7d' :: r) = '\x7d' :: r := by
    rw [skipSpace_blank after, skipSpace_cons (by decide)]
  rw [quote_append, readFields, skipSpace_cons (by decide)]
  simp [readText_quote, colon, reads, brace]

theorem readFields_next {k : String} {v : Draft}
    (reads : readValue fuel s = (v, some (',' :: t))) {fields : List (Option String × Draft)}
    (more : readFields fuel t = (fields, ending, rest)) :
    readFields (fuel + 1) (Json.quote k ++ ':' :: s) = ((some k, v) :: fields, ending, rest) := by
  have colon : skipSpace (':' :: s) = ':' :: s := skipSpace_cons (by decide) s
  have comma : skipSpace (',' :: t) = ',' :: t := skipSpace_cons (by decide) t
  rw [quote_append, readFields, skipSpace_cons (by decide)]
  simp [readText_quote, colon, reads, comma, more]

end

-- The induction is on the fuel: each call spends one, and reads more than the calls it leads to.
mutual

/-- A text of a value is read as the value, and what follows it is left. -/
theorem readValue_laidOut {j : Json} {s : List Char} (h : j.LaidOut s) (fuel : Nat)
    (room : s.length ≤ fuel) (r : List Char) (ends : r.head?.all endsValue) :
    readValue fuel (s ++ r) = (ofJson j, some r) := by
  match fuel, h, room with
  | 0, h, room => exact absurd (length_pos_of_laidOut h) (Nat.not_lt.mpr room)
  | fuel + 1, .null, _ => rfl
  | fuel + 1, .true, _ => rfl
  | fuel + 1, .false, _ => rfl
  | fuel + 1, .noItems, _ => rfl
  | fuel + 1, .noFields, _ => rfl
  | fuel + 1, .number proper, _ =>
    obtain ⟨c, s, written, start⟩ := Number.head_write proper
    have reads := readNumber_write proper ends
    rw [written] at reads
    rw [written, List.cons_append, readValue_number start, ← List.cons_append, reads]
    rfl
  | fuel + 1, .text s, _ =>
    rw [quote_append, readValue, skipSpace_cons (by decide)]
    simp [readText_quote, ofJson]
  | fuel + 1, .list items, room =>
    exact readValue_list items (readItems_laidOut items fuel (Nat.le_of_succ_le_succ room) r)
  | fuel + 1, .record fields, room =>
    exact readValue_record fields (readFields_laidOut fields fuel (Nat.le_of_succ_le_succ room) r)

/-- The items of a list are read, and what follows the list is left. -/
theorem readItems_laidOut {xs : List Json} {s : List Char} (h : ItemsLaidOut xs s) (fuel : Nat)
    (room : s.length ≤ fuel) (r : List Char) :
    readItems fuel (s ++ r) = (ofItems xs, .closed, some r) := by
  match fuel, h, room with
  | 0, .last before h after, room => simp at room
  | 0, .next before h more, room => simp at room
  | fuel + 1, .last (b := b) (s := s) (e := e) before h after, room =>
    simp only [List.length_append, List.length_cons] at room
    have close : endsValue ']' = true := rfl
    have value := readValue_laidOut h fuel (by omega) _ (ends_blank after close r)
    have text : b ++ (s ++ (e ++ [']'])) ++ r = b ++ (s ++ (e ++ ']' :: r)) := by simp
    rw [text]
    exact readItems_last after ((readValue_blank before fuel _).trans value)
  | fuel + 1, .next (b := b) (s := s) (t := t) before h more, room =>
    simp only [List.length_append, List.length_cons] at room
    have value := readValue_laidOut h fuel (by omega) (',' :: (t ++ r)) rfl
    have items := readItems_laidOut more fuel (by omega) r
    have text : b ++ (s ++ ',' :: t) ++ r = b ++ (s ++ ',' :: (t ++ r)) := by simp
    rw [text]
    exact readItems_next more ((readValue_blank before fuel _).trans value) items

/-- The fields of a record are read, and what follows the record is left. -/
theorem readFields_laidOut {fs : List (String × Json)} {s : List Char} (h : FieldsLaidOut fs s)
    (fuel : Nat) (room : s.length ≤ fuel) (r : List Char) :
    readFields fuel (s ++ r) = (ofFields fs, .closed, some r) := by
  match fuel, h, room with
  | 0, .last k before gap h after, room => simp at room
  | 0, .next k before gap h more, room => simp at room
  | fuel + 1, .last (b := b) (g := g) (s := s) (e := e) k before gap h after, room =>
    simp only [List.length_append, List.length_cons] at room
    have close : endsValue '\x7d' = true := rfl
    have value := readValue_laidOut h fuel (by omega) _ (ends_blank after close r)
    have text : b ++ (Json.quote k ++ ':' :: (g ++ (s ++ (e ++ ['\x7d'])))) ++ r =
        b ++ (Json.quote k ++ ':' :: (g ++ (s ++ (e ++ '\x7d' :: r)))) := by simp
    rw [text, readFields_blank before]
    exact readFields_last after ((readValue_blank gap fuel _).trans value)
  | fuel + 1, .next (b := b) (g := g) (s := s) (t := t) k before gap h more, room =>
    simp only [List.length_append, List.length_cons] at room
    have value := readValue_laidOut h fuel (by omega) (',' :: (t ++ r)) rfl
    have fields := readFields_laidOut more fuel (by omega) r
    have text : b ++ (Json.quote k ++ ':' :: (g ++ (s ++ ',' :: t))) ++ r =
        b ++ (Json.quote k ++ ':' :: (g ++ (s ++ ',' :: (t ++ r)))) := by simp
    rw [text, readFields_blank before]
    exact readFields_next ((readValue_blank gap fuel _).trans value) fields

end

end Draft

namespace Json

mutual

/-- All numbers are spelled as JSON has them. -/
def Proper : Json → Prop
  | number n => n.Proper
  | list items => ItemsProper items
  | record fields => FieldsProper fields
  | _ => True

def ItemsProper : List Json → Prop
  | [] => True
  | x :: xs => x.Proper ∧ ItemsProper xs

def FieldsProper : List (String × Json) → Prop
  | [] => True
  | (_, v) :: fs => v.Proper ∧ FieldsProper fs

end

theorem itemsProper_iff {items : List Json} : ItemsProper items ↔ ∀ x ∈ items, x.Proper := by
  induction items with
  | nil => simp [ItemsProper]
  | cons x xs ih => simp [ItemsProper, ih]

theorem blank_nil : Draft.Blank [] := fun _ h => absurd h List.not_mem_nil

theorem blank_newLine (depth : Nat) : Draft.Blank (newLine depth) := by
  intro c hc
  rcases List.mem_cons.mp hc with rfl | hc
  · rfl
  · rw [List.eq_of_mem_replicate hc]
    rfl

/-- A blank behind a colon. -/
theorem blank_gap : Draft.Blank [' '] := by
  intro c hc
  rw [List.mem_singleton.mp hc]
  rfl

mutual

theorem laidOut_write (j : Json) (proper : j.Proper) : j.LaidOut j.write :=
  match j, proper with
  | .null, _ => .null
  | .bool true, _ => .true
  | .bool false, _ => .false
  | .number _, proper => .number proper
  | .text s, _ => .text s
  | .list [], _ => .noItems
  | .list (x :: xs), proper => by
    rw [write]
    exact .list (laidOut_writeItems (laidOut_write x proper.1) xs proper.2)
  | .record [], _ => .noFields
  | .record ((k, v) :: fs), proper => by
    rw [write, List.append_assoc]
    exact .record (laidOut_writeFields k (laidOut_write v proper.1) fs proper.2)

theorem laidOut_writeItems {x : Json} {s : List Char} (first : x.LaidOut s) (xs : List Json)
    (proper : ItemsProper xs) : ItemsLaidOut (x :: xs) (s ++ writeItems xs) :=
  match xs, proper with
  | [], _ => by
    rw [writeItems]
    exact .last blank_nil first blank_nil
  | y :: ys, proper => by
    rw [writeItems]
    exact .next blank_nil first (laidOut_writeItems (laidOut_write y proper.1) ys proper.2)

theorem laidOut_writeFields (k : String) {v : Json} {s : List Char} (first : v.LaidOut s)
    (fs : List (String × Json)) (proper : FieldsProper fs) :
    FieldsLaidOut ((k, v) :: fs) (quote k ++ (':' :: s ++ writeFields fs)) :=
  match fs, proper with
  | [], _ => by
    rw [writeFields]
    exact .last k blank_nil blank_nil first blank_nil
  | (k', v') :: fs, proper => by
    rw [writeFields, List.append_assoc]
    exact .next k blank_nil blank_nil first
      (laidOut_writeFields k' (laidOut_write v' proper.1) fs proper.2)

end

mutual

theorem laidOut_writeLines (depth : Nat) (j : Json) (proper : j.Proper) :
    j.LaidOut (j.writeLines depth) :=
  match j, proper with
  | .null, _ => .null
  | .bool true, _ => .true
  | .bool false, _ => .false
  | .number _, proper => .number proper
  | .text s, _ => .text s
  | .list [], _ => .noItems
  | .list (x :: xs), proper => by
    rw [writeLines, List.append_assoc]
    exact .list
      (laidOut_writeItemLines depth (laidOut_writeLines (depth + 1) x proper.1) xs proper.2)
  | .record [], _ => .noFields
  | .record ((k, v) :: fs), proper => by
    rw [writeLines, List.append_assoc, List.append_assoc]
    exact .record
      (laidOut_writeFieldLines depth k (laidOut_writeLines (depth + 1) v proper.1) fs proper.2)

theorem laidOut_writeItemLines (depth : Nat) {x : Json} {s : List Char} (first : x.LaidOut s)
    (xs : List Json) (proper : ItemsProper xs) :
    ItemsLaidOut (x :: xs) (newLine (depth + 1) ++ (s ++ writeItemLines depth xs)) :=
  match xs, proper with
  | [], _ => by
    rw [writeItemLines]
    exact .last (blank_newLine _) first (blank_newLine _)
  | y :: ys, proper => by
    rw [writeItemLines, List.append_assoc]
    exact .next (blank_newLine _) first
      (laidOut_writeItemLines depth (laidOut_writeLines (depth + 1) y proper.1) ys proper.2)

theorem laidOut_writeFieldLines (depth : Nat) (k : String) {v : Json} {s : List Char}
    (first : v.LaidOut s) (fs : List (String × Json)) (proper : FieldsProper fs) :
    FieldsLaidOut ((k, v) :: fs)
      (newLine (depth + 1) ++ (quote k ++ (':' :: ' ' :: s ++ writeFieldLines depth fs))) :=
  match fs, proper with
  | [], _ => by
    rw [writeFieldLines]
    exact .last k (blank_newLine _) blank_gap first (blank_newLine _)
  | (k', v') :: fs, proper => by
    rw [writeFieldLines, List.append_assoc, List.append_assoc]
    exact .next k (blank_newLine _) blank_gap first
      (laidOut_writeFieldLines depth k' (laidOut_writeLines (depth + 1) v' proper.1) fs proper.2)

end

end Json

/-- A text of a value is read, and what follows it is left. -/
theorem Draft.read_laidOut {j : Json} {s : List Char} (h : j.LaidOut s) (r : List Char)
    (ends : r.head?.all endsValue) : read (s ++ r) = (ofJson j, some r) :=
  readValue_laidOut h _ (by rw [List.length_append]; omega) r ends

/-- The compact text of a value is read to its end. -/
theorem Draft.read_write {j : Json} (proper : j.Proper) : read j.write = (ofJson j, some []) := by
  have reads := read_laidOut (Json.laidOut_write j proper) [] rfl
  rwa [List.append_nil] at reads

/-- Decoding the compact text of a value is decoding the value. -/
theorem Decoder.run_compact {α : Type} (value : Decoder α) {j : Json} (proper : j.Proper) :
    value.run j.compact = value .direct (Draft.ofJson j) := by
  simp only [run, Json.compact, String.toList_ofList, Draft.read_write proper]
  cases value .direct (Draft.ofJson j) <;> rfl

/-- Decoding the text of a value on lines, with a line's end behind it, is decoding the value. -/
theorem Decoder.run_pretty {α : Type} (value : Decoder α) {j : Json} (proper : j.Proper) :
    value.run (j.pretty ++ "\n") = value .direct (Draft.ofJson j) := by
  have text : (j.pretty ++ "\n").toList = j.writeLines 0 ++ ['\n'] := by
    rw [String.toList_append, Json.pretty, String.toList_ofList]
    rfl
  have reads := Draft.read_laidOut (Json.laidOut_writeLines 0 j proper) ['\n'] rfl
  simp only [run, text, reads]
  cases value .direct (Draft.ofJson j) <;> rfl

end JobDispatch

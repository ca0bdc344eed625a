/-!
UTF-8: the bytes of a text, and the text of a row of bytes, read strictly or with the
replacement character for what is no text.
-/

namespace JobDispatch.Text

def utf8 (s : List Char) : List UInt8 := s.flatMap String.utf8EncodeChar

/-- U+FFFD, which stands for bytes that are no text. -/
def replacement : Char := '\uFFFD'

/-- The first character of a row of bytes and the number of its bytes; or, where the bytes
begin no character, the length of the longest start of one (at least one byte). -/
inductive FirstChar where
  | char (c : Char) (size : Nat)
  | broken (size : Nat)

/-- The number of continuation bytes after a leading byte, and the bounds of the first of
them. -/
def continuation (lead : UInt8) : Option (Nat × UInt8 × UInt8) :=
  if 0xC2 ≤ lead && lead ≤ 0xDF then some (1, 0x80, 0xBF)
  else if lead == 0xE0 then some (2, 0xA0, 0xBF)
  else if lead == 0xED then some (2, 0x80, 0x9F)
  else if 0xE1 ≤ lead && lead ≤ 0xEF then some (2, 0x80, 0xBF)
  else if lead == 0xF0 then some (3, 0x90, 0xBF)
  else if lead == 0xF4 then some (3, 0x80, 0x8F)
  else if 0xF1 ≤ lead && lead ≤ 0xF3 then some (3, 0x80, 0xBF)
  else none

/-- Takes `count` continuation bytes, the first between the given bounds, onto `acc`; the
second part counts the bytes taken, and the first is absent where one is missing. -/
def takeContinuation : Nat → UInt8 → UInt8 → Nat → List UInt8 → Nat → Option Nat × Nat
  | 0, _, _, acc, _, taken => (some acc, taken)
  | _ + 1, _, _, _, [], taken => (none, taken)
  | n + 1, low, high, acc, b :: r, taken =>
    if low ≤ b && b ≤ high then
      takeContinuation n 0x80 0xBF (acc * 64 + (b.toNat - 0x80)) r (taken + 1)
    else (none, taken)

def firstChar (lead : UInt8) (rest : List UInt8) : FirstChar :=
  if lead < 0x80 then .char (Char.ofNat lead.toNat) 1
  else match continuation lead with
    | none => .broken 1
    | some (count, low, high) =>
      let start := if count == 1 then lead.toNat - 0xC0
        else if count == 2 then lead.toNat - 0xE0 else lead.toNat - 0xF0
      match takeContinuation count low high start rest 1 with
      | (some n, taken) => .char (Char.ofNat n) taken
      | (none, taken) => .broken taken

/-- The text of a row of bytes; each longest start of a character that is not completed
becomes one replacement character. -/
def decodeLossy : List UInt8 → List Char
  | [] => []
  | b :: r =>
    match firstChar b r with
    | .char c size => c :: decodeLossy (r.drop (size - 1))
    | .broken size => replacement :: decodeLossy (r.drop (size - 1))
termination_by bs => bs.length
decreasing_by all_goals simp only [List.length_cons, List.length_drop]; omega

/-- The text of a row of bytes, if all of it is text. -/
def decodeStrict : List UInt8 → Option (List Char)
  | [] => some []
  | b :: r =>
    match firstChar b r with
    | .char c size => (decodeStrict (r.drop (size - 1))).map (c :: ·)
    | .broken _ => none
termination_by bs => bs.length
decreasing_by all_goals simp only [List.length_cons, List.length_drop]; omega

end JobDispatch.Text

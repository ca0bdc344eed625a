import JobDispatch.Text.Utf8

/-!
Percent-encoding: bytes written as a percent sign and two hexadecimal digits.
-/

namespace JobDispatch.Http

def hexDigit (n : Nat) : Char := Char.ofNat (if n < 10 then 48 + n else 55 + n)

/-- The value of a hexadecimal digit. -/
def hexValue? (c : Char) : Option Nat :=
  if c.isDigit then some (c.toNat - 48)
  else if 'A' ≤ c ∧ c ≤ 'F' then some (c.toNat - 55)
  else if 'a' ≤ c ∧ c ≤ 'f' then some (c.toNat - 87)
  else none

/-- A byte as a percent sign and two digits. -/
def encodeByte (b : UInt8) : List Char := ['%', hexDigit (b.toNat / 16), hexDigit (b.toNat % 16)]

/-- A text with the bytes of the characters for which `escaped` holds encoded. -/
def percentEncode (escaped : Char → Bool) (s : List Char) : List Char :=
  s.flatMap fun c => if escaped c then (Text.utf8 [c]).flatMap encodeByte else [c]

/-- The bytes that a text stands for. A percent sign without two digits behind it stands for
itself. -/
def percentDecode : List Char → List UInt8
  | [] => []
  | '%' :: a :: b :: r =>
    match hexValue? a, hexValue? b with
    | some x, some y => UInt8.ofNat (x * 16 + y) :: percentDecode r
    | _, _ => Text.utf8 ['%'] ++ percentDecode (a :: b :: r)
  | c :: r => Text.utf8 [c] ++ percentDecode r

end JobDispatch.Http

import JobDispatch.Text.Decimal

/-!
JSON numbers as they are spelled, and the whole numbers among them.
-/

namespace JobDispatch

/-- A number as it is spelled. -/
structure Number where
  negative : Bool
  whole : List Char
  fraction : List Char
  exponent : Option (Bool × List Char)
  deriving DecidableEq, Repr

namespace Number

open Text

/-- The whole number that is meant, if it is spelled without fraction and exponent, is not a
negative zero and fits 64 bits. -/
def int? (n : Number) : Option Int :=
  if n.fraction != [] || n.exponent.isSome then none
  else
    let v := ofDigits 0 n.whole
    if n.negative then (if 0 < v && v ≤ 9223372036854775808 then some (-(v : Int)) else none)
    else if v ≤ maxWord then some (v : Int) else none

def ofInt (i : Int) : Number := ⟨i < 0, digits i.natAbs, [], none⟩

/-- The spelling of a number. -/
def write (n : Number) : List Char :=
  (if n.negative then ['-'] else []) ++ n.whole ++
    (if n.fraction = [] then [] else '.' :: n.fraction) ++
    match n.exponent with
    | none => []
    | some (negative, ds) => 'e' :: (if negative then ['-'] else []) ++ ds

/-- Adds digits to a significand while it fits 64 bits; the second part counts the digits left
over. -/
def significand : Nat → List Char → Nat × Nat
  | acc, [] => (acc, 0)
  | acc, c :: r =>
    let next := acc * 10 + digitValue c
    if next ≤ maxWord then significand next r else (acc, r.length + 1)

/-- A number rounded to 53 binary digits, ties to even. -/
def round53 (n : Nat) : Nat :=
  let bits := n.log2 + 1
  if bits ≤ 53 then n
  else
    let unit := Nat.pow 2 (bits - 53)
    let q := n / unit
    let r := n % unit
    if unit < 2 * r || (2 * r == unit && q % 2 == 1) then (q + 1) * unit else q * unit

/-- Whether a number lies beyond the binary floating-point numbers of 64 bits: its significand
times its power of ten, each rounded, rounds to infinity. -/
def tooLarge (n : Number) : Bool :=
  let (whole, dropped) := significand 0 n.whole
  let (sig, unread) :=
    if dropped = 0 then significand whole n.fraction else (whole, n.fraction.length)
  let scale : Int :=
    if dropped = 0 then -((n.fraction.length - unread : Nat) : Int) else (dropped : Int)
  let power : Int := match n.exponent with
    | none => 0
    | some (negative, ds) =>
      let e : Int := min (ofDigits 0 ds) 2147483648
      if negative then -e else e
  let exponent := scale + power
  sig != 0 && 0 < exponent && (308 < exponent ||
    Nat.pow 2 1024 - Nat.pow 2 970 ≤ round53 sig * round53 (Nat.pow 10 exponent.toNat))

end Number

end JobDispatch

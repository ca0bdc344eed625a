/-!
Numbers written in decimal digits. Reading takes a sign where the kind of number has one and
refuses what lies outside the given bounds.
-/

namespace JobDispatch.Text

/-- The digit character of a number below ten. -/
def digitChar (n : Nat) : Char := Char.ofNat (48 + n % 10)

/-- The decimal digits of a number, most significant first. -/
def digits (n : Nat) : List Char :=
  if n < 10 then [digitChar n] else digits (n / 10) ++ [digitChar (n % 10)]

/-- At least `width` digits, filled up with zeros on the left. -/
def padded (width n : Nat) : List Char :=
  let ds := digits n
  List.replicate (width - ds.length) '0' ++ ds

/-- A number in decimal digits. -/
def decimal (n : Nat) : String := String.ofList (digits n)

/-- A number with a sign in decimal digits. -/
def signedDecimal (n : Int) : String :=
  if n < 0 then "-" ++ decimal n.natAbs else decimal n.natAbs

def digitValue (c : Char) : Nat := c.toNat - 48

/-- The number that a row of digits denotes, continuing from `acc`. -/
def ofDigits (acc : Nat) (ds : List Char) : Nat :=
  ds.foldl (fun n c => n * 10 + digitValue c) acc

/-- One or more digits and nothing else. -/
def readDigits (s : List Char) : Option Nat :=
  if s != [] && s.all Char.isDigit then some (ofDigits 0 s) else none

/-- An unsigned number of at most `bound`; a plus sign may stand before it. -/
def readNat (bound : Nat) (s : String) : Option Nat :=
  let ds := match s.toList with
    | '+' :: r => r
    | r => r
  (readDigits ds).filter (· ≤ bound)

/-- A signed number from `low` to `high`. -/
def readInt (low high : Int) (s : String) : Option Int :=
  let n := match s.toList with
    | '+' :: r => (readDigits r).map Int.ofNat
    | '-' :: r => (readDigits r).map fun n => -Int.ofNat n
    | r => (readDigits r).map Int.ofNat
  n.filter fun i => low ≤ i && i ≤ high

/-- The largest unsigned number of 64 bits. -/
def maxWord : Nat := 18446744073709551615

/-- The largest unsigned number of 32 bits. -/
def maxHalfWord : Nat := 4294967295

/-- The bounds of signed numbers of 64 bits. -/
def minSigned : Int := -9223372036854775808

def maxSigned : Int := 9223372036854775807

end JobDispatch.Text

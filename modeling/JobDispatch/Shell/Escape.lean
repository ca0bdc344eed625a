import JobDispatch.Text.Utf8

/-!
Escapes: a backslash and what follows it stand for bytes.
-/

namespace JobDispatch.Shell

/-- Which escapes there are besides the common ones. -/
structure EscapeRules where
  /-- a zero may stand before three octal digits -/
  zeroFirst : Bool
  /-- the letter x stands before hexadecimal digits -/
  hex : Bool
  /-- a quotation mark may be escaped -/
  quote : Bool
  /-- the letter c ends all output -/
  stops : Bool
  deriving DecidableEq, Repr

/-- Bytes, and whether all output ends with them. -/
structure Unescaped where
  bytes : List UInt8
  stopped : Bool
  deriving DecidableEq, Repr

def octalValue? (c : Char) : Option Nat :=
  if '0' ≤ c && c ≤ '7' then some (c.toNat - 48) else none

def hexValue? (c : Char) : Option Nat :=
  if c.isDigit then some (c.toNat - 48)
  else if 'a' ≤ c && c ≤ 'f' then some (c.toNat - 87)
  else if 'A' ≤ c && c ≤ 'F' then some (c.toNat - 55)
  else none

/-- The number of up to `count` digits and what follows them; absent if there is no digit. -/
def readDigitsOf (base : Nat) (value? : Char → Option Nat) (count : Nat) (cs : List Char) :
    Option (Nat × List Char) :=
  let ds := (cs.take count).takeWhile fun c => (value? c).isSome
  if ds.isEmpty then none
  else some (ds.foldl (fun n c => n * base + (value? c).getD 0) 0, cs.drop ds.length)

/-- The byte of a common escape. -/
def commonEscape? : Char → Option UInt8
  | '\\' => some 0x5C
  | 'a' => some 0x07
  | 'b' => some 0x08
  | 'e' => some 0x1B
  | 'f' => some 0x0C
  | 'n' => some 0x0A
  | 'r' => some 0x0D
  | 't' => some 0x09
  | 'v' => some 0x0B
  | _ => none

/-- The byte of an escape, and what follows it; absent where a backslash stands for itself. -/
def EscapeRules.byte? (r : EscapeRules) : List Char → Option (UInt8 × List Char)
  | [] => none
  | c :: cs =>
    let octal := if r.zeroFirst && c = '0' then
        some ((readDigitsOf 8 octalValue? 3 cs).getD (0, cs))
      else readDigitsOf 8 octalValue? 3 (c :: cs)
    match octal with
    | some (n, rest) => some (UInt8.ofNat n, rest)
    | none =>
      match commonEscape? c with
      | some b => some (b, cs)
      | none =>
        if r.quote && c = '"' then some (0x22, cs)
        else if r.hex && c = 'x' then
          (readDigitsOf 16 hexValue? 2 cs).map fun (n, rest) => (UInt8.ofNat n, rest)
        else none

/-- A text whose escapes are replaced, of up to `room` characters. -/
def EscapeRules.unescapeFrom (r : EscapeRules) : Nat → List Char → Unescaped
  | 0, _ => ⟨[], false⟩
  | _, [] => ⟨[], false⟩
  | room + 1, '\\' :: cs =>
    if r.stops && cs.head? = some 'c' then ⟨[], true⟩
    else match r.byte? cs with
      | some (b, rest) =>
        let u := r.unescapeFrom room rest
        { u with bytes := b :: u.bytes }
      | none =>
        let u := r.unescapeFrom room cs
        { u with bytes := 0x5C :: u.bytes }
  | room + 1, c :: cs =>
    let u := r.unescapeFrom room cs
    { u with bytes := String.utf8EncodeChar c ++ u.bytes }

def EscapeRules.unescape (r : EscapeRules) (s : String) : Unescaped :=
  r.unescapeFrom s.length s.toList

end JobDispatch.Shell

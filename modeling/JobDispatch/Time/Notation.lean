import JobDispatch.Text.Blank
import JobDispatch.Text.Decimal
import JobDispatch.Time.Instant

/-!
The written form of instants: RFC 3339 with the fewest of 0, 3, 6 or 9 fraction digits when
written, and a laxer form when read, with blanks between the parts and an offset.
-/

namespace JobDispatch.Time

open Text

/-- A year of four digits, or with a sign where it lies outside 0 to 9999. -/
def writeYear (y : Int) : List Char :=
  if 0 ≤ y ∧ y ≤ 9999 then padded 4 y.toNat
  else (if y < 0 then '-' else '+') :: padded 4 y.natAbs

def writeFraction (nano : Nat) : List Char :=
  if nano = 0 then []
  else if nano % 1000000 = 0 then '.' :: padded 3 (nano / 1000000)
  else if nano % 1000 = 0 then '.' :: padded 6 (nano / 1000)
  else '.' :: padded 9 nano

def writeDate (d : Date) : List Char :=
  writeYear d.year ++ '-' :: padded 2 d.month ++ '-' :: padded 2 d.day

def writeClock (h m s : Nat) : List Char :=
  padded 2 h ++ ':' :: padded 2 m ++ ':' :: padded 2 s

/-- The date of an instant and the second of its day. -/
def Instant.dateAndSecond (t : Instant) : Date × Nat :=
  (Date.ofDayNumber (t.second / 86400), (t.second % 86400).toNat)

/-- The second that a clock shows, 60 in a leap second, and the nanosecond within it. -/
def Instant.shownSecond (t : Instant) : Nat × Nat :=
  let s := (t.second % 60).toNat
  if t.nano < milliard then (s, t.nano) else (s + 1, t.nano - milliard)

def Instant.write (t : Instant) : List Char :=
  let (date, s) := t.dateAndSecond
  let (shown, nano) := t.shownSecond
  writeDate date ++ 'T' :: writeClock (s / 3600) (s / 60 % 60) shown ++
    writeFraction nano ++ ['Z']

instance : ToString Instant := ⟨fun t => String.ofList t.write⟩

/-- The date and time of day to the second, as people read them. -/
def Instant.toPlain (t : Instant) : String :=
  let (date, s) := t.dateAndSecond
  String.ofList (writeDate date ++ ' ' :: writeClock (s / 3600) (s / 60 % 60) t.shownSecond.1)

/-- Up to `most` digits, at least one, of a number within `bound`. -/
def takeNumber (most : Nat) (bound : Nat) (s : List Char) : Option (Nat × List Char) :=
  let ds := (s.take most).takeWhile Char.isDigit
  if ds = [] then none
  else
    let n := ofDigits 0 ds
    if n ≤ bound then some (n, s.drop ds.length) else none

/-- A number field of two digits at most, blanks before it. -/
def takeField (low high : Nat) (s : List Char) : Option (Nat × List Char) :=
  (takeNumber 2 99 (trimStart s)).filter fun (n, _) => low ≤ n && n ≤ high

/-- A year of four digits, or of any number of digits after a sign. -/
def takeYear (s : List Char) : Option (Int × List Char) :=
  match trimStart s with
  | '-' :: r => (takeNumber r.length 262143 r).map fun (n, rest) => (-(n : Int), rest)
  | '+' :: r => (takeNumber r.length 262143 r).map fun (n, rest) => ((n : Int), rest)
  | r => (takeNumber 4 9999 r).map fun (n, rest) => ((n : Int), rest)

/-- A separator, blanks before it. -/
def takeMark (c : Char) (s : List Char) : Option (List Char) :=
  match trimStart s with
  | d :: r => if d = c then some r else none
  | [] => none

/-- A fraction of a second in nanoseconds; digits after the ninth are dropped. -/
def takeFraction : List Char → Option (Nat × List Char)
  | '.' :: s =>
    (takeNumber 9 milliard s).map fun (n, rest) =>
      (n * Nat.pow 10 (9 - (s.length - rest.length)), rest.dropWhile Char.isDigit)
  | s => some (0, s)

/-- An offset from Universal Time in seconds: `Z`, `UTC` in any case, or a sign, two digits of
hours and two of minutes, with colons and blanks between them. -/
def takeOffset (s : List Char) : Option (Int × List Char) :=
  let digitsOf := fun (sign : Int) (r : List Char) =>
    match r with
    | a :: b :: r =>
      match r.dropWhile fun c => c = ':' || isBlank c with
      | c :: d :: rest =>
        if a.isDigit && b.isDigit && c.isDigit && c.toNat ≤ '5'.toNat && d.isDigit then
          some (sign * (ofDigits 0 [a, b] * 3600 + ofDigits 0 [c, d] * 60 : Nat), rest)
        else none
      | _ => none
    | _ => none
  match s with
  | 'Z' :: r | 'z' :: r => some (0, r)
  | '+' :: r => digitsOf 1 r
  | '-' :: r | '\u2212' :: r => digitsOf (-1) r
  | u :: t :: c :: r =>
    if u.toUpper = 'U' && t.toUpper = 'T' && c.toUpper = 'C' then some (0, r) else none
  | _ => none

/-- The instant that a clock shows at an offset from Universal Time. -/
def Instant.ofClock (date : Date) (h m s nano : Nat) (offset : Int) : Option Instant :=
  if !date.exists || date.year < -262143 || 262142 < date.year || offset.natAbs ≥ 86400 then none
  else
    let clock := date.dayNumber * 86400 + h * 3600 + m * 60
    if s = 60 then Instant.of? (clock + 59 - offset) (nano + milliard)
    else Instant.of? (clock + s - offset) nano

def Instant.read (text : List Char) : Option Instant := do
  let (year, s) ← takeYear text
  let s ← takeMark '-' s
  let (month, s) ← takeField 1 12 s
  let s ← takeMark '-' s
  let (day, s) ← takeField 1 31 s
  let s ← match s with
    | 'T' :: r | 't' :: r | ' ' :: r => some r
    | _ => none
  let (hour, s) ← takeField 0 23 s
  let s ← takeMark ':' s
  let (minute, s) ← takeField 0 59 s
  let s ← takeMark ':' s
  let (second, s) ← takeField 0 60 s
  let (nano, s) ← takeFraction s
  let (offset, s) ← takeOffset (trimStart s)
  if trimStart s = [] then Instant.ofClock ⟨year, month, day⟩ hour minute second nano offset
  else none

end JobDispatch.Time

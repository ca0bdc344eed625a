import JobDispatch.Time.Calendar

/-!
Instants to the nanosecond in Universal Time, and the arithmetic on them. A leap second repeats
its minute's last second with a nanosecond of one milliard or more.
-/

namespace JobDispatch.Time

def milliard : Nat := 1000000000

/-- The first second of the year -262143, from 1970 on. -/
def firstSecond : Int := -8334601228800

/-- The last second of the year 262142. -/
def lastSecond : Int := 8210266876799

/-- The seconds and nanoseconds that denote an instant. -/
def InstantParts (second : Int) (nano : Nat) : Prop :=
  firstSecond ≤ second ∧ second ≤ lastSecond ∧
    (nano < milliard ∨ (nano < 2 * milliard ∧ second % 60 = 59))

instance (second : Int) (nano : Nat) : Decidable (InstantParts second nano) :=
  inferInstanceAs (Decidable (_ ∧ _ ∧ (_ ∨ (_ ∧ _))))

structure Instant where
  second : Int
  nano : Nat
  valid : InstantParts second nano
  deriving DecidableEq

def Instant.of? (second : Int) (nano : Nat) : Option Instant :=
  if h : InstantParts second nano then some ⟨second, nano, h⟩ else none

/-- The earliest instant. -/
def Instant.first : Instant := ⟨firstSecond, 0, by decide⟩

/-- The instant at which 1970 began. -/
def Instant.epoch : Instant := ⟨0, 0, by decide⟩

instance : Inhabited Instant := ⟨Instant.epoch⟩

/-- Whether one instant lies strictly before another. -/
def Instant.before (a b : Instant) : Bool :=
  a.second < b.second || (a.second == b.second && a.nano < b.nano)

instance : LT Instant := ⟨fun a b => a.before b = true⟩

instance : LE Instant := ⟨fun a b => b.before a = false⟩

/-- A length of time of whole seconds and nanoseconds below one milliard. -/
structure Span where
  seconds : Nat
  nanos : Nat
  deriving DecidableEq, Repr, Inhabited

def Span.ofSeconds (n : Nat) : Span := ⟨n, 0⟩

def Span.ofMillis (n : Nat) : Span := ⟨n / 1000, n % 1000 * 1000000⟩

/-- The longest time that can be added to an instant or taken from it: 2^63 - 1 milliseconds. -/
def Span.longest : Span := ⟨9223372036854775, 807000000⟩

def Span.fits (s : Span) : Bool :=
  s.seconds < Span.longest.seconds ||
    (s.seconds == Span.longest.seconds && s.nanos ≤ Span.longest.nanos)

/-- An instant moved by seconds and nanoseconds of one sign, if it stays within the range of
instants. A move out of a leap second counts that second as the one it repeats when it goes
forward, and as the next one when it goes back. -/
def Instant.move (t : Instant) (seconds nanos : Int) : Option Instant :=
  let settle (second nano : Int) : Option Instant :=
    let total := nano + nanos
    Instant.of? (second + seconds + total / milliard) (total % milliard).toNat
  if t.nano < milliard then settle t.second t.nano
  else if seconds > 0 || (nanos > 0 && 2 * milliard ≤ t.nano + nanos) then
    settle t.second (t.nano - milliard)
  else if seconds < 0 then settle (t.second + 1) (t.nano - milliard)
  else Instant.of? t.second (t.nano + nanos).toNat

/-- The instant a whole number of seconds later, or earlier when it is negative; absent where
the number exceeds the longest span or the instants end. -/
def Instant.addSeconds (t : Instant) (n : Int) : Option Instant :=
  if n.natAbs ≤ Span.longest.seconds then t.move n 0 else none

/-- The instant a span earlier; absent where the span is too long or the instants begin. -/
def Instant.sub (t : Instant) (s : Span) : Option Instant :=
  if s.fits then t.move (-s.seconds) (-s.nanos) else none

/-- The whole seconds from one instant to another. Where the times of day differ, the leap second
that lies between them, or in which the earlier of them lies, is counted. -/
def Instant.secondsSince (t earlier : Instant) : Int :=
  let leap : Int :=
    if earlier.second % 86400 < t.second % 86400 then if milliard ≤ earlier.nano then 1 else 0
    else if t.second % 86400 < earlier.second % 86400 then if milliard ≤ t.nano then -1 else 0
    else 0
  Int.tdiv ((t.second - earlier.second + leap) * milliard + (t.nano - earlier.nano)) milliard

end JobDispatch.Time

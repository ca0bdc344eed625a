import JobDispatch.Pattern.Node
import Std.Data.HashMap

/-!
The size of a pattern's automaton over bytes, forwards and backwards. A state counts 32, a
transition out of a state with several of them 8, and an alternative 4; what is repeated a number
of times is counted that often.
-/

namespace JobDispatch.Pattern

open Unicode (CharSet Range)

/-- The ranges of bytes, one for each place, that cover the characters whose bytes behind the
first are `n` continuation bytes; `lead` is added to the first byte. -/
def byteRanges (lead : Nat) : Nat → Nat → Nat → List (List Range)
  | 0, low, high => [[(lead + low, lead + high)]]
  | n + 1, low, high =>
    let m := Nat.pow 64 (n + 1)
    let block (a b : Nat) : List (List Range) :=
      (byteRanges 0x80 n (a % m) (b % m)).map fun r => (lead + a / m, lead + a / m) :: r
    if low / m = high / m then block low high
    else
      let first := if low % m = 0 then [] else block low (low / m * m + m - 1)
      let last := if high % m = m - 1 then [] else block (high / m * m) high
      let from_ := if low % m = 0 then low / m else low / m + 1
      let upto := if high % m = m - 1 then high / m + 1 else high / m
      let middle := if from_ < upto then
          [(lead + from_, lead + upto - 1) :: List.replicate (n + 1) (0x80, 0xBF)]
        else []
      first ++ middle ++ last

/-- The rows of byte ranges for the UTF-8 of a range of characters. -/
def utf8Rows (r : Range) : List (List Range) :=
  [(0, 0x7F, 0, 0), (0x80, 0x7FF, 0xC0, 1), (0x800, 0xD7FF, 0xE0, 2), (0xE000, 0xFFFF, 0xE0, 2),
    (0x10000, 0x10FFFF, 0xF0, 3)].flatMap fun (low, high, lead, n) =>
    let a := max r.1 low
    let b := min r.2 high
    if a ≤ b then byteRanges lead n a b else []

/-- Splits rows into groups of neighbours with the same first range; a group has the rest of its
rows. -/
def groupRows : List (List Range) → List (Range × List (List Range))
  | [] => []
  | [] :: rows => groupRows rows
  | (r :: rest) :: rows =>
    match groupRows rows with
    | (r', rests) :: gs =>
      if r = r' then (r, rest :: rests) :: gs else (r, [rest]) :: (r', rests) :: gs
    | [] => [(r, [rest])]

/-- The states of the smallest automaton so far, by their transitions, with a sum of sizes. -/
structure States where
  ids : Std.HashMap (List (Range × Nat)) Nat
  size : Nat

/-- Adds the state that reads any of the rows, unless there is one already; rows have at most
`depth` ranges. -/
def addRows : Nat → List (List Range) → States → Nat × States
  | 0, _, st => (0, st)
  | depth + 1, rows, st =>
    if rows.all List.isEmpty then (0, st)
    else
      let step (acc : List (Range × Nat) × States) (g : Range × List (List Range)) :=
        let (id, st) := addRows depth g.2 acc.2
        ((g.1, id) :: acc.1, st)
      let (edges, st) := (groupRows rows).foldl step ([], st)
      match st.ids[edges]? with
      | some id => (id, st)
      | none =>
        let id := st.ids.size + 1
        (id, ⟨st.ids.insert edges id, st.size + 32 + 8 * edges.length⟩)

def forwardSize (s : CharSet) : Nat :=
  32 + (addRows 5 (s.ranges.flatMap utf8Rows) ⟨∅, 0⟩).2.size

/-- Read backwards, rows share the states of their common fronts. -/
def backwardSize (s : CharSet) : Nat :=
  let rows := s.ranges.flatMap utf8Rows
  let fronts := rows.flatMap fun r => (List.range r.length).map fun i => r.take (i + 1)
  let states := fronts.foldl (fun m f => m.insert f ()) (∅ : Std.HashMap (List Range) Unit)
  64 + 32 * states.size + 4 * rows.length

/-- The number of bytes of a character in UTF-8. -/
def utf8Size (n : Nat) : Nat :=
  if n < 0x80 then 1 else if n < 0x800 then 2 else if n < 0x10000 then 3 else 4

def classSize (backward : Bool) (s : CharSet) : Nat :=
  match s.single? with
  | some n => 32 * utf8Size n
  | none =>
    if s.isAscii then 64 + (if s.ranges.length = 1 then 0 else 8 * s.ranges.length)
    else if backward then backwardSize s else forwardSize s

namespace Node

variable {ω : Type}

mutual

def size (backward : Bool) : Node CharSet ω → Nat
  | empty => 32
  | one s => classSize backward s
  | look _ => 32
  | capture n => n.size backward + if backward then 0 else 64
  | seq ns => sizes backward ns
  | alt ns => 64 + 4 * ns.length + sizes backward ns
  | rep low high n =>
    let one := n.size backward
    match low, high with
    | 0, none => one + if n.canBeEmpty then 112 else 40
    | _, none => low * one + 40
    | 0, some 1 => one + 72
    | _, some high =>
      (if low = 0 then 32 else low * one) +
        if low = high then 0 else 32 + (high - low) * (one + 40)

def sizes (backward : Bool) : List (Node CharSet ω) → Nat
  | [] => 0
  | n :: ns => n.size backward + sizes backward ns

end

end Node

/-- The largest size an automaton may have: 10 MiB. -/
def maxSize : Nat := 10485760

/-- Whether the automata of a pattern, with the states that begin and end them, are small
enough. -/
def fitsSize {ω : Type} (n : Node CharSet ω) : Bool :=
  n.size false + 128 ≤ maxSize && n.size true + 64 ≤ maxSize

end JobDispatch.Pattern

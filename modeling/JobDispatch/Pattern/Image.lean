import JobDispatch.Pattern.Node

/-!
Matching by sets of places. A text of `n` characters has the places 0 to `n`, and a set of places
is the number that has their bits. A node takes each set of places to the places where a match
from one of them can end.
-/

namespace JobDispatch.Pattern

open Unicode (CharSet)

/-- The number with the bits at which a test holds, from the front. -/
def bitsWhere {α : Type} (p : α → Bool) : List α → Nat
  | [] => 0
  | a :: as => 2 * bitsWhere p as + if p a then 1 else 0

/-- Each place of a text with the characters before it (nearest first) and behind it. -/
def places (before : List Char) : List Char → List (List Char × List Char)
  | [] => [(before, [])]
  | c :: r => (before, c :: r) :: places (c :: before) r

/-- Whether a condition holds at a place; `word` tells the characters of words. -/
def Look.holds (word : Char → Bool) : Look → List Char × List Char → Bool
  | .textStart, (before, _) => before.isEmpty
  | .textEnd, (_, after) => after.isEmpty
  | .lineStart false, (before, _) => before.head?.all (· == '\n')
  | .lineEnd false, (_, after) => after.head?.all (· == '\n')
  | .lineStart true, (before, after) =>
    match before.head? with
    | none => true
    | some c => c == '\n' || (c == '\r' && after.head? != some '\n')
  | .lineEnd true, (before, after) =>
    match after.head? with
    | none => true
    | some c => c == '\r' || (c == '\n' && before.head? != some '\r')
  | .word _ a, (before, after) =>
    let w := before.head?.any word
    let v := after.head?.any word
    match a with
    | .wordBound => w != v
    | .notWordBound => w == v
    | .wordStart => !w && v
    | .wordEnd => w && !v
    | .wordStartHalf => !w
    | .wordEndHalf => !v
    | _ => false

def Look.bits (text : List Char) (l : Look) : Nat :=
  let set := match l with
    | .word unicode _ => wordSet unicode
    | _ => .empty
  bitsWhere (l.holds set.contains) (places [] text)

namespace Node

variable {κ ω κ' ω' : Type}

mutual

def map (f : κ → κ') (g : ω → ω') : Node κ ω → Node κ' ω'
  | empty => empty
  | one s => one (f s)
  | look l => look (g l)
  | capture n => capture (n.map f g)
  | seq ns => seq (mapAll f g ns)
  | alt ns => alt (mapAll f g ns)
  | rep low high n => rep low high (n.map f g)

def mapAll (f : κ → κ') (g : ω → ω') : List (Node κ ω) → List (Node κ' ω')
  | [] => []
  | n :: ns => n.map f g :: mapAll f g ns

end

end Node

/-- Applies a function a number of times, or until nothing changes. -/
def applyTimes (f : Nat → Nat) : Nat → Nat → Nat
  | 0, s => s
  | k + 1, s =>
    let t := f s
    if t = s then s else applyTimes f k t

/-- The union of what up to `k` applications of a function give. -/
def applyUpTo (f : Nat → Nat) : Nat → Nat → Nat
  | 0, s => s
  | k + 1, s =>
    let t := s ||| f s
    if t = s then s else applyUpTo f k t

mutual

/-- The places where a match from one of `s` can end, in a text with `count` places. The sets
and conditions of the node are given by the places at which they hold. -/
def Node.image (count : Nat) : Node Nat Nat → Nat → Nat
  | .empty, s => s
  | .one m, s => (s &&& m) <<< 1
  | .look m, s => s &&& m
  | .capture n, s => n.image count s
  | .seq ns, s => rowImage count ns s
  | .alt ns, s => branchImage count ns s
  | .rep low high n, s =>
    applyUpTo (n.image count) ((high.map (· - low)).getD count)
      (applyTimes (n.image count) low s)

def rowImage (count : Nat) : List (Node Nat Nat) → Nat → Nat
  | [], s => s
  | n :: ns, s => rowImage count ns (n.image count s)

def branchImage (count : Nat) : List (Node Nat Nat) → Nat → Nat
  | [], _ => 0
  | n :: ns, s => n.image count s ||| branchImage count ns s

end

/-- The places where matches from the places `s` of a text end. -/
def Node.ends (n : Meaning) (text : List Char) (s : Nat) : Nat :=
  (n.map (fun set => bitsWhere set.contains text) (Look.bits text)).image (text.length + 1) s

/-- Whether a node matches the whole of a text. -/
def Node.matchesWhole (n : Meaning) (text : List Char) : Bool :=
  (n.ends text 1).testBit text.length

/-- Whether a node matches some part of a text. -/
def Node.matchesPart (n : Meaning) (text : List Char) : Bool :=
  n.ends text (Nat.pow 2 (text.length + 1) - 1) != 0

end JobDispatch.Pattern

import JobDispatch.Pattern.Tree
import JobDispatch.Unicode.Folding
import JobDispatch.Unicode.Query

/-!
What a pattern matches: its tree with every class spelled out as a set of characters and every
anchor as a condition, under the flags that hold where it stands.
-/

namespace JobDispatch.Pattern

open Unicode (CharSet)

/-- Conditions on a place in a text. -/
inductive Look where
  | textStart
  | textEnd
  | lineStart (crlf : Bool)
  | lineEnd (crlf : Bool)
  | word (unicode : Bool) (a : Anchor)
  deriving DecidableEq, Repr

/-- Nodes, with a kind of set `κ` for their classes and a kind of condition `ω`. -/
inductive Node (κ ω : Type) where
  | empty
  | one (set : κ)
  | look (at_ : ω)
  | capture (n : Node κ ω)
  | seq (ns : List (Node κ ω))
  | alt (ns : List (Node κ ω))
  | rep (low : Nat) (high : Option Nat) (n : Node κ ω)

abbrev Meaning := Node CharSet Look

/-- The flags on which the meaning of a tree depends. -/
structure Flags where
  foldCase : Bool
  multiLine : Bool
  dotAll : Bool
  unicode : Bool
  crlf : Bool
  deriving DecidableEq, Repr

namespace Flags

def start : Flags := ⟨false, false, false, true, false⟩

def change (fl : Flags) (changes : List FlagChange) : Flags :=
  { foldCase := (changeOf .foldCase changes).getD fl.foldCase
    multiLine := (changeOf .multiLine changes).getD fl.multiLine
    dotAll := (changeOf .dotAll changes).getD fl.dotAll
    unicode := (changeOf .unicode changes).getD fl.unicode
    crlf := (changeOf .crlf changes).getD fl.crlf }

end Flags

/-! Classes -/

/-- A set closed under change of case. -/
def foldAscii (s : CharSet) : CharSet :=
  .unions [s,
    ⟨((s.inter (.range 0x41 0x5A)).ranges.map fun r => (r.1 + 32, r.2 + 32))⟩,
    ⟨((s.inter (.range 0x61 0x7A)).ranges.map fun r => (r.1 - 32, r.2 - 32))⟩]

def Flags.fold (fl : Flags) (s : CharSet) : CharSet :=
  if fl.foldCase then if fl.unicode then s.foldCase else foldAscii s else s

/-- The other characters, if asked for. Without `unicode` those would be bytes that are no text
on their own. -/
def Flags.negate (fl : Flags) (negated : Bool) (s : CharSet) : Option CharSet :=
  if negated then if fl.unicode then some s.compl else none else some s

/-- The class of a name from the days of seven bits. -/
def posixSet (name : List Char) : CharSet :=
  let ranges := match String.ofList name with
    | "alnum" => [(0x30, 0x39), (0x41, 0x5A), (0x61, 0x7A)]
    | "alpha" => [(0x41, 0x5A), (0x61, 0x7A)]
    | "ascii" => [(0, 0x7F)]
    | "blank" => [(9, 9), (0x20, 0x20)]
    | "cntrl" => [(0, 0x1F), (0x7F, 0x7F)]
    | "digit" => [(0x30, 0x39)]
    | "graph" => [(0x21, 0x7E)]
    | "lower" => [(0x61, 0x7A)]
    | "print" => [(0x20, 0x7E)]
    | "punct" => [(0x21, 0x2F), (0x3A, 0x40), (0x5B, 0x60), (0x7B, 0x7E)]
    | "space" => [(9, 13), (0x20, 0x20)]
    | "upper" => [(0x41, 0x5A)]
    | "word" => [(0x30, 0x39), (0x41, 0x5A), (0x5F, 0x5F), (0x61, 0x7A)]
    | "xdigit" => [(0x30, 0x39), (0x41, 0x46), (0x61, 0x66)]
    | _ => []
  ⟨ranges⟩

def wordSet (unicode : Bool) : CharSet :=
  if unicode then Unicode.wordChars else posixSet "word".toList

def shorthandSet (unicode : Bool) : Shorthand → CharSet
  | .digit => if unicode then Unicode.digits else posixSet "digit".toList
  | .space => if unicode then Unicode.spaces else posixSet "space".toList
  | .word => wordSet unicode

def propertySet (fl : Flags) (p : Property) : Option CharSet :=
  if fl.unicode then
    let set := match p.name with
      | .named name => Unicode.set? name
      | .valued name value => Unicode.valueSet? name value
    set.bind fun s => fl.negate p.negated (fl.fold s)
  else none

/-- The code point of a literal in a class, which without `unicode` has seven bits. -/
def classCode (fl : Flags) (l : Literal) : Option Nat :=
  if fl.unicode || l.char.toNat < 0x80 then some l.char.toNat else none

def combine : SetOp → CharSet → CharSet → CharSet
  | .intersection, s, t => s.inter t
  | .difference, s, t => s.diff t
  | .symmetricDifference, s, t => s.symmDiff t

mutual

def Members.set (fl : Flags) : Members → Option CharSet
  | .empty => some .empty
  | .literal l => (classCode fl l).map fun c => ⟨[(c, c)]⟩
  | .range a b => do return .range (← classCode fl a) (← classCode fl b)
  | .posix name negated => fl.negate negated (fl.fold (posixSet name))
  | .shorthand s negated => fl.negate negated (shorthandSet fl.unicode s)
  | .property p => propertySet fl p
  | .bracket negated ms => do fl.negate negated (fl.fold (← ms.set fl))
  | .union ms => (unionSets fl ms).map .unions
  | .op o left right => do return combine o (fl.fold (← left.set fl)) (fl.fold (← right.set fl))

def unionSets (fl : Flags) : List Members → Option (List CharSet)
  | [] => some []
  | m :: ms => do return (← m.set fl) :: (← unionSets fl ms)

end

/-! Nodes -/

namespace Node

variable {κ ω : Type}

def isEmpty : Node κ ω → Bool
  | empty => true
  | _ => false

/-- Nodes in a row. -/
def ofRow (ns : List (Node κ ω)) : Node κ ω :=
  match ns.filter fun n => !n.isEmpty with
  | [] => empty
  | [n] => n
  | ns => seq ns

/-- The sets of nodes that match one character each. -/
def sets? : List (Node κ ω) → Option (List κ)
  | [] => some []
  | one s :: ns => (sets? ns).map (s :: ·)
  | _ => none

mutual

/-- Whether a node matches nothing but the empty text. -/
def onlyEmpty : Node κ ω → Bool
  | empty => true
  | one _ => false
  | look _ => true
  | capture n => n.onlyEmpty
  | seq ns => allOnlyEmpty ns
  | alt ns => allOnlyEmpty ns
  | rep _ high n => high == some 0 || n.onlyEmpty

def allOnlyEmpty : List (Node κ ω) → Bool
  | [] => true
  | n :: ns => n.onlyEmpty && allOnlyEmpty ns

end

mutual

/-- Whether a node can match the empty text. -/
def canBeEmpty : Node κ ω → Bool
  | empty => true
  | one _ => false
  | look _ => true
  | capture n => n.canBeEmpty
  | seq ns => allCanBeEmpty ns
  | alt ns => someCanBeEmpty ns
  | rep low _ n => low == 0 || n.canBeEmpty

def allCanBeEmpty : List (Node κ ω) → Bool
  | [] => true
  | n :: ns => n.canBeEmpty && allCanBeEmpty ns

def someCanBeEmpty : List (Node κ ω) → Bool
  | [] => false
  | n :: ns => n.canBeEmpty || someCanBeEmpty ns

end

/-- A node repeated. What matches nothing but the empty text is not repeated more than once. -/
def ofRepeated (low : Nat) (high : Option Nat) (n : Node κ ω) : Node κ ω :=
  let (low, high) := if n.onlyEmpty then (min low 1, some ((high.map (min · 1)).getD 1))
    else (low, high)
  if high = some 0 then empty
  else if low = 1 ∧ high = some 1 then n
  else rep low high n

end Node

/-- Alternatives; those of one character each become one set. -/
def Node.ofBranches {ω : Type} (ns : List (Node CharSet ω)) : Node CharSet ω :=
  match Node.sets? ns with
  | some ss => .one (.unions ss)
  | none => .alt ns

def literalNode (fl : Flags) (l : Literal) : Option Meaning :=
  if !fl.unicode && l.byte && l.char.toNat ≥ 0x80 then none
  else some (.one (if fl.unicode || l.char.toNat < 0x80 then fl.fold (.singleton l.char)
    else .singleton l.char))

/-- The dot: all characters, or those that do not end a line. -/
def dotSet (fl : Flags) : CharSet :=
  if fl.dotAll then .all
  else CharSet.compl (if fl.crlf then ⟨[(10, 10), (13, 13)]⟩ else ⟨[(10, 10)]⟩)

def Anchor.look (fl : Flags) : Anchor → Look
  | .lineStart => if fl.multiLine then .lineStart fl.crlf else .textStart
  | .lineEnd => if fl.multiLine then .lineEnd fl.crlf else .textEnd
  | .textStart => .textStart
  | .textEnd => .textEnd
  | a => .word fl.unicode a

def Atom.node (fl : Flags) : Atom → Option Meaning
  | .literal l => literalNode fl l
  | .dot => if fl.unicode then some (.one (dotSet fl)) else none
  | .anchor a => some (.look (a.look fl))
  | .shorthand s negated => (fl.negate negated (shorthandSet fl.unicode s)).map .one
  | .property p => (propertySet fl p).map .one

mutual

/-- The node of a tree, and the flags that hold behind it. -/
def Tree.node (fl : Flags) : Tree → Option (Meaning × Flags)
  | .empty => some (.empty, fl)
  | .flags changes => some (.empty, fl.change changes)
  | .atom a => (a.node fl).map fun n => (n, fl)
  | .bracket negated ms => do return (.one (← fl.negate negated (fl.fold (← ms.set fl))), fl)
  | .repeated low high t => do
    let (n, fl) ← t.node fl
    return (.ofRepeated low high n, fl)
  | .group .capture t => do
    let (n, _) ← t.node fl
    return (.capture n, fl)
  | .group (.flagged changes) t => do
    let (n, _) ← t.node (fl.change changes)
    return (n, fl)
  | .concat ts => do
    let (ns, fl) ← nodes fl ts
    return (.ofRow ns, fl)
  | .alternation ts => do
    let (ns, fl) ← nodes fl ts
    return (.ofBranches ns, fl)

/-- The nodes of trees; each hands its flags on to the next. -/
def nodes (fl : Flags) : List Tree → Option (List Meaning × Flags)
  | [] => some ([], fl)
  | t :: ts => do
    let (n, fl) ← t.node fl
    let (ns, fl) ← nodes fl ts
    return (n :: ns, fl)

end

end JobDispatch.Pattern

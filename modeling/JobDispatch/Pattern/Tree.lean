/-!
Patterns as trees: what a pattern's text says, before the characters of its classes are known.
-/

namespace JobDispatch.Pattern

/-- The settings a pattern can change for the rest of a group. -/
inductive Flag where
  /-- letters match without regard to case -/
  | foldCase
  /-- line anchors match at every line -/
  | multiLine
  /-- the dot matches line ends, too -/
  | dotAll
  /-- quantifiers exchange greedy and lazy -/
  | swapGreed
  /-- classes are those of all characters -/
  | unicode
  /-- a line may end in a carriage return and a line feed -/
  | crlf
  /-- white space and comments are passed over -/
  | verbose
  deriving DecidableEq, Repr

def Flag.ofChar? : Char → Option Flag
  | 'i' => some foldCase
  | 'm' => some multiLine
  | 's' => some dotAll
  | 'U' => some swapGreed
  | 'u' => some unicode
  | 'R' => some crlf
  | 'x' => some verbose
  | _ => none

structure FlagChange where
  flag : Flag
  on : Bool
  deriving DecidableEq, Repr

/-- A character; `byte` tells whether it was written as two hexadecimal digits. -/
structure Literal where
  char : Char
  byte : Bool
  deriving DecidableEq, Repr

/-- Conditions on a place between characters. -/
inductive Anchor where
  | lineStart
  | lineEnd
  | textStart
  | textEnd
  | wordBound
  | notWordBound
  | wordStart
  | wordEnd
  | wordStartHalf
  | wordEndHalf
  deriving DecidableEq, Repr

inductive Shorthand where
  | digit
  | space
  | word
  deriving DecidableEq, Repr

inductive PropertyName where
  | named (name : List Char)
  | valued (property value : List Char)
  deriving DecidableEq, Repr

structure Property where
  name : PropertyName
  negated : Bool
  deriving DecidableEq, Repr

/-- The parts of a pattern that have no parts. -/
inductive Atom where
  | literal (l : Literal)
  | dot
  | anchor (a : Anchor)
  | shorthand (s : Shorthand) (negated : Bool)
  | property (p : Property)
  deriving DecidableEq, Repr

inductive SetOp where
  | intersection
  | difference
  | symmetricDifference
  deriving DecidableEq, Repr

/-- What stands between brackets. -/
inductive Members where
  | empty
  | literal (l : Literal)
  | range (first last : Literal)
  | posix (name : List Char) (negated : Bool)
  | shorthand (s : Shorthand) (negated : Bool)
  | property (p : Property)
  | bracket (negated : Bool) (ms : Members)
  | union (ms : List Members)
  | op (o : SetOp) (left right : Members)

inductive GroupKind where
  | capture
  | flagged (changes : List FlagChange)
  deriving DecidableEq, Repr

inductive Tree where
  | empty
  | flags (changes : List FlagChange)
  | atom (a : Atom)
  | bracket (negated : Bool) (ms : Members)
  | repeated (low : Nat) (high : Option Nat) (t : Tree)
  | group (kind : GroupKind) (t : Tree)
  | concat (ts : List Tree)
  | alternation (ts : List Tree)

/-- The last change of a flag, if there is one. -/
def changeOf (f : Flag) (changes : List FlagChange) : Option Bool :=
  (changes.find? fun c => c.flag = f).map FlagChange.on

mutual

def Members.depth : Members → Nat
  | .bracket _ ms => ms.depth + 1
  | .union ms => unionDepth ms + 1
  | .op _ left right => max left.depth right.depth + 1
  | _ => 0

def unionDepth : List Members → Nat
  | [] => 0
  | m :: ms => max m.depth (unionDepth ms)

end

mutual

/-- How deep the parts of a pattern are nested. -/
def Tree.depth : Tree → Nat
  | .bracket _ ms => ms.depth + 1
  | .repeated _ _ t => t.depth + 1
  | .group _ t => t.depth + 1
  | .concat ts => treesDepth ts + 1
  | .alternation ts => treesDepth ts + 1
  | _ => 0

def treesDepth : List Tree → Nat
  | [] => 0
  | t :: ts => max t.depth (treesDepth ts)

end

/-- Several trees in a row. -/
def Tree.ofRow : List Tree → Tree
  | [] => .empty
  | [t] => t
  | ts => .concat ts

/-- Several trees to choose from. -/
def Tree.ofBranches : List Tree → Tree
  | [] => .empty
  | [t] => t
  | ts => .alternation ts

def Members.ofList : List Members → Members
  | [] => .empty
  | [m] => m
  | ms => .union ms

end JobDispatch.Pattern

import JobDispatch.Pattern.Bracket

/-!
Reading patterns. The reader takes the items of a text one by one and keeps the groups that are
open in a list, so that what it does inside a group does not depend on what is around it.
-/

namespace JobDispatch.Pattern

/-- A row of trees with the finished alternatives before it, all newest first. -/
structure Level where
  branches : List Tree
  row : List Tree

namespace Level

def start : Level := ⟨[], []⟩

def push (l : Level) (t : Tree) : Level := { l with row := t :: l.row }

def bar (l : Level) : Level := ⟨.ofRow l.row.reverse :: l.branches, []⟩

def tree (l : Level) : Tree := .ofBranches (Tree.ofRow l.row.reverse :: l.branches).reverse

end Level

/-- An open group: its kind, the level it stands in, and the flag to return to behind it. -/
structure OpenGroup where
  kind : GroupKind
  outer : Level
  verbose : Bool

structure Reading where
  verbose : Bool
  names : List (List Char)
  groups : List OpenGroup
  level : Level

namespace Reading

def start : Reading := ⟨false, [], [], .start⟩

/-- Puts a quantifier on the last tree, which has to be more than a change of flags. -/
def quantify (low : Nat) (high : Option Nat) : List Tree → Option (List Tree)
  | [] => none
  | .empty :: _ => none
  | .flags _ :: _ => none
  | t :: ts => some (.repeated low high t :: ts)

def groupFlags : GroupKind → List FlagChange
  | .capture => []
  | .flagged changes => changes

/-- Takes in one item; fails where the item cannot stand, or repeats the name of a capture. -/
def take (r : Reading) : Item → Option Reading
  | .tree t => some { r with level := r.level.push t }
  | .flags changes =>
    some { r with
      verbose := (changeOf .verbose changes).getD r.verbose
      level := r.level.push (.flags changes) }
  | .bar => some { r with level := r.level.bar }
  | .quantifier low high =>
    (quantify low high r.level.row).map fun row => { r with level := { r.level with row := row } }
  | .opening kind name =>
    if name.any r.names.contains then none
    else some
      { verbose := (changeOf .verbose (groupFlags kind)).getD r.verbose
        names := name.toList ++ r.names
        groups := ⟨kind, r.level, r.verbose⟩ :: r.groups
        level := .start }
  | .closing =>
    match r.groups with
    | [] => none
    | g :: gs => some
      { r with
        verbose := g.verbose
        groups := gs
        level := g.outer.push (.group g.kind r.level.tree) }

/-- The tree of all that was read, if every group is closed. -/
def finish (r : Reading) : Option Tree :=
  match r.groups with
  | [] => some r.level.tree
  | _ :: _ => none

end Reading

/-- The item at the front of a text that is not empty. -/
def item (verbose : Bool) : List Char → Option (Item × List Char)
  | [] => none
  | c :: r =>
    match c with
    | '(' => groupStart verbose r
    | ')' => some (.closing, r)
    | '|' => some (.bar, r)
    | '[' => (bracket verbose r).map fun d => (.tree d.1, d.2)
    | '?' => some (.quantifier 0 (some 1), dropLazy r)
    | '*' => some (.quantifier 0 none, dropLazy r)
    | '+' => some (.quantifier 1 none, dropLazy r)
    | '{' => counted verbose r
    | '\\' => (escape verbose r).map fun d => (.tree (.atom d.1), d.2)
    | '.' => some (.tree (.atom .dot), r)
    | '^' => some (.tree (.atom (.anchor .lineStart)), r)
    | '$' => some (.tree (.atom (.anchor .lineEnd)), r)
    | c => some (.tree (.atom (.literal ⟨c, false⟩)), r)

/-- Takes in all items of a text. -/
def readItems (r : Reading) (s : List Char) : Option Reading :=
  match skip r.verbose s with
  | [] => some r
  | c :: cs =>
    match item r.verbose (c :: cs) with
    | none => none
    | some (i, rest) =>
      match r.take i with
      | none => none
      | some r' => if rest.length < s.length then readItems r' rest else none
termination_by s.length

/-- The depth to which the parts of a pattern may nest. -/
def maxDepth : Nat := 250

/-- The tree of a pattern's text. -/
def Tree.read (s : List Char) : Option Tree := do
  let r ← readItems .start s
  let t ← r.finish
  if t.depth ≤ maxDepth then return t else none

end JobDispatch.Pattern

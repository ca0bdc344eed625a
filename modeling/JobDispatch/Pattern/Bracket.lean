import JobDispatch.Pattern.Item

/-!
Classes in brackets. Brackets may be nested; between two rows of members may stand a set
operation, and the operations of one bracket group to the left.
-/

namespace JobDispatch.Pattern

/-- An open bracket: whether it takes the other characters, the members that stood before it in
the bracket around it (newest first), and the operation that waits for its right side. -/
structure OpenBracket where
  outer : List Members
  negated : Bool
  waiting : Option (SetOp × Members)

namespace OpenBracket

/-- The members of a bracket when `row` (newest first) are the last of them. -/
def members (b : OpenBracket) (row : List Members) : Members :=
  match b.waiting with
  | none => .ofList row.reverse
  | some (o, left) => .op o left (.ofList row.reverse)

/-- Makes all members so far the left side of an operation. -/
def operate (b : OpenBracket) (o : SetOp) (row : List Members) : OpenBracket :=
  { b with waiting := some (o, b.members row) }

end OpenBracket

def verbatim (c : Char) : Members := .literal ⟨c, false⟩

/-- The hyphens at the start of a bracket. -/
def leadingHyphens (verbose : Bool) (s : List Char) : List Members × List Char :=
  match _h : skip verbose s with
  | '-' :: r =>
    let d := leadingHyphens verbose r
    (verbatim '-' :: d.1, d.2)
  | r => ([], r)
termination_by s.length
decreasing_by
  have := skip_length verbose s
  rw [_h] at this
  simp only [List.length_cons] at this
  omega

/-- What follows an opening bracket: a caret takes the other characters, and hyphens, or else
one closing bracket, are members. -/
def bracketStart (verbose : Bool) (s : List Char) : Bool × List Members × List Char :=
  let (negated, s) := match skip verbose s with
    | '^' :: r => (true, r)
    | r => (false, r)
  match leadingHyphens verbose s with
  | ([], ']' :: r) => (negated, [verbatim ']'], r)
  | (hyphens, r) => (negated, hyphens, r)

def posixNames : List String :=
  ["alnum", "alpha", "ascii", "blank", "cntrl", "digit", "graph", "lower", "print", "punct",
    "space", "upper", "word", "xdigit"]

/-- A class of seven-bit characters by its name, behind its opening bracket. -/
def posix? (s : List Char) : Option (Members × List Char) :=
  match s with
  | ':' :: r =>
    let (negated, r) := match r with
      | '^' :: r => (true, r)
      | r => (false, r)
    let name := r.takeWhile (· != ':')
    match r.dropWhile (· != ':') with
    | ':' :: ']' :: rest =>
      if posixNames.contains (String.ofList name) then some (.posix name negated, rest) else none
    | _ => none
  | _ => none

/-- The first visible character behind a hyphen; one number sign is passed over as well. -/
def visible? (sign : Bool) : List Char → Option Char
  | [] => none
  | c :: r =>
    if Text.isBlank c then visible? sign r
    else if !sign && c == '#' then visible? true r
    else some c

/-- The character that decides whether a hyphen makes a range. -/
def behindHyphen (verbose : Bool) (s : List Char) : Option Char :=
  if verbose then (visible? false s).orElse fun _ => s.head? else s.head?

def member (verbose : Bool) : List Char → Option (Atom × List Char)
  | [] => none
  | '\\' :: r => escape verbose r
  | c :: r => some (.literal ⟨c, false⟩, r)

def Atom.members? : Atom → Option Members
  | literal l => some (.literal l)
  | shorthand s negated => some (.shorthand s negated)
  | property p => some (.property p)
  | _ => none

def rangeOf? : Atom → Atom → Option Members
  | .literal a, .literal b => if a.char ≤ b.char then some (.range a b) else none
  | _, _ => none

/-- A member of a bracket, or a range between two. -/
def memberOrRange (verbose : Bool) (s : List Char) : Option (Members × List Char) :=
  match member verbose s with
  | none => none
  | some (first, rest) =>
    match skip verbose rest with
    | [] => none
    | '-' :: r =>
      let c := behindHyphen verbose r
      if c = some ']' ∨ c = some '-' then first.members?.map fun m => (m, '-' :: r)
      else
        match member verbose (skip verbose r) with
        | none => none
        | some (last, rest) => (rangeOf? first last).map fun m => (m, rest)
    | r => first.members?.map fun m => (m, r)

inductive BracketStep where
  | member (m : Members)
  | opening (negated : Bool) (row : List Members)
  | closing
  | operator (o : SetOp)

/-- The next thing inside a bracket. -/
def bracketStep (verbose : Bool) (s : List Char) : Option (BracketStep × List Char) :=
  match s with
  | [] => none
  | '[' :: r =>
    match posix? r with
    | some (m, rest) => some (.member m, rest)
    | none =>
      let (negated, hyphens, rest) := bracketStart verbose r
      some (.opening negated hyphens, rest)
  | ']' :: r => some (.closing, r)
  | '&' :: '&' :: r => some (.operator .intersection, r)
  | '-' :: '-' :: r => some (.operator .difference, r)
  | '~' :: '~' :: r => some (.operator .symmetricDifference, r)
  | s => (memberOrRange verbose s).map fun d => (.member d.1, d.2)

/-- Reads on inside bracket `b`, which stands inside `outer`; `row` are its members since the
last operation, newest first. -/
def bracketRest (verbose : Bool) (b : OpenBracket) (outer : List OpenBracket)
    (row : List Members) (s : List Char) : Option (Tree × List Char) :=
  match bracketStep verbose (skip verbose s) with
  | none => none
  | some (step, rest) =>
    if rest.length < s.length then
      match step with
      | .member m => bracketRest verbose b outer (m :: row) rest
      | .opening negated hyphens =>
        bracketRest verbose ⟨row, negated, none⟩ (b :: outer) hyphens rest
      | .operator o => bracketRest verbose (b.operate o row) outer [] rest
      | .closing =>
        match outer with
        | [] => some (.bracket b.negated (b.members row), rest)
        | p :: outer =>
          bracketRest verbose p outer (.bracket b.negated (b.members row) :: b.outer) rest
    else none
termination_by s.length

/-- A class behind its opening bracket. -/
def bracket (verbose : Bool) (s : List Char) : Option (Tree × List Char) :=
  let (negated, hyphens, rest) := bracketStart verbose s
  bracketRest verbose ⟨[], negated, none⟩ [] hyphens rest

end JobDispatch.Pattern

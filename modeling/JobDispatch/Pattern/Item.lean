import JobDispatch.Pattern.Tree
import JobDispatch.Text.Blank
import JobDispatch.Text.Decimal
import JobDispatch.Unicode.Query

/-!
The items of a pattern's text: atoms, brackets, quantifiers and the marks of groups. Each reader
takes one thing from the front of a text and gives the rest; it fails where the text is no
pattern. `verbose` is the flag that passes over white space and comments.
-/

namespace JobDispatch.Pattern

inductive Item where
  | tree (t : Tree)
  | flags (changes : List FlagChange)
  /-- the start of a group, with the name of a capture that has one -/
  | opening (kind : GroupKind) (name : Option (List Char))
  | closing
  | bar
  | quantifier (low : Nat) (high : Option Nat)

/-! White space and comments -/

/-- Drops white space and comments; a comment goes from a number sign through the end of its
line. -/
def skipSpace (comment : Bool) : List Char → List Char
  | [] => []
  | c :: r =>
    if comment then skipSpace (c != '\n') r
    else if Text.isBlank c then skipSpace false r
    else if c = '#' then skipSpace true r
    else c :: r

def skip (verbose : Bool) (s : List Char) : List Char :=
  if verbose then skipSpace false s else s

theorem skipSpace_length (comment : Bool) (s : List Char) :
    (skipSpace comment s).length ≤ s.length := by
  induction s generalizing comment with
  | nil => simp [skipSpace]
  | cons c r ih =>
    have h (b : Bool) : (skipSpace b r).length ≤ (c :: r).length := by
      have := ih b
      simp only [List.length_cons]
      omega
    unfold skipSpace
    split
    · exact h _
    · split
      · exact h _
      · split
        · exact h _
        · simp

theorem skip_length (verbose : Bool) (s : List Char) : (skip verbose s).length ≤ s.length := by
  unfold skip
  split
  · exact skipSpace_length _ _
  · simp

/-! Escapes -/

def isHex (c : Char) : Bool :=
  c.isDigit || ('a' ≤ c && c ≤ 'f') || ('A' ≤ c && c ≤ 'F')

/-- The character of a row of hexadecimal digits. -/
def charOfHex? (ds : List Char) : Option Char :=
  let n := Unicode.ofHex ds
  if n.isValidChar then some (Char.ofNat n) else none

def hexDigits (verbose : Bool) : Nat → List Char → Option (List Char × List Char)
  | 0, s => some ([], s)
  | n + 1, s =>
    match skip verbose s with
    | [] => none
    | c :: r =>
      if isHex c then (hexDigits verbose n r).map fun d => (c :: d.1, d.2) else none

/-- The text up to a closing brace. -/
def braced (verbose : Bool) (s : List Char) : Option (List Char × List Char) :=
  match _h : skip verbose s with
  | [] => none
  | '}' :: r => some ([], r)
  | c :: r => (braced verbose r).map fun d => (c :: d.1, d.2)
termination_by s.length
decreasing_by
  have := skip_length verbose s
  rw [_h] at this
  simp only [List.length_cons] at this
  omega

/-- A character in hexadecimal digits: `count` of them, or any number in braces. -/
def hexChar (verbose : Bool) (count : Nat) (s : List Char) : Option (Literal × List Char) :=
  match skip verbose s with
  | '{' :: r => do
    let (ds, rest) ← braced verbose r
    if ds != [] && ds.all isHex then return (⟨← charOfHex? ds, false⟩, rest) else none
  | s => do
    let (ds, rest) ← hexDigits verbose count s
    return (⟨← charOfHex? ds, count = 2⟩, rest)

/-- What stands before and behind the first occurrence of a mark. -/
def splitAt? (mark : List Char) : List Char → Option (List Char × List Char)
  | [] => none
  | c :: r =>
    if mark.isPrefixOf (c :: r) then some ([], (c :: r).drop mark.length)
    else (splitAt? mark r).map fun d => (c :: d.1, d.2)

/-- The name of a property, of which `!=` asks for the other characters. -/
def propertyOf (negated : Bool) (name : List Char) : Property :=
  match splitAt? ['!', '='] name with
  | some (p, v) => ⟨.valued p v, !negated⟩
  | none =>
    match (splitAt? [':'] name).orElse fun _ => splitAt? ['='] name with
    | some (p, v) => ⟨.valued p v, negated⟩
    | none => ⟨.named name, negated⟩

def property (verbose negated : Bool) (s : List Char) : Option (Property × List Char) :=
  match skip verbose s with
  | [] => none
  | '{' :: r => (braced verbose r).map fun d => (propertyOf negated d.1, d.2)
  | '\\' :: _ => none
  | c :: r => some (⟨.named [c], negated⟩, r)

/-- The characters with a meaning of their own. -/
def isMeta (c : Char) : Bool :=
  ['\\', '.', '+', '*', '?', '(', ')', '|', '[', ']', '{', '}', '^', '$', '#', '&', '-',
    '~'].contains c

/-- The characters that stand for themselves behind a backslash. -/
def isEscapable (c : Char) : Bool :=
  isMeta c || (c.toNat < 0x80 && !c.isAlphanum && c != '<' && c != '>')

/-- A character written as an escape of its own. -/
def controlChar? : Char → Option Char
  | 'a' => some '\x07'
  | 'f' => some '\x0C'
  | 't' => some '\t'
  | 'n' => some '\n'
  | 'r' => some '\r'
  | 'v' => some '\x0B'
  | _ => none

def boundChar (c : Char) : Bool := c.isAlpha || c == '-'

/-- The kind of a word bound in braces. Where no name follows the brace, it is left to be a
quantifier. -/
def wordBound (verbose : Bool) (s : List Char) : Option (Anchor × List Char) :=
  match s with
  | '{' :: r =>
    match skip verbose r with
    | [] => none
    | c :: _ =>
      if boundChar c then
        match braced verbose r with
        | none => none
        | some (name, rest) =>
          if name = "start".toList then some (.wordStart, rest)
          else if name = "end".toList then some (.wordEnd, rest)
          else if name = "start-half".toList then some (.wordStartHalf, rest)
          else if name = "end-half".toList then some (.wordEndHalf, rest)
          else none
      else some (.wordBound, s)
  | s => some (.wordBound, s)

/-- An escape without its backslash. -/
def escape (verbose : Bool) : List Char → Option (Atom × List Char)
  | [] => none
  | c :: r =>
    match c with
    | 'x' => (hexChar verbose 2 r).map fun d => (.literal d.1, d.2)
    | 'u' => (hexChar verbose 4 r).map fun d => (.literal d.1, d.2)
    | 'U' => (hexChar verbose 8 r).map fun d => (.literal d.1, d.2)
    | 'p' => (property verbose false r).map fun d => (.property d.1, d.2)
    | 'P' => (property verbose true r).map fun d => (.property d.1, d.2)
    | 'd' => some (.shorthand .digit false, r)
    | 's' => some (.shorthand .space false, r)
    | 'w' => some (.shorthand .word false, r)
    | 'D' => some (.shorthand .digit true, r)
    | 'S' => some (.shorthand .space true, r)
    | 'W' => some (.shorthand .word true, r)
    | 'A' => some (.anchor .textStart, r)
    | 'z' => some (.anchor .textEnd, r)
    | 'b' => (wordBound verbose r).map fun d => (.anchor d.1, d.2)
    | 'B' => some (.anchor .notWordBound, r)
    | '<' => some (.anchor .wordStart, r)
    | '>' => some (.anchor .wordEnd, r)
    | c =>
      if isEscapable c then some (.literal ⟨c, false⟩, r)
      else (controlChar? c).map fun d => (.literal ⟨d, false⟩, r)

/-! Groups -/

/-- The changes of flags up to the colon or parenthesis behind them. `negated` and `dangling`
tell whether a hyphen stood before, and just before. -/
def flagChanges (negated dangling : Bool) (changes : List FlagChange) :
    List Char → Option (List FlagChange × List Char)
  | [] => none
  | c :: r =>
    if c = ':' ∨ c = ')' then if dangling then none else some (changes, c :: r)
    else if c = '-' then if negated then none else flagChanges true true changes r
    else match Flag.ofChar? c with
      | none => none
      | some f =>
        if changes.any fun g => g.flag = f then none
        else flagChanges negated false (changes ++ [⟨f, !negated⟩]) r

def isNameChar (first : Bool) (c : Char) : Bool :=
  if first then c == '_' || Unicode.alphabetic.contains c
  else c == '_' || c == '.' || c == '[' || c == ']' || Unicode.alphanumeric.contains c

/-- The name of a capture, which ends at an angle bracket and is not empty. -/
def captureName (first : Bool) : List Char → Option (List Char × List Char)
  | [] => none
  | c :: r =>
    if c = '>' then if first then none else some ([], r)
    else if isNameChar first c then (captureName false r).map fun d => (c :: d.1, d.2)
    else none

/-- What follows an opening parenthesis. -/
def groupStart (verbose : Bool) (s : List Char) : Option (Item × List Char) :=
  match skip verbose s with
  | '?' :: '=' :: _ => none
  | '?' :: '!' :: _ => none
  | '?' :: '<' :: '=' :: _ => none
  | '?' :: '<' :: '!' :: _ => none
  | '?' :: 'P' :: '<' :: r => (captureName true r).map fun d => (.opening .capture (some d.1), d.2)
  | '?' :: '<' :: r => (captureName true r).map fun d => (.opening .capture (some d.1), d.2)
  | '?' :: r =>
    match flagChanges false false [] r with
    | some ([], ')' :: _) => none
    | some (changes, ')' :: rest) => some (.flags changes, rest)
    | some (changes, _ :: rest) => some (.opening (.flagged changes) none, rest)
    | _ => none
  | rest => some (.opening .capture none, rest)

/-! Quantifiers -/

/-- Drops the question mark that makes a quantifier lazy. -/
def dropLazy : List Char → List Char
  | '?' :: r => r
  | s => s

/-- The digits at the front of a text. -/
def digitRow (verbose : Bool) (s : List Char) : List Char × List Char :=
  match s with
  | [] => ([], [])
  | c :: r =>
    if c.isDigit then
      let d := digitRow verbose (skip verbose r)
      (c :: d.1, d.2)
    else ([], c :: r)
termination_by s.length
decreasing_by
  have := skip_length verbose r
  simp only [List.length_cons]
  omega

/-- A count of at most 32 bits with white space around it. -/
def count (verbose : Bool) (s : List Char) : Option (Nat × List Char) :=
  let d := digitRow verbose (s.dropWhile Text.isBlank)
  let n := Text.ofDigits 0 d.1
  if d.1 != [] && n ≤ Text.maxHalfWord then
    some (n, (skip verbose d.2).dropWhile Text.isBlank)
  else none

/-- Ends a quantifier in braces. -/
def closeCount (verbose : Bool) (low : Nat) (high : Option Nat) :
    List Char → Option (Item × List Char)
  | '}' :: r =>
    if high.all fun h => low ≤ h then
      some (.quantifier low high, match skip verbose r with
        | '?' :: rest => rest
        | _ => r)
    else none
  | _ => none

/-- What follows an opening brace: a count, a least count, or a least and a largest one. -/
def counted (verbose : Bool) (s : List Char) : Option (Item × List Char) :=
  match count verbose (skip verbose s) with
  | none => none
  | some (low, ',' :: r) =>
    match skip verbose r with
    | '}' :: rest => closeCount verbose low none ('}' :: rest)
    | r =>
      match count verbose r with
      | none => none
      | some (high, rest) => closeCount verbose low (some high) rest
  | some (low, rest) => closeCount verbose low (some low) rest

end JobDispatch.Pattern

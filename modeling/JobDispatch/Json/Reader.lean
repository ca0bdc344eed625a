import JobDispatch.Json.Draft

/-!
Reading JSON texts. `Draft.read` gives the draft of the value that a text begins with and what
follows it; after a fault nothing follows.
-/

namespace JobDispatch.Draft

def isSpace (c : Char) : Bool := c = ' ' || c = '\n' || c = '\t' || c = '\r'

def skipSpace (s : List Char) : List Char := s.dropWhile isSpace

/-- A part of a quoted text: a character, or an escaped unit of 16 bits. -/
inductive Piece where
  | char (c : Char)
  | unit (n : Nat)

def hexValue (c : Char) : Option Nat :=
  if c.isDigit then some (c.toNat - 48)
  else if 'a' ≤ c && c ≤ 'f' then some (c.toNat - 87)
  else if 'A' ≤ c && c ≤ 'F' then some (c.toNat - 55)
  else none

def hexUnit (a b c d : Char) : Option Nat := do
  let a ← hexValue a
  let b ← hexValue b
  let c ← hexValue c
  let d ← hexValue d
  return ((a * 16 + b) * 16 + c) * 16 + d

/-- The pieces of a quoted text up to the closing quote, and what follows it. -/
def readPieces : List Char → Option (List Piece × List Char)
  | [] => none
  | '"' :: r => some ([], r)
  | '\\' :: 'u' :: a :: b :: c :: d :: r => do
    let n ← hexUnit a b c d
    let (ps, rest) ← readPieces r
    return (.unit n :: ps, rest)
  | '\\' :: e :: r => do
    let c ← match e with
      | '"' => some '"'
      | '\\' => some '\\'
      | '/' => some '/'
      | 'b' => some (Char.ofNat 8)
      | 'f' => some (Char.ofNat 12)
      | 'n' => some '\n'
      | 'r' => some '\r'
      | 't' => some '\t'
      | _ => none
    let (ps, rest) ← readPieces r
    return (.char c :: ps, rest)
  | c :: r =>
    if c = '\\' || c.toNat < 32 then none
    else do
      let (ps, rest) ← readPieces r
      return (.char c :: ps, rest)

def isHighHalf (n : Nat) : Bool := 0xD800 ≤ n && n < 0xDC00

def isLowHalf (n : Nat) : Bool := 0xDC00 ≤ n && n < 0xE000

/-- The characters that the pieces spell, two halves of a surrogate pair being one. -/
def joinPieces : List Piece → Option (List Char)
  | [] => some []
  | .char c :: r => (joinPieces r).map (c :: ·)
  | .unit n :: .unit m :: r =>
    if isHighHalf n then
      if isLowHalf m then
        (joinPieces r).map (Char.ofNat (0x10000 + (n - 0xD800) * 0x400 + (m - 0xDC00)) :: ·)
      else none
    else if isLowHalf n then none
    else (joinPieces (.unit m :: r)).map (Char.ofNat n :: ·)
  | .unit n :: r =>
    if isHighHalf n || isLowHalf n then none else (joinPieces r).map (Char.ofNat n :: ·)

/-- A text after its opening quote. -/
def readText (s : List Char) : Option (Option String × List Char) :=
  (readPieces s).map fun (ps, rest) => ((joinPieces ps).map String.ofList, rest)

/-- The fraction of a number, its point included; a point without digits is a fault. -/
def readFraction : List Char → Option (List Char × List Char)
  | '.' :: s =>
    let ds := s.takeWhile Char.isDigit
    if ds = [] then none else some (ds, s.dropWhile Char.isDigit)
  | s => some ([], s)

def readExponent : List Char → Option (Option (Bool × List Char) × List Char)
  | c :: s =>
    if c = 'e' || c = 'E' then
      let (negative, s) := match s with
        | '-' :: r => (true, r)
        | '+' :: r => (false, r)
        | r => (false, r)
      let ds := s.takeWhile Char.isDigit
      if ds = [] then none else some (some (negative, ds), s.dropWhile Char.isDigit)
    else some (none, c :: s)
  | [] => some (none, [])

def readNumber (s : List Char) : Option (Number × List Char) := do
  let (negative, s) := match s with
    | '-' :: r => (true, r)
    | r => (false, r)
  let whole := s.takeWhile Char.isDigit
  if whole = [] || (whole.head? = some '0' && whole.length ≠ 1) then none
  else
    let (fraction, rest) ← readFraction (s.dropWhile Char.isDigit)
    let (exponent, rest) ← readExponent rest
    return (⟨negative, whole, fraction, exponent⟩, rest)

/-- Whether a value other than a text starts here, with its own spelling intact. -/
def startsOther (s : List Char) : Bool :=
  match s with
  | 'n' :: 'u' :: 'l' :: 'l' :: _ => true
  | 't' :: 'r' :: 'u' :: 'e' :: _ => true
  | 'f' :: 'a' :: 'l' :: 's' :: 'e' :: _ => true
  | '[' :: _ | '{' :: _ => true
  | s => match readNumber s with
    | some (n, _) => !n.tooLarge
    | none => false

mutual

/-- The value at the head of a text. The first argument bounds the calls that follow. -/
def readValue : Nat → List Char → Draft × Option (List Char)
  | 0, _ => (broken, none)
  | fuel + 1, s =>
    match skipSpace s with
    | 'n' :: 'u' :: 'l' :: 'l' :: r => (null, some r)
    | 't' :: 'r' :: 'u' :: 'e' :: r => (bool true, some r)
    | 'f' :: 'a' :: 'l' :: 's' :: 'e' :: r => (bool false, some r)
    | '"' :: r =>
      match readText r with
      | some (t, rest) => (text t, some rest)
      | none => (broken, none)
    | '[' :: r =>
      match skipSpace r with
      | ']' :: rest => (list [] .closed, some rest)
      | _ =>
        let (items, ending, rest) := readItems fuel r
        (list items ending, rest)
    | '{' :: r =>
      match skipSpace r with
      | '}' :: rest => (record [] .closed, some rest)
      | _ =>
        let (fields, ending, rest) := readFields fuel r
        (record fields ending, rest)
    | s =>
      match readNumber s with
      | some (n, rest) => (number n, some rest)
      | none => (broken, none)

/-- One or more items, and the closing bracket. -/
def readItems : Nat → List Char → List Draft × Ending × Option (List Char)
  | 0, _ => ([], .cut, none)
  | fuel + 1, s =>
    match readValue fuel s with
    | (x, none) => ([x], .cut, none)
    | (x, some r) =>
      match skipSpace r with
      | ']' :: rest => ([x], .closed, some rest)
      | ',' :: r =>
        match skipSpace r with
        | ']' :: _ | [] => ([x], .cut, none)
        | r =>
          let (xs, ending, rest) := readItems fuel r
          (x :: xs, ending, rest)
      | _ => ([x], .cut, none)

/-- One or more fields, and the closing brace. -/
def readFields : Nat → List Char → List (Option String × Draft) × Ending × Option (List Char)
  | 0, _ => ([], .cut, none)
  | fuel + 1, s =>
    match skipSpace s with
    | '"' :: r =>
      match readText r with
      | none => ([], .cut, none)
      | some (name, r) =>
        match skipSpace r with
        | ':' :: r =>
          match readValue fuel r with
          | (v, none) => ([(name, v)], .cut, none)
          | (v, some r) =>
            match skipSpace r with
            | '}' :: rest => ([(name, v)], .closed, some rest)
            | ',' :: r =>
              let (fs, ending, rest) := readFields fuel r
              ((name, v) :: fs, ending, rest)
            | _ => ([(name, v)], .cut, none)
        | _ => ([(name, broken)], .cut, none)
    | s => ([], if startsOther s then .nameless else .cut, none)

end

/-- The draft at the head of a text and what follows it, absent after a fault. Each character
leads to at most two calls. -/
def read (s : List Char) : Draft × Option (List Char) := readValue (2 * s.length + 2) s

end JobDispatch.Draft

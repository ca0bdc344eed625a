import JobDispatch.Http.Form
import JobDispatch.Text.Decimal

/-!
Addresses of the schemes http and https: how a text is read as one, and the target that a request
for it has. Marks that cannot stand in a path or a query are percent-encoded, and the segments `.`
and `..` are followed.
-/

namespace JobDispatch.Http

/-- The query is absent where the text has no question mark. -/
structure Url where
  secure : Bool
  host : String
  port : Nat
  path : List Char
  query : Option (List Char)
  deriving DecidableEq, Repr

namespace Url

/-- The control characters and all characters outside ASCII. -/
def isOutside (c : Char) : Bool := c.toNat < 0x20 || 0x7E < c.toNat

def isPathEscaped (c : Char) : Bool :=
  isOutside c || [' ', '"', '#', '<', '>', '?', '\x60', '\x7b', '\x7d'].contains c

def isQueryEscaped (c : Char) : Bool :=
  isOutside c || [' ', '"', '#', '<', '>', '\''].contains c

def isSlash (c : Char) : Bool := c == '/' || c == '\\'

/-- A text without the control characters and blanks at its ends, and without tabs and line ends
anywhere. -/
def clean (s : List Char) : List Char :=
  let isEdge (c : Char) : Bool := c.toNat ≤ 0x20
  ((s.dropWhile isEdge).reverse.dropWhile isEdge).reverse.filter fun c =>
    c != '\t' && c != '\n' && c != '\r'

/-- The segments between the slashes of a path. -/
def split : List Char → List (List Char)
  | [] => [[]]
  | c :: r =>
    if isSlash c then [] :: split r
    else match split r with
      | [] => [[c]]
      | s :: ss => (c :: s) :: ss

def lowerAscii (s : List Char) : List Char := s.map Char.toLower

/-- Whether a segment stands for the place it is in. -/
def isHere (s : List Char) : Bool := s == ['.'] || lowerAscii s == "%2e".toList

/-- Whether a segment stands for the place above. -/
def isAbove (s : List Char) : Bool :=
  ["..", ".%2e", "%2e.", "%2e%2e"].any fun t => lowerAscii s == t.toList

/-- Follows the segments of a path; `done` are the segments so far, the last one first. -/
def follow (done : List (List Char)) : List (List Char) → List (List Char)
  | [] => done.reverse
  | [s] =>
    if isAbove s then ([] :: done.drop 1).reverse
    else if isHere s then ([] :: done).reverse
    else (percentEncode isPathEscaped s :: done).reverse
  | s :: ss =>
    if isAbove s then follow (done.drop 1) ss
    else if isHere s then follow done ss
    else follow (percentEncode isPathEscaped s :: done) ss

/-- The path that a text stands for; it begins with a slash. -/
def pathOf (s : List Char) : List Char :=
  let s := match s with
    | [] => []
    | c :: r => if isSlash c then r else c :: r
  (follow [] (split s)).flatMap ('/' :: ·)

/-- The marks that no host has. -/
def isForbidden (c : Char) : Bool :=
  isOutside c || [' ', '#', '%', '/', ':', '<', '>', '?', '@', '[', '\\', ']', '^', '|'].contains c

/-- A host by name or by address; an address of the sixth version stands in brackets. -/
def hostOf (s : List Char) : Option String :=
  match s with
  | '[' :: r =>
    let inside := r.dropLast
    let isPart (c : Char) : Bool := (hexValue? c).isSome || c == ':' || c == '.'
    if r.getLast? = some ']' ∧ inside.all isPart then
      some (String.ofList inside)
    else none
  | s =>
    match Text.decodeStrict (percentDecode s) with
    | some t => if t != [] && !t.any isForbidden then some (String.ofList (lowerAscii t)) else none
    | none => none

/-- A port; without digits it is the one of the scheme. -/
def portOf (secure : Bool) (s : List Char) : Option Nat :=
  if s = [] then some (if secure then 443 else 80)
  else (Text.readDigits s).filter (· ≤ 65535)

/-- The host and the port of an authority; a name and a password before the last at sign are left
out. -/
def authorityOf (secure : Bool) (s : List Char) : Option (String × Nat) :=
  let s := (s.reverse.takeWhile (· != '@')).reverse
  let host := match s with
    | '[' :: _ => s.takeWhile (· != ']') ++ [']']
    | s => s.takeWhile (· != ':')
  match s.drop host.length with
  | [] => do return (← hostOf host, ← portOf secure [])
  | ':' :: port => do return (← hostOf host, ← portOf secure port)
  | _ => none

def schemeOf (s : List Char) : Option Bool :=
  if lowerAscii s = "http".toList then some false
  else if lowerAscii s = "https".toList then some true
  else none

/-- Reads an address; a fragment is left out. -/
def read? (text : String) : Option Url := do
  let s := clean text.toList
  let secure ← schemeOf (s.takeWhile (· != ':'))
  let afterScheme := ((s.dropWhile (· != ':')).drop 1).dropWhile isSlash
  let endsAuthority (c : Char) : Bool := isSlash c || c == '?' || c == '#'
  let (host, port) ← authorityOf secure (afterScheme.takeWhile fun c => !endsAuthority c)
  let rest := (afterScheme.dropWhile fun c => !endsAuthority c).takeWhile (· != '#')
  let query := match rest.dropWhile (· != '?') with
    | [] => none
    | _ :: q => some (percentEncode isQueryEscaped q)
  return ⟨secure, host, port, pathOf (rest.takeWhile (· != '?')), query⟩

/-- An address with a form added to its query. -/
def withForm (u : Url) (f : Form) : Url :=
  match f, u.query with
  | [], none => u
  | [], some [] => { u with query := none }
  | [], some _ => u
  | f, none => { u with query := some f.encode }
  | f, some [] => { u with query := some f.encode }
  | f, some q => { u with query := some (q ++ '&' :: f.encode) }

/-- The path and the query of an address. -/
def target (u : Url) : List Char :=
  match u.query with
  | none => u.path
  | some q => u.path ++ '?' :: q

end Url

end JobDispatch.Http

/-!
Media types: the value of a content-type header.
-/

namespace JobDispatch.Http

structure MediaType where
  main : List Char
  /-- the subtype, without the suffix behind its last plus sign -/
  subtype : List Char
  suffix : Option (List Char)
  deriving DecidableEq, Repr

namespace MediaType

def isToken (c : Char) : Bool :=
  c.isAlphanum || "!#$%&'+-.^_\x60|~".toList.contains c

/-- The characters of a quoted value. -/
def isQuotable (c : Char) : Bool := c == '\t' || (0x20 ≤ c.toNat && c != '"' && c != '\x7F')

/-- What a quoted value leaves, up to the next parameter. -/
def afterQuoted : List Char → Option (List Char)
  | [] => some []
  | ';' :: r => some r
  | ' ' :: r => afterQuoted r
  | _ :: _ => none

/-- Takes the value of a parameter, which is a token or quoted. -/
def dropValue (s : List Char) : Option (List Char) :=
  match s with
  | '"' :: r =>
    match r.dropWhile isQuotable with
    | '"' :: rest => if r.head? = some '"' then none else afterQuoted rest
    | _ => none
  | s =>
    match s.dropWhile isToken with
    | [] => some []
    | ';' :: rest => if s.head? = some ';' then none else some rest
    | _ => none

/-- Whether a text is a list of parameters. -/
def areParameters (s : List Char) : Bool :=
  match _h : s.dropWhile (· == ' ') with
  | [] => true
  | c :: cs =>
    match (c :: cs).dropWhile isToken with
    | '=' :: r =>
      isToken c && match dropValue r with
        | none => false
        | some rest => if rest.length < s.length then areParameters rest else false
    | _ => false
termination_by s.length

def lower (s : List Char) : List Char := s.map Char.toLower

/-- Splits a subtype at its last plus sign, if something stands before that. -/
def splitSuffix (s : List Char) : List Char × Option (List Char) :=
  let suffix := (s.reverse.takeWhile (· != '+')).reverse
  let before := s.take (s.length - suffix.length - 1)
  if suffix.length < s.length && !before.isEmpty then (before, some suffix) else (s, none)

/-- Reads a media type, whose letters may be of either case. -/
def read? (s : String) : Option MediaType :=
  let main := s.toList.takeWhile isToken
  match s.toList.dropWhile isToken with
  | '/' :: r =>
    let sub := r.takeWhile isToken
    let ends := match r.dropWhile isToken with
      | [] => true
      | ';' :: ps => !sub.isEmpty && areParameters ps
      | ' ' :: ps => !sub.isEmpty && areParameters ps
      | _ => false
    let (subtype, suffix) := splitSuffix (lower sub)
    if !main.isEmpty && ends then some ⟨lower main, subtype, suffix⟩ else none
  | _ => none

/-- Whether a body of this type is JSON. -/
def isJson (m : MediaType) : Bool :=
  m.main == "application".toList &&
    (m.subtype == "json".toList || m.suffix == some "json".toList)

end MediaType

end JobDispatch.Http

import JobDispatch.Http.Percent

/-!
Forms: lists of names and values, written as the query of a target.
-/

namespace JobDispatch.Http

abbrev Form := List (String × String)

namespace Form

/-- The characters that stand for themselves in a written form. -/
def isPlain (c : Char) : Bool :=
  c.isAlphanum || c == '*' || c == '-' || c == '.' || c == '_'

/-- A name or a value: a blank is written as a plus sign, other bytes as percent signs. -/
def encodePart (s : String) : List Char :=
  s.toList.flatMap fun c =>
    if isPlain c then [c] else if c = ' ' then ['+'] else percentEncode (fun _ => true) [c]

def encode (f : Form) : List Char :=
  ['&'].intercalate (f.map fun p => encodePart p.1 ++ '=' :: encodePart p.2)

/-- Reads a name or a value; bytes that are no text become replacement characters. -/
def decodePart (s : List Char) : String :=
  String.ofList (Text.decodeLossy (percentDecode (s.map fun c => if c = '+' then ' ' else c)))

def decodePair (s : List Char) : String × String :=
  (decodePart (s.takeWhile (· != '=')), decodePart ((s.dropWhile (· != '=')).drop 1))

/-- Reads a form; nothing between two ampersands is passed over. -/
def decode (s : List Char) : Form := ((s.splitOn '&').filter (· != [])).map decodePair

/-- The value of a name, if it has one; fails where the name comes twice. -/
def field? (f : Form) (name : String) : Option (Option String) :=
  match f.filter fun p => p.1 == name with
  | [] => some none
  | [p] => some (some p.2)
  | _ => none

/-- The value of a name, read by `read`; fails where the name comes twice, or has a value that
cannot be read. -/
def read? {α : Type} (f : Form) (name : String) (read : String → Option α) :
    Option (Option α) :=
  match field? f name with
  | none => none
  | some none => some none
  | some (some s) => (read s).map some

end Form

end JobDispatch.Http

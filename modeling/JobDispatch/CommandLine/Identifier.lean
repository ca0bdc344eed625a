import JobDispatch.Http.Percent
import JobDispatch.Text.Blank
import JobDispatch.Unicode.Lowercase

/-!
Identities as people type them: all of one, in any of its usual spellings, or the beginning of
one.
-/

namespace JobDispatch.CommandLine

inductive Identifier where
  /-- an identity, in its usual spelling -/
  | full (text : String)
  /-- the beginning of an identity, in lower case -/
  | leading (text : String)
  deriving DecidableEq, Repr

namespace Identifier

/-- The lengths of the groups of digits in an identity. -/
def groups : List Nat := [8, 4, 4, 4, 12]

/-- Splits digits into groups. -/
def cut : List Nat → List Char → List (List Char)
  | [], _ => []
  | n :: ns, s => s.take n :: cut ns (s.drop n)

def spell (digits : List Char) : String :=
  String.ofList (['-'].intercalate (cut groups (digits.map Char.toLower)))

def areDigits (s : List Char) : Bool := s.all fun c => (Http.hexValue? c).isSome

/-- The digits of an identity with hyphens between the groups. -/
def hyphenated? (s : List Char) : Option (List Char) :=
  let parts := s.splitOn '-'
  if parts.map List.length = groups ∧ parts.all areDigits then some parts.flatten else none

/-- The text inside braces or behind the mark of a uniform name. -/
def unwrap (s : List Char) : List Char :=
  let inside := (s.drop 1).dropLast
  if s = '\x7b' :: inside ++ ['\x7d'] then inside
  else if s.take 9 = "urn:uuid:".toList ∨ s.take 9 = "URN:UUID:".toList then s.drop 9
  else s

def digits? (s : List Char) : Option (List Char) :=
  if s.length = 32 ∧ areDigits s then some s else hyphenated? (unwrap s)

def ofText (text : String) : Identifier :=
  let s := Text.trim text
  match digits? s.toList with
  | some digits => full (spell digits)
  | none => leading (Unicode.lower s)

def text : Identifier → String
  | full t => t
  | leading t => t

end Identifier

end JobDispatch.CommandLine

import JobDispatch.Json.Number

/-!
JSON values and their two written forms: compact, and on lines with an indentation of two.
-/

namespace JobDispatch

inductive Json where
  | null
  | bool (b : Bool)
  | number (n : Number)
  | text (s : String)
  | list (items : List Json)
  | record (fields : List (String × Json))
  deriving Inhabited

namespace Json

open Text

def int (i : Int) : Json := number (.ofInt i)

def hexDigit (n : Nat) : Char :=
  if n < 10 then Char.ofNat (48 + n) else Char.ofNat (87 + n)

/-- A character as it stands between quotes. -/
def escape (c : Char) : List Char :=
  if c = '"' then ['\\', '"']
  else if c = '\\' then ['\\', '\\']
  else if c.toNat = 8 then ['\\', 'b']
  else if c.toNat = 9 then ['\\', 't']
  else if c.toNat = 10 then ['\\', 'n']
  else if c.toNat = 12 then ['\\', 'f']
  else if c.toNat = 13 then ['\\', 'r']
  else if c.toNat < 32 then
    ['\\', 'u', '0', '0', hexDigit (c.toNat / 16), hexDigit (c.toNat % 16)]
  else [c]

def quote (s : String) : List Char := '"' :: s.toList.flatMap escape ++ ['"']

mutual

/-- The compact form. -/
def write : Json → List Char
  | null => "null".toList
  | bool true => "true".toList
  | bool false => "false".toList
  | number n => n.write
  | text s => quote s
  | list [] => ['[', ']']
  | list (x :: xs) => '[' :: write x ++ writeItems xs
  | record [] => ['{', '}']
  | record ((k, v) :: fs) => '{' :: quote k ++ ':' :: write v ++ writeFields fs

/-- The items after the first, and the closing bracket. -/
def writeItems : List Json → List Char
  | [] => [']']
  | x :: xs => ',' :: write x ++ writeItems xs

/-- The fields after the first, and the closing brace. -/
def writeFields : List (String × Json) → List Char
  | [] => ['}']
  | (k, v) :: fs => ',' :: quote k ++ ':' :: write v ++ writeFields fs

end

def newLine (depth : Nat) : List Char := '\n' :: List.replicate (2 * depth) ' '

mutual

/-- The form on lines, within `depth` containers. -/
def writeLines (depth : Nat) : Json → List Char
  | null => "null".toList
  | bool true => "true".toList
  | bool false => "false".toList
  | number n => n.write
  | text s => quote s
  | list [] => ['[', ']']
  | list (x :: xs) =>
    '[' :: newLine (depth + 1) ++ writeLines (depth + 1) x ++ writeItemLines depth xs
  | record [] => ['{', '}']
  | record ((k, v) :: fs) =>
    '{' :: newLine (depth + 1) ++ quote k ++ ':' :: ' ' :: writeLines (depth + 1) v ++
      writeFieldLines depth fs

def writeItemLines (depth : Nat) : List Json → List Char
  | [] => newLine depth ++ [']']
  | x :: xs =>
    ',' :: newLine (depth + 1) ++ writeLines (depth + 1) x ++ writeItemLines depth xs

def writeFieldLines (depth : Nat) : List (String × Json) → List Char
  | [] => newLine depth ++ ['}']
  | (k, v) :: fs =>
    ',' :: newLine (depth + 1) ++ quote k ++ ':' :: ' ' :: writeLines (depth + 1) v ++
      writeFieldLines depth fs

end

def compact (j : Json) : String := String.ofList j.write

def pretty (j : Json) : String := String.ofList (j.writeLines 0)

def ofNat (n : Nat) : Json := .int n

def ofOption {α : Type} (f : α → Json) : Option α → Json
  | none => null
  | some a => f a

def ofList {α : Type} (f : α → Json) (xs : List α) : Json := list (xs.map f)

/-- The value of the last field of a name. -/
def field? (name : String) : Json → Option Json
  | record fs => (fs.reverse.find? fun f => f.1 == name).map Prod.snd
  | _ => none

end Json

end JobDispatch

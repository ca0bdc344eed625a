import JobDispatch.Unicode.Age
import JobDispatch.Unicode.Break
import JobDispatch.Unicode.Category
import JobDispatch.Unicode.Property.Emoji
import JobDispatch.Unicode.Property.Graphemes
import JobDispatch.Unicode.Property.Identifiers
import JobDispatch.Unicode.Property.Letters
import JobDispatch.Unicode.Property.Signs
import JobDispatch.Unicode.Script
import JobDispatch.Unicode.ScriptExtension

/-!
Sets of characters by the names of their properties. Case, blanks, underscores and hyphens in a
name do not count, and neither does "is" in front of it.
-/

namespace JobDispatch.Unicode

/-- What remains of a name when all that does not count is taken away. -/
def looseName (s : List Char) : String :=
  let body := match s with
    | i :: j :: r => if (i = 'i' ∨ i = 'I') ∧ (j = 's' ∨ j = 'S') then r else s
    | _ => s
  let kept := body.filter fun c => c.toNat < 0x80 && c != ' ' && c != '_' && c != '-'
  let kept := kept.map Char.toLower
  if kept == ['c'] && body.length < s.length then "isc" else String.ofList kept

/-- The groups of general categories. -/
def categoryGroups : List (List String × List String) := [
  (["l", "letter"], ["lu", "ll", "lt", "lm", "lo"]),
  (["lc", "casedletter"], ["lu", "ll", "lt"]),
  (["m", "mark", "combiningmark"], ["mn", "mc", "me"]),
  (["n", "number"], ["nd", "nl", "no"]),
  (["p", "punctuation", "punct"], ["pc", "pd", "ps", "pe", "pi", "pf", "po"]),
  (["s", "symbol"], ["sm", "sc", "sk", "so"]),
  (["z", "separator"], ["zs", "zl", "zp"]),
  (["c", "other"], ["cc", "cf", "co", "cn"])]

def assigned : CharSet := (NamedSet.all categories ["cn"]).compl

/-- A general category, a group of them, or one of three sets named like categories. -/
def category? (name : String) : Option CharSet :=
  match name with
  | "any" => some .all
  | "assigned" => some assigned
  | "ascii" => some .ascii
  | _ =>
    match categoryGroups.find? fun g => g.1.contains name with
    | some g => some (NamedSet.all categories g.2)
    | none => NamedSet.find? categories name

def script? (name : String) : Option CharSet := NamedSet.find? scripts name

def scriptExtension? (name : String) : Option CharSet :=
  (NamedSet.find? scriptExtensions name).orElse fun _ => script? name

/-- The characters assigned in a version or before it. -/
def age? (name : String) : Option CharSet :=
  let newer := ages.dropWhile fun n => !n.names.contains name
  if newer.isEmpty then none
  else some (.unions ((ages.take (ages.length - newer.length + 1)).map NamedSet.set))

/-- A property that a character has or has not. -/
def binary? (name : String) : Option CharSet :=
  NamedSet.find? (letterProperties ++ identifierProperties ++ emojiProperties ++
    graphemeProperties ++ signProperties) name

/-- The set of a name on its own: a property, a general category or a script. -/
def set? (name : List Char) : Option CharSet :=
  let name := looseName name
  ((binary? name).orElse fun _ => category? name).orElse fun _ => script? name

/-- The set of the characters for which a property has a value. -/
def valueSet? (property value : List Char) : Option CharSet :=
  let value := looseName value
  match looseName property with
  | "gc" | "generalcategory" => category? value
  | "sc" | "script" => script? value
  | "scx" | "scriptextensions" => scriptExtension? value
  | "age" => age? value
  | "gcb" | "graphemeclusterbreak" => NamedSet.find? graphemeBreaks value
  | "wb" | "wordbreak" => NamedSet.find? wordBreaks value
  | "sb" | "sentencebreak" => NamedSet.find? sentenceBreaks value
  | _ => none

/-- Decimal digits. -/
def digits : CharSet := NamedSet.all categories ["nd"]

/-- White space. -/
def spaces : CharSet := NamedSet.all signProperties ["whitespace"]

def alphabetic : CharSet := NamedSet.all letterProperties ["alphabetic"]

/-- The characters words are made of. -/
def wordChars : CharSet :=
  .unions [alphabetic, NamedSet.all categories ["mn", "mc", "me", "nd", "pc"],
    NamedSet.all graphemeProperties ["joincontrol"]]

/-- Letters and numbers. -/
def alphanumeric : CharSet := .unions [alphabetic, NamedSet.all categories ["nd", "nl", "no"]]

end JobDispatch.Unicode

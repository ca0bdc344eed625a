import JobDispatch.Shell.Arithmetic
import JobDispatch.Shell.Utility

/-!
Sessions of scripts: their variables, what they are given to read, and what they write. Words are
replaced by fields with the values of a session.
-/

namespace JobDispatch.Shell

/-- Where a channel leads: what is written is noted under the number of its target. -/
abbrev Target := Nat

namespace Target

def discard : Target := 0

def out : Target := 1

def err : Target := 2

end Target

/-- Where what is written goes. -/
structure Channels where
  out : Target
  err : Target
  deriving DecidableEq, Repr

structure Session where
  name : String
  operands : List String
  /-- the variables with their values -/
  bindings : List (String × String)
  /-- the status of the last command -/
  status : Nat
  input : List UInt8
  /-- what was written, the last first -/
  written : List (Target × List UInt8)
  /-- a target that is not in use -/
  fresh : Target
  /-- whether a failure that nobody asks about ends the script -/
  strict : Bool
  /-- what went wrong with the words of a command -/
  trouble : Option String
  deriving DecidableEq, Repr

abbrev SessionM := StateM Session

/-- How a command ends: it is gone on behind it, or behind some loops around it, or the script
ends. -/
inductive Flow where
  | next
  | leave (loops : Nat)
  | again (loops : Nat)
  | exit
  /-- the script is killed -/
  | killed
  deriving DecidableEq, Repr

namespace Session

def start (name : String) (operands : List String) (input : List UInt8) : Session :=
  ⟨name, operands, [], 0, input, [], 3, false, none⟩

def writtenTo (s : Session) (t : Target) : List UInt8 :=
  (s.written.reverse.filter fun w => w.1 == t).flatMap Prod.snd

def write (t : Target) (bs : List UInt8) : SessionM Unit := modify fun s =>
  if bs.isEmpty || t = .discard then s else { s with written := (t, bs) :: s.written }

def setStatus (n : Nat) : SessionM Unit := modify fun s => { s with status := n % 256 }

def assign (name value : String) : SessionM Unit := modify fun s =>
  { s with bindings := (name, value) :: s.bindings.filter fun v => v.1 != name }

/-- What an action writes to a new target, which it is given. -/
def captured {α : Type} (act : Target → SessionM α) : SessionM (α × List UInt8) := fun s =>
  let (a, t) := act s.fresh { s with written := [], fresh := s.fresh + 1 }
  let others := t.written.filter fun w => w.1 != s.fresh
  ((a, t.writtenTo s.fresh), { t with written := others ++ s.written, fresh := s.fresh })

/-- Does something in a session of its own, of which only what is written remains. -/
def apart {α : Type} (act : SessionM α) : SessionM (α × Nat) := fun s =>
  let (a, t) := act s
  ((a, t.status), { s with written := t.written })

/-- The number that a session has among all that run. -/
def process : String := "2"

/-- The value of a parameter; those of all operands are joined. -/
def value? (s : Session) (name : String) : Option String :=
  match name with
  | "@" => some (" ".intercalate s.operands)
  | "*" => some (" ".intercalate s.operands)
  | "#" => some (Text.decimal s.operands.length)
  | "?" => some (Text.decimal s.status)
  | "$" => some process
  | "!" => none
  | "-" => some ""
  | "0" => some s.name
  | _ =>
    match Text.readDigits name.toList with
    | some n => s.operands[n - 1]?
    | none => s.bindings.lookup name

def number (s : Session) (name : String) : Int :=
  match (s.value? name).map String.toList with
  | none => 0
  | some cs => ((Printing.readNumber cs).map Prod.fst).getD 0

end Session

/-- Fields as they come about; the last one may still grow. -/
structure Fields where
  closed : List (List Char)
  growing : Option (List Char)

namespace Fields

def nothing : Fields := ⟨[], none⟩

def extend (f : Fields) (cs : List Char) : Fields :=
  { f with growing := some (f.growing.getD [] ++ cs) }

def close (f : Fields) : Fields := ⟨f.closed ++ f.growing.toList, none⟩

def isSeparator (c : Char) : Bool := c = ' ' || c = '\t' || c = '\n'

/-- Takes in a value that is split where it has separators. -/
def split (f : Fields) : List Char → Fields
  | [] => f
  | c :: cs => (if isSeparator c then f.close else f.extend [c]).split cs

/-- Takes in values between which fields end. -/
def extendAll (f : Fields) (take : Fields → List Char → Fields) : List String → Fields
  | [] => f
  | [s] => take f s.toList
  | s :: rest => extendAll (take f s.toList).close take rest

end Fields

/-- How the output of a script is found. -/
abbrev Substitute := List Char → SessionM (List UInt8)

namespace Word

/-- The text of an output, without the line ends behind it. -/
def outputText (bs : List UInt8) : List Char :=
  ((Text.decodeLossy bs).reverse.dropWhile (· = '\n')).reverse

variable (substitute : Substitute)

/-- What a parameter is replaced by: a value, or a text that is looked at in turn. -/
def resolve (s : Session) (name : String) (fallback : Fallback) : List Char × Bool :=
  let value := ((s.value? name).getD "").toList
  let isSet (whenEmpty : Bool) := (s.value? name).isSome && !(whenEmpty && value.isEmpty)
  match fallback with
  | .nothing => (value, false)
  | .use whenEmpty text => if isSet whenEmpty then (value, false) else (text, true)
  | .instead whenEmpty text => if isSet whenEmpty then (text, true) else ([], false)
  | .length => (Text.digits (Text.utf8 value).length, false)

/-- The text that a part is replaced by; parts stand in each other up to a depth. -/
def partText : Nat → Part → SessionM (List Char)
  | 0, _ => return []
  | depth + 1, p => do
    let replaced (cs : List Char) : SessionM (List Char) := do
      let parts := (Token.insideQuotes cs.length cs).toOption.getD []
      return (← parts.mapM (partText depth)).flatten
    match p with
    | .text cs => return cs
    | .quoted cs => return cs
    | .parameter name fallback _ => do
      let (cs, again) := resolve (← get) name fallback
      if again then replaced cs else return cs
    | .arithmetic cs _ => do
      let sum ← replaced cs
      match Arithmetic.value (← get).number sum with
      | .ok n => return (Text.signedDecimal n).toList
      | .error flaw => do
        let text := "arithmetic expression: " ++ flaw.message ++ ": \"" ++ String.ofList sum ++ "\""
        modify fun s => { s with trouble := s.trouble.or (some text) }
        return []
    | .output script _ => do return outputText (← substitute script)

/-- How deep parts stand in each other. -/
def depth : Nat := 16

/-- Takes the parts of a word into fields. -/
def intoFields (f : Fields) : List Part → SessionM Fields
  | [] => return f
  | p :: ps => do
    let take : Fields → List Char → Fields :=
      if p.splits then Fields.split else Fields.extend
    let f ← match p with
      | .parameter "@" .nothing _ => do pure (f.extendAll take (← get).operands)
      | p => do pure (take f (← partText substitute depth p))
    intoFields f ps

/-- The fields that words are replaced by. -/
def fields : List Word → SessionM (List String)
  | [] => return []
  | w :: ws => do
    let f ← intoFields substitute .nothing w
    return f.close.closed.map String.ofList ++ (← fields ws)

/-- A word as one text. -/
def text (w : Word) : SessionM String := do
  return String.ofList (← w.mapM (partText substitute depth)).flatten

end Word

end JobDispatch.Shell

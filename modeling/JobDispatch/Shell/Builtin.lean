import JobDispatch.Shell.Command
import JobDispatch.Shell.Session

/-!
Commands that a session carries out itself.
-/

namespace JobDispatch.Shell

/-- What a command of a session writes, with its status, and how the script goes on. -/
structure Done where
  status : Nat
  out : List UInt8
  err : List UInt8
  flow : Flow

namespace Done

def quiet (status : Nat) : Done := ⟨status, [], [], .next⟩

def ofExecution (e : Execution) : Done := ⟨e.status.getD 0, e.out, e.err, .next⟩

/-- A command that only complains. -/
def complaint (status : Nat) (text : String) : Done := ⟨status, [], bytesOf (text ++ "\n"), .next⟩

end Done

/-- How a session begins what it says. -/
def Session.speaker (s : Session) : String := s.name ++ ": 1: "

namespace Condition

def readNumber (s : String) : Except String Int :=
  match Text.readInt Text.minSigned Text.maxSigned (Text.trim s) with
  | some n => .ok n
  | none => .error ("Illegal number: " ++ s)

/-- A condition on one text. -/
def unary (sign s : String) : Except String Bool :=
  match sign with
  | "-n" => .ok (s != "")
  | "-z" => .ok (s == "")
  | "-d" => .ok (Place.ofPath s == .directory)
  | "-f" => .ok (Place.ofPath s != .directory && isThere s)
  | "-t" => .ok false
  | "-h" => .ok false
  | "-L" => .ok false
  | _ =>
    if ["-e", "-r", "-w", "-x", "-s"].contains sign then .ok (isThere s)
    else .error (sign ++ ": unexpected operator")
where
  isThere (s : String) : Bool := Place.ofPath s != .missing && Place.ofPath s != .beyondFile

/-- A condition on two texts, if there is one of that sign. -/
def binary? (a sign b : String) : Option (Except String Bool) :=
  let numbers (holds : Int → Int → Bool) : Except String Bool := do
    return holds (← readNumber a) (← readNumber b)
  match sign with
  | "=" => some (.ok (a == b))
  | "!=" => some (.ok (a != b))
  | "<" => some (.ok (decide (a < b)))
  | ">" => some (.ok (decide (b < a)))
  | "-eq" => some (numbers (· == ·))
  | "-ne" => some (numbers (· != ·))
  | "-lt" => some (numbers (· < ·))
  | "-le" => some (numbers (· ≤ ·))
  | "-gt" => some (numbers (· > ·))
  | "-ge" => some (numbers (· ≥ ·))
  | _ => none

/-- Whether up to `room` words hold as a condition. -/
def holdsWithin : Nat → List String → Except String Bool
  | 0, _ => .ok false
  | _, [] => .ok false
  | _, [s] => .ok (s != "")
  | room + 1, "!" :: ws => do return !(← holdsWithin room ws)
  | _, [sign, s] => unary sign s
  | room + 1, a :: sign :: b :: ws =>
    match binary? a sign b, ws with
    | some r, [] => r
    | some r, "-a" :: ws => do return (← r) && (← holdsWithin room ws)
    | some r, "-o" :: ws => do return (← r) || (← holdsWithin room ws)
    | none, [] => .error (sign ++ ": unexpected operator")
    | _, _ =>
      if sign = "-a" then do return a != "" && (← holdsWithin room (b :: ws))
      else if sign = "-o" then do return a != "" || (← holdsWithin room (b :: ws))
      else if b = "-a" then do return (← unary a sign) && (← holdsWithin room ws)
      else if b = "-o" then do return (← unary a sign) || (← holdsWithin room ws)
      else .error (sign ++ ": unexpected operator")

/-- Whether words hold as a condition. -/
def holds (ws : List String) : Except String Bool := holdsWithin ws.length ws

/-- Tests words; `name` is the command that does. -/
def test (speaker name : String) (ws : List String) : Done :=
  match holds ws with
  | .ok b => .quiet (if b then 0 else 1)
  | .error text => .complaint 2 (speaker ++ name ++ ": " ++ text)

end Condition

/-- How a session's own printf speaks. -/
def PrintfStyle.builtin (speaker : String) : PrintfStyle where
  format := ⟨false, false, true, false⟩
  operand := ⟨true, false, true, true⟩
  speaker := speaker ++ "printf"
  quote s := s
  noNumber := "expected numeric value"
  partlyNumber := "not completely converted"
  badDirective := "invalid directive"
  noFormat := speaker ++ "printf: usage: printf format [arg ...]\n"
  noFormatStatus := 2
  warns := false

def builtinEcho (args : List String) : Execution :=
  let escapes : EscapeRules := ⟨true, false, true, true⟩
  match args with
  | "-n" :: args => Utility.echoIn ⟨false, some escapes⟩ args
  | args => Utility.echoIn ⟨true, some escapes⟩ args

namespace Builtin

/-- A number that an operand names, or another one where there is none. -/
def count (standard : Nat) : List String → Option Nat
  | [] => some standard
  | s :: _ => Text.readDigits s.toList

/-- Ends a script, with the last status where none is given. -/
def exit (s : Session) (args : List String) : Done :=
  match count s.status args with
  | some n => { Done.quiet n with flow := .exit }
  | none =>
    { Done.complaint 2 (s.speaker ++ "exit: Illegal number: " ++ args.headD "") with flow := .exit }

/-- Sends a signal; one to the session itself ends it. -/
def kill (s : Session) (args : List String) : Done :=
  let targets := args.filter fun a => !a.startsWith "-"
  if targets.contains Session.process then
    if args.contains "-0" then .quiet 0 else { Done.quiet 0 with flow := .killed }
  else .complaint 1 (s.speaker ++ "kill: No such process")

/-- Takes the first line off an input; the second part tells whether its end was there. -/
def takeLine (input : List UInt8) : List UInt8 × Bool × List UInt8 :=
  let line := input.takeWhile (· != 0x0A)
  match input.drop line.length with
  | [] => (line, false, [])
  | _ :: rest => (line, true, rest)

def isFieldSpace (c : Char) : Bool := c = ' ' || c = '\t'

/-- Gives the words of a line to names; the last name takes what is left. -/
def assignWords : List String → List Char → SessionM Unit
  | [], _ => return
  | [name], cs =>
    let cs := cs.dropWhile isFieldSpace
    Session.assign name (String.ofList (cs.reverse.dropWhile isFieldSpace).reverse)
  | name :: names, cs => do
    let cs := cs.dropWhile isFieldSpace
    Session.assign name (String.ofList (cs.takeWhile (!isFieldSpace ·)))
    assignWords names (cs.dropWhile (!isFieldSpace ·))

def readLine (args : List String) : SessionM Done := do
  let (line, complete, rest) := takeLine (← get).input
  modify fun s => { s with input := rest }
  assignWords (args.filter (· != "-r")) (Text.decodeLossy line)
  return .quiet (if complete then 0 else 1)

/-- Makes words the operands of a session, unless they are options; the option e makes it strict. -/
def setOperands (args : List String) : SessionM Done := do
  match args with
  | "-e" :: _ => modify fun s => { s with strict := true }
  | "+e" :: _ => modify fun s => { s with strict := false }
  | "--" :: operands => modify fun s => { s with operands }
  | a :: operands =>
    if !(a.startsWith "-" || a.startsWith "+") then
      modify fun s => { s with operands := a :: operands }
  | [] => return .quiet 0
  return .quiet 0

def shift (args : List String) : SessionM Done := do
  let n := (count 1 args).getD 1
  let s ← get
  if s.operands.length < n then
    return { Done.complaint 2 (s.speaker ++ "shift: can't shift that many") with flow := .exit }
  set { s with operands := s.operands.drop n }
  return .quiet 0

def unset (args : List String) : SessionM Done := do
  modify fun s => { s with bindings := s.bindings.filter fun v => !args.contains v.1 }
  return .quiet 0

/-- Assigns what words say. -/
def assignAll : List String → SessionM Done
  | [] => return .quiet 0
  | a :: args => do
    let name := a.toList.takeWhile (· != '=')
    if name.length < a.length then
      Session.assign (String.ofList name) (String.ofList (a.toList.drop (name.length + 1)))
    assignAll args

/-- What a session does itself for a command, if it does. -/
def find? (name : String) (args : List String) : Option (SessionM Done) :=
  match name with
  | ":" => some (return .quiet 0)
  | "true" => some (return .quiet 0)
  | "false" => some (return .quiet 1)
  | "echo" => some (return .ofExecution (builtinEcho args))
  | "printf" => some do
    return .ofExecution ((PrintfStyle.builtin (← get).speaker).run args [])
  | "test" => some do return Condition.test (← get).speaker "test" args
  | "[" => some do
    let speaker := (← get).speaker
    if args.getLast? = some "]" then return Condition.test speaker "[" args.dropLast
    else return .complaint 2 (speaker ++ "[: missing ]")
  | "exit" => some do return exit (← get) args
  | "break" => some (return { Done.quiet 0 with flow := .leave ((count 1 args).getD 1) })
  | "continue" => some (return { Done.quiet 0 with flow := .again ((count 1 args).getD 1) })
  | "kill" => some do return kill (← get) args
  | "read" => some (readLine args)
  | "set" => some (setOperands args)
  | "shift" => some (shift args)
  | "unset" => some (unset args)
  | "export" => some (assignAll args)
  | "readonly" => some (assignAll args)
  | "local" => some (assignAll args)
  | "cd" => some (return .quiet 0)
  | "umask" => some (return .quiet 0)
  | "trap" => some (return .quiet 0)
  | "wait" => some (return .quiet 0)
  | _ => none

end Builtin

end JobDispatch.Shell

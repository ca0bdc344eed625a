/-!
Grammars of command lines: which options and commands there are, and how the words of a line are
read by them. The first thing wrong with a line decides what is said about it.
-/

namespace JobDispatch.CommandLine

/-- Why a line is not carried out. -/
inductive UsageError where
  | help
  /-- no command is given, nor anything else -/
  | helpForNothing
  | missingCommand
  | unknownCommand
  | unknownArgument
  | missingArgument
  /-- an option stands without its value -/
  | missingValue
  /-- a flag is given a value -/
  | unexpectedValue
  | refusedValue
  | repeated
  deriving DecidableEq, Repr

def UsageError.message : UsageError → String
  | help => "usage: conveyor [--registry-url URL] [--json] job|runner COMMAND"
  | helpForNothing => "a command is needed"
  | missingCommand => "a command is missing"
  | unknownCommand => "there is no such command"
  | unknownArgument => "there is no such argument"
  | missingArgument => "an argument is missing"
  | missingValue => "an option has no value"
  | unexpectedValue => "a flag takes no value"
  | refusedValue => "a value is refused"
  | repeated => "an option is repeated"

/-- An option, a flag or an operand. -/
structure Parameter where
  name : String
  /-- the values it takes; a flag takes none -/
  accepts : Option (String → Bool)
  many : Bool
  required : Bool
  /-- whether a value may begin with a hyphen -/
  hyphens : Bool

namespace Parameter

def flag (name : String) : Parameter := ⟨name, none, false, false, false⟩

def option (name : String) : Parameter := ⟨name, some fun _ => true, false, false, false⟩

/-- An option whose values have to be read by `read`. -/
def reading {α : Type} (name : String) (read : String → Option α) : Parameter :=
  ⟨name, some fun s => (read s).isSome, false, false, false⟩

def needed (name : String) : Parameter := { option name with required := true }

def repeatable (name : String) : Parameter := { option name with many := true }

end Parameter

/-- The values given under names, in the order of the line. -/
abbrev Given := List (String × String)

namespace Given

def values (g : Given) (name : String) : List String :=
  (g.filter fun v => v.1 == name).map Prod.snd

def value? (g : Given) (name : String) : Option String := (g.values name).head?

def has (g : Given) (name : String) : Bool := g.any fun v => v.1 == name

end Given

/-- What a line says is either done at once, or chosen among commands. -/
inductive Grammar (α : Type) where
  | action (options : List Parameter) (operand : Option Parameter) (build : Given → α)
  | choice (options : List Parameter) (commands : List (String × Grammar α))

namespace Grammar

variable {α : Type}

def options : Grammar α → List Parameter
  | action ps _ _ => ps
  | choice ps _ => ps

def option? (g : Grammar α) (name : String) : Option Parameter :=
  g.options.find? fun p => p.name == name

def operand? : Grammar α → Option Parameter
  | action _ p _ => p
  | choice _ _ => none

def commands : Grammar α → List (String × Grammar α)
  | action _ _ _ => []
  | choice _ cs => cs

def isChoice : Grammar α → Bool
  | action _ _ _ => false
  | choice _ _ => true

/-- Wherever there are commands, one of them gives help. -/
def hasHelp (g : Grammar α) (name : String) : Bool := g.isChoice && name == "help"

/-- What comes of asking for help with a command, by the words that lead to it. -/
def helpWith : Option (Grammar α) → List String → UsageError
  | _, [] => .help
  | none, _ :: _ => .unknownCommand
  | some g, w :: ws =>
    if g.hasHelp w then helpWith none ws
    else match g.commands.lookup w with
      | some sub => helpWith (some sub) ws
      | none => .unknownCommand

end Grammar

/-- What a single word looks like. -/
inductive Word where
  /-- two hyphens, after which nothing is an option -/
  | endOfOptions
  | long (name : String) (value : Option String)
  | short (first : Char)
  | plain
  deriving DecidableEq, Repr

def Word.ofText (s : String) : Word :=
  match s.toList with
  | '-' :: '-' :: [] => .endOfOptions
  | '-' :: '-' :: r =>
    .long (String.ofList (r.takeWhile (· != '='))) <|
      if r.contains '=' then some (String.ofList ((r.dropWhile (· != '=')).drop 1)) else none
  | '-' :: c :: _ => .short c
  | _ => .plain

/-- How far the words of one command have been read. -/
structure Progress where
  given : Given
  /-- an option or operand whose values are not checked yet -/
  pending : Option (Parameter × List String)
  /-- whether the pending option waits for its value -/
  awaiting : Bool
  /-- whether the options have ended -/
  ended : Bool

namespace Progress

def start : Progress := ⟨[], none, false, false⟩

/-- Takes in an option with its values. -/
def takeIn (p : Parameter) (values : List String) (given : Given) : Except UsageError Given :=
  match p.accepts with
  | none => if given.has p.name then .error .repeated else .ok (given ++ [(p.name, "")])
  | some accepts =>
    if values = [] then .error .missingValue
    else if given.has p.name && !p.many then .error .repeated
    else if values.all accepts then .ok (given ++ values.map fun v => (p.name, v))
    else .error .refusedValue

/-- Checks what is pending. -/
def settle (p : Progress) : Except UsageError Progress :=
  match p.pending with
  | none => .ok p
  | some (o, values) => (takeIn o values p.given).map fun given => ⟨given, none, false, p.ended⟩

/-- Takes a word as the value of the option that waits for it. -/
def addValue (p : Progress) (w : String) : Progress :=
  { p with pending := p.pending.map fun o => (o.1, o.2 ++ [w]), awaiting := false }

/-- Whether the waiting option takes values that begin with a hyphen. -/
def awaitsHyphens (p : Progress) : Bool := p.awaiting && p.pending.any fun o => o.1.hyphens

def isPending (p : Progress) (name : String) : Bool := p.pending.any fun o => o.1.name == name

end Progress

namespace Grammar

variable {α : Type}

/-- Reads a long option. -/
def readLong (g : Grammar α) (p : Progress) (name : String) (value : Option String) :
    Except UsageError Progress :=
  if name = "help" then
    match value with
    | some _ => .error .unexpectedValue
    | none => do
      let _ ← p.settle
      throw .help
  else match g.option? name with
    | none => .error .unknownArgument
    | some o =>
      match o.accepts, value with
      | none, some _ => .error .unexpectedValue
      | none, none => do
        let p ← p.settle
        return { p with given := ← Progress.takeIn o [] p.given }
      | some _, some v => do
        let p ← p.settle
        return { p with given := ← Progress.takeIn o [v] p.given }
      | some _, none => do
        let p ← p.settle
        return { p with pending := some (o, []), awaiting := true }

/-- Reads a word that is neither an option nor the value of one. -/
def readOperand (g : Grammar α) (p : Progress) (w : String) : Except UsageError Progress :=
  match g.operand? with
  | some o =>
    if p.given.has o.name || p.isPending o.name then .error .unknownArgument
    else do
      let p ← p.settle
      return { p with pending := some (o, [w]), awaiting := false }
  | none =>
    if !g.isChoice then .error .unknownArgument
    else if p.ended && (g.hasHelp w || (g.commands.lookup w).isSome) then .error .unknownArgument
    else .error .unknownCommand

/-- Reads a word that is no command. -/
def readWord (g : Grammar α) (p : Progress) (w : String) : Except UsageError Progress :=
  if p.ended then g.readOperand p w
  else if p.awaitsHyphens then .ok (p.addValue w)
  else match Word.ofText w with
    | .endOfOptions => .ok { p with ended := true }
    | .long name value => g.readLong p name value
    | .short 'h' => do
      let _ ← p.settle
      throw .help
    | .short _ => .error .unknownArgument
    | .plain => if p.awaiting then .ok (p.addValue w) else g.readOperand p w

/-- Comes to an end of the words. -/
def finish (g : Grammar α) (p : Progress) : Except UsageError (α × Given) := do
  let p ← p.settle
  match g with
  | .choice _ _ => throw (if p.given.isEmpty then .helpForNothing else .missingCommand)
  | .action options operand build =>
    if (options ++ operand.toList).all fun o => !o.required || p.given.has o.name then
      return (build p.given, p.given)
    else throw .missingArgument

/-- Reads words; gives what they say to do and the values given at all levels. -/
def readFrom (g : Grammar α) (p : Progress) : List String → Except UsageError (α × Given)
  | [] => g.finish p
  | w :: ws =>
    let isCommand := !p.ended && !p.awaiting
    if isCommand && g.hasHelp w then .error (helpWith (some g) ws)
    else match if isCommand then g.commands.lookup w else none with
      | some sub => do
        let (a, given) ← sub.readFrom .start ws
        let p ← p.settle
        return (a, p.given ++ given)
      | none => do g.readFrom (← g.readWord p w) ws

def read (g : Grammar α) (words : List String) : Except UsageError (α × Given) :=
  g.readFrom .start words

end Grammar

end JobDispatch.CommandLine

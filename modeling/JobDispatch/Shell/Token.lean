/-!
The words of a script and the signs between them. A word is a row of parts, each taken as it
stands or replaced when the script runs.
-/

namespace JobDispatch.Shell

/-- What a parameter is replaced by where it has no value. -/
inductive Fallback where
  | nothing
  /-- a text in its place, also for an empty value if so marked -/
  | use (whenEmpty : Bool) (text : List Char)
  /-- a text where it has a value -/
  | instead (whenEmpty : Bool) (text : List Char)
  /-- the number of its bytes -/
  | length
  deriving DecidableEq, Repr

inductive Part where
  | text (cs : List Char)
  | quoted (cs : List Char)
  | parameter (name : String) (fallback : Fallback) (inQuotes : Bool)
  | arithmetic (cs : List Char) (inQuotes : Bool)
  /-- what a script writes -/
  | output (script : List Char) (inQuotes : Bool)
  deriving DecidableEq, Repr

/-- Whether what replaces a part is split into fields. -/
def Part.splits : Part → Bool
  | text _ => false
  | quoted _ => false
  | parameter _ _ inQuotes => !inQuotes
  | arithmetic _ inQuotes => !inQuotes
  | output _ inQuotes => !inQuotes

abbrev Word := List Part

/-- The text of a word that is one unquoted text. -/
def Word.plain? : Word → Option String
  | [.text cs] => some (String.ofList cs)
  | _ => none

inductive Token where
  | word (w : Word)
  | newline
  /-- a sign that joins or encloses commands -/
  | sign (s : String)
  /-- a redirection, of a channel if it names one -/
  | redirect (channel : Option Nat) (s : String)
  deriving DecidableEq, Repr

/-- What is wrong with a script. -/
inductive ScriptFlaw where
  | unclosedQuote
  | unclosedBrace
  | badSubstitution
  /-- the script ends where something, perhaps a certain text, is expected -/
  | unexpectedEnd (expected : Option String)
  | unexpected (text : String)
  deriving DecidableEq, Repr

def ScriptFlaw.message : ScriptFlaw → String
  | unclosedQuote => "Syntax error: Unterminated quoted string"
  | unclosedBrace => "Syntax error: Missing '\x7d'"
  | badSubstitution => "Bad substitution"
  | unexpectedEnd none => "Syntax error: end of file unexpected"
  | unexpectedEnd (some text) =>
    "Syntax error: end of file unexpected (expecting \"" ++ text ++ "\")"
  | unexpected text => "Syntax error: " ++ text ++ " unexpected"

namespace Token

/-- How a token is named where it is not expected. -/
def name : Token → String
  | word w => match Word.plain? w with
    | some s => "\"" ++ s ++ "\""
    | none => "word"
  | newline => "newline"
  | sign s => "\"" ++ s ++ "\""
  | redirect _ _ => "redirection"

abbrev Reading (α : Type) := Except ScriptFlaw α

def isNameStart (c : Char) : Bool := c.isAlpha || c = '_'

def isNameRest (c : Char) : Bool := c.isAlphanum || c = '_'

/-- What stands before the first of some characters, and what follows it. -/
def upTo (stop : Char) (cs : List Char) : Option (List Char × List Char) :=
  match cs.dropWhile (· != stop) with
  | [] => none
  | _ :: rest => some (cs.takeWhile (· != stop), rest)

/-- What stands before the sign that closes `depth` opened ones, and what follows it. Quoted signs
do not count. -/
def enclosed (opening closing : Char) (depth : Nat) (quote : Option Char) :
    List Char → Option (List Char × List Char)
  | [] => none
  | c :: cs =>
    let keep (r : Option (List Char × List Char)) := r.map fun (a, b) => (c :: a, b)
    match quote with
    | some q => keep (enclosed opening closing depth (if c = q then none else some q) cs)
    | none =>
      if c = '\\' then
        match cs with
        | [] => none
        | d :: cs => (enclosed opening closing depth none cs).map fun (a, b) => (c :: d :: a, b)
      else if c = '\'' || c = '"' then keep (enclosed opening closing depth (some c) cs)
      else if c = opening then keep (enclosed opening closing (depth + 1) none cs)
      else if c = closing then
        match depth with
        | 0 => some ([], cs)
        | depth + 1 => keep (enclosed opening closing depth none cs)
      else keep (enclosed opening closing depth none cs)

/-- The names of one character that parameters have. -/
def specialNames : List Char := "@*#?$!-".toList

/-- The name that a text begins with, and what follows it. -/
def parameterName? : List Char → Option (String × List Char)
  | [] => none
  | c :: cs =>
    if isNameStart c then
      some (String.ofList (c :: cs.takeWhile isNameRest), cs.dropWhile isNameRest)
    else if c.isDigit || specialNames.contains c then some (String.ofList [c], cs)
    else none

/-- What stands between the braces of a parameter. -/
def braced (cs : List Char) (quoted : Bool) : Reading Part :=
  let fallback (name : String) : List Char → Reading Part
    | [] => .ok (.parameter name .nothing quoted)
    | ':' :: '-' :: text => .ok (.parameter name (.use true text) quoted)
    | '-' :: text => .ok (.parameter name (.use false text) quoted)
    | ':' :: '+' :: text => .ok (.parameter name (.instead true text) quoted)
    | '+' :: text => .ok (.parameter name (.instead false text) quoted)
    | _ => .error .badSubstitution
  match cs with
  | '#' :: c :: rest =>
    match parameterName? (c :: rest) with
    | some (name, []) => .ok (.parameter name .length quoted)
    | _ => .error .badSubstitution
  | cs =>
    let ds := cs.takeWhile Char.isDigit
    if !ds.isEmpty then fallback (String.ofList ds) (cs.drop ds.length)
    else match parameterName? cs with
      | some (name, rest) => fallback name rest
      | none => .error .badSubstitution

/-- What stands behind a dollar sign, and what follows it. -/
def dollar (quoted : Bool) (cs : List Char) : Reading (Part × List Char) :=
  match cs with
  | '(' :: '(' :: rest =>
    match enclosed '(' ')' 1 none rest with
    | some (inner, rest) => .ok (.arithmetic inner.dropLast quoted, rest)
    | none => .error (.unexpectedEnd ")")
  | '(' :: rest =>
    match enclosed '(' ')' 0 none rest with
    | some (inner, rest) => .ok (.output inner quoted, rest)
    | none => .error (.unexpectedEnd ")")
  | '{' :: rest =>
    match enclosed '{' '}' 0 none rest with
    | some (inner, rest) => (braced inner quoted).map (·, rest)
    | none => .error .unclosedBrace
  | cs =>
    match parameterName? cs with
    | some (name, rest) => .ok (.parameter name .nothing quoted, rest)
    | none => .ok (.quoted ['$'], cs)

/-- The parts of a text between double quotes, of up to `room` characters. -/
def insideQuotes : Nat → List Char → Reading Word
  | 0, _ => .ok []
  | _, [] => .ok []
  | room + 1, '\\' :: c :: cs =>
    if c = '\n' then insideQuotes room cs
    else if "$\x60\"\\".toList.contains c then (.quoted [c] :: ·) <$> insideQuotes room cs
    else (.quoted ['\\', c] :: ·) <$> insideQuotes room cs
  | room + 1, '$' :: cs => do
    let (part, rest) ← dollar true cs
    return part :: (← insideQuotes room rest)
  | room + 1, '\x60' :: cs =>
    match upTo '\x60' cs with
    | none => .error .unclosedQuote
    | some (script, rest) => (.output script true :: ·) <$> insideQuotes room rest
  | room + 1, c :: cs => (.quoted [c] :: ·) <$> insideQuotes room cs

/-- What stands before the double quote that closes a text, and what follows it. -/
def closingQuote (inner : Nat) : List Char → Option (List Char × List Char)
  | [] => none
  | '\\' :: c :: cs => (closingQuote inner cs).map fun (a, b) => ('\\' :: c :: a, b)
  | '$' :: '(' :: cs => (closingQuote (inner + 1) cs).map fun (a, b) => ('$' :: '(' :: a, b)
  | c :: cs =>
    if c = '"' && inner = 0 then some ([], cs)
    else
      let inner := if c = ')' then inner - 1 else if c = '(' && 0 < inner then inner + 1 else inner
      (closingQuote inner cs).map fun (a, b) => (c :: a, b)

/-- The characters that end an unquoted text. -/
def endsText (c : Char) : Bool := " \t\n;&|<>()'\"\\$\x60".toList.contains c

/-- The characters that end a word. -/
def endsWord (c : Char) : Bool := " \t\n;&|<>()".toList.contains c

/-- A word of up to `room` parts, and what follows it. -/
def readWord : Nat → List Char → Reading (Word × List Char)
  | 0, cs => .ok ([], cs)
  | _, [] => .ok ([], [])
  | room + 1, c :: cs => do
    if endsWord c then return ([], c :: cs)
    let (parts, rest) ← match c with
      | '\'' => match upTo '\'' cs with
        | some (inner, rest) => pure ([.quoted inner], rest)
        | none => .error .unclosedQuote
      | '"' => match closingQuote 0 cs with
        | some (inner, rest) => do
          let parts ← insideQuotes inner.length inner
          pure (if parts.isEmpty then [.quoted []] else parts, rest)
        | none => .error .unclosedQuote
      | '\\' => match cs with
        | [] => pure ([.quoted ['\\']], [])
        | '\n' :: rest => pure ([], rest)
        | d :: rest => pure ([.quoted [d]], rest)
      | '$' => do
        let (part, rest) ← dollar false cs
        pure ([part], rest)
      | '\x60' => match upTo '\x60' cs with
        | some (script, rest) => pure ([.output script false], rest)
        | none => .error .unclosedQuote
      | _ => pure ([.text (c :: cs.takeWhile (!endsText ·))], cs.dropWhile (!endsText ·))
    let (more, rest) ← readWord room rest
    return (parts ++ more, rest)

/-- The signs of commands and of redirections, the longer ones first. -/
def signs : List String := ["&&", "||", ";;", ";", "&", "|", "(", ")"]

def redirections : List String := [">>", ">&", ">|", "<&", ">", "<"]

def sign? (known : List String) (cs : List Char) : Option (String × List Char) :=
  (known.find? fun s => s.toList.isPrefixOf cs).map fun s => (s, cs.drop s.length)

/-- The tokens of a script of up to `room` characters. -/
def readAll : Nat → List Char → Reading (List Token)
  | 0, _ => .ok []
  | _, [] => .ok []
  | room + 1, '\n' :: cs => (newline :: ·) <$> readAll room cs
  | room + 1, '\\' :: '\n' :: cs => readAll room cs
  | room + 1, '#' :: cs => readAll room (cs.dropWhile (· != '\n'))
  | room + 1, c :: cs => do
    if c = ' ' || c = '\t' then readAll room cs
    else
      let channel := (c :: cs).takeWhile Char.isDigit
      let behind := (c :: cs).drop channel.length
      match sign? redirections behind with
      | some (s, rest) =>
        let named := if channel.isEmpty then none
          else some (channel.foldl (fun n d => n * 10 + (d.toNat - 48)) 0)
        return redirect named s :: (← readAll room rest)
      | none =>
        match sign? signs (c :: cs) with
        | some (s, rest) => return sign s :: (← readAll room rest)
        | none =>
          let (w, rest) ← readWord (cs.length + 1) (c :: cs)
          return word w :: (← readAll room rest)

def ofScript (script : List Char) : Reading (List Token) := readAll script.length script

end Token

end JobDispatch.Shell

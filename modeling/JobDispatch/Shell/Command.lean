import JobDispatch.Shell.Token

/-!
Commands of scripts: simple ones with their words, and those that join, repeat or choose others.
-/

namespace JobDispatch.Shell

/-- Where a channel leads instead. -/
structure Redirection where
  channel : Option Nat
  sign : String
  target : Word
  deriving DecidableEq, Repr

inductive Command where
  | skip
  | simple (assignments : List (String × Word)) (words : List Word)
    (redirections : List Redirection)
  /-- one after the other -/
  | both (a b : Command)
  /-- the second one if the first one succeeds -/
  | and (a b : Command)
  | or (a b : Command)
  | not (a : Command)
  /-- the second one reads what the first one writes -/
  | pipe (a b : Command)
  /-- as long as the test has a success, or has none -/
  | loop (success : Bool) (test body : Command)
  | choose (test yes no : Command)
  /-- for each of some words, or for each operand -/
  | each (name : String) (words : Option (List Word)) (body : Command)
  | redirected (a : Command) (redirections : List Redirection)
  /-- in a session of its own -/
  | apart (a : Command)
  deriving Repr

namespace Command

open Token (Reading)

/-- The words that begin or end commands where a command is expected. -/
def closers : List String := ["then", "elif", "else", "fi", "do", "done", "\x7d"]

def isCloser : Token → Bool
  | .word w => (w.plain?.map closers.contains).getD false
  | .sign s => s = ")" || s = ";;"
  | _ => false

def skipNewlines : List Token → List Token
  | .newline :: ts => skipNewlines ts
  | ts => ts

/-- Takes a word that has to be there. -/
def expect (text : String) : List Token → Reading (List Token)
  | [] => .error (.unexpectedEnd text)
  | t :: ts =>
    let found : Bool := match t with
      | .word w => w.plain? == some text
      | .sign s => s == text
      | _ => false
    if found then .ok ts else .error (.unexpected t.name)

/-- The name and the value of an assignment. -/
def assignment? : Word → Option (String × Word)
  | .text cs :: rest =>
    let name := cs.takeWhile (· != '=')
    match cs.drop name.length with
    | [] => none
    | _ :: value =>
      if (name.head?.map Token.isNameStart).getD false && name.all Token.isNameRest then
        some (String.ofList name, if value.isEmpty then rest else .text value :: rest)
      else none
  | _ => none

def readRedirections : List Token → Reading (List Redirection × List Token)
  | .redirect channel sign :: .word w :: ts => do
    let (more, ts) ← readRedirections ts
    return (⟨channel, sign, w⟩ :: more, ts)
  | .redirect _ _ :: t :: _ => .error (.unexpected t.name)
  | [.redirect _ _] => .error (.unexpectedEnd none)
  | ts => .ok ([], ts)

/-- The rest of a simple command; `started` tells that it has words already. -/
def readSimple (started : Bool) :
    List Token → Reading (List (String × Word) × List Word × List Redirection × List Token)
  | .redirect channel sign :: .word w :: ts => do
    let (assignments, words, redirections, ts) ← readSimple started ts
    return (assignments, words, ⟨channel, sign, w⟩ :: redirections, ts)
  | .redirect _ _ :: t :: _ => .error (.unexpected t.name)
  | [.redirect _ _] => .error (.unexpectedEnd none)
  | .word w :: ts => do
    let assigned := if started then none else assignment? w
    let (assignments, words, redirections, ts) ← readSimple (started || assigned.isNone) ts
    return match assigned with
      | some a => (a :: assignments, words, redirections, ts)
      | none => (assignments, w :: words, redirections, ts)
  | ts => .ok ([], [], [], ts)

/-- Words up to the end of a line. -/
def readWords : List Token → Reading (List Word × List Token)
  | .word w :: ts => do
    let (ws, ts) ← readWords ts
    return (w :: ws, ts)
  | .newline :: ts => .ok ([], ts)
  | .sign ";" :: ts => .ok ([], ts)
  | [] => .error (.unexpectedEnd none)
  | t :: _ => .error (.unexpected t.name)

/-- A command with redirections behind it. -/
def withRedirections (c : Command) (ts : List Token) : Reading (Command × List Token) := do
  let (redirections, ts) ← readRedirections ts
  return (if redirections.isEmpty then c else .redirected c redirections, ts)

mutual

/-- Commands one after the other, up to a token that ends them. The first argument bounds how deep
commands stand in each other. -/
def readList : Nat → List Token → Reading (Command × List Token)
  | 0, _ => .error (.unexpectedEnd none)
  | room + 1, ts => do
    match skipNewlines ts with
    | [] => return (.skip, [])
    | t :: ts =>
      if isCloser t then return (.skip, t :: ts)
      let (a, ts) ← readAndOr room (t :: ts)
      match ts with
      | .newline :: ts => do
        let (b, ts) ← readList room ts
        return (.both a b, ts)
      | .sign ";" :: ts => do
        let (b, ts) ← readList room ts
        return (.both a b, ts)
      | .sign "&" :: ts => do
        let (b, ts) ← readList room ts
        return (.both (.apart a) b, ts)
      | [] => return (a, [])
      | t :: ts => if isCloser t then return (a, t :: ts) else .error (.unexpected t.name)

def readAndOr : Nat → List Token → Reading (Command × List Token)
  | 0, _ => .error (.unexpectedEnd none)
  | room + 1, ts => do
    let (a, ts) ← readPipe room ts
    readAndOrFrom room a ts

/-- Goes on behind a command. -/
def readAndOrFrom : Nat → Command → List Token → Reading (Command × List Token)
  | 0, _, _ => .error (.unexpectedEnd none)
  | room + 1, a, .sign "&&" :: ts => do
    let (b, ts) ← readPipe room (skipNewlines ts)
    readAndOrFrom room (.and a b) ts
  | room + 1, a, .sign "||" :: ts => do
    let (b, ts) ← readPipe room (skipNewlines ts)
    readAndOrFrom room (.or a b) ts
  | _ + 1, a, ts => return (a, ts)

def readPipe : Nat → List Token → Reading (Command × List Token)
  | 0, _ => .error (.unexpectedEnd none)
  | room + 1, ts => do
    match expect "!" ts with
    | .ok ts => do
      let (a, ts) ← readPipe room ts
      return (.not a, ts)
    | .error _ =>
      let (a, ts) ← readOne room ts
      match ts with
      | .sign "|" :: ts => do
        let (b, ts) ← readPipe room (skipNewlines ts)
        return (.pipe a b, ts)
      | ts => return (a, ts)

/-- What follows the test of a choice. -/
def readChoice : Nat → List Token → Reading (Command × List Token)
  | 0, _ => .error (.unexpectedEnd none)
  | room + 1, ts => do
    let (test, ts) ← readList room ts
    let (yes, ts) ← readList room (← expect "then" ts)
    match expect "elif" ts with
    | .ok ts => do
      let (no, ts) ← readChoice room ts
      return (.choose test yes no, ts)
    | .error _ =>
      let (no, ts) ← match expect "else" ts with
        | .ok ts => readList room ts
        | .error _ => pure (.skip, ts)
      return (.choose test yes no, ← expect "fi" ts)

def readLoop : Nat → Bool → List Token → Reading (Command × List Token)
  | 0, _, _ => .error (.unexpectedEnd none)
  | room + 1, success, ts => do
    let (test, ts) ← readList room ts
    let (body, ts) ← readList room (← expect "do" ts)
    return (.loop success test body, ← expect "done" ts)

def readEach : Nat → List Token → Reading (Command × List Token)
  | 0, _ => .error (.unexpectedEnd none)
  | room + 1, .word w :: ts => do
    let (words, ts) ← match expect "in" (skipNewlines ts) with
      | .ok ts => do
        let (ws, ts) ← readWords ts
        pure (some ws, ts)
      | .error _ => pure (none, match ts with
        | .sign ";" :: ts => ts
        | ts => ts)
    let (body, ts) ← readList room (← expect "do" (skipNewlines ts))
    return (.each (w.plain?.getD "") words body, ← expect "done" ts)
  | _, [] => .error (.unexpectedEnd none)
  | _, t :: _ => .error (.unexpected t.name)

/-- A single command. -/
def readOne : Nat → List Token → Reading (Command × List Token)
  | 0, _ => .error (.unexpectedEnd none)
  | _, [] => .error (.unexpectedEnd none)
  | room + 1, .sign "(" :: ts => do
    let (a, ts) ← readList room ts
    withRedirections (.apart a) (← expect ")" ts)
  | room + 1, .word w :: ts => do
    match w.plain? with
    | some "\x7b" => do
      let (a, ts) ← readList room ts
      withRedirections a (← expect "\x7d" ts)
    | some "if" => do
      let (a, ts) ← readChoice room ts
      withRedirections a ts
    | some "while" => do
      let (a, ts) ← readLoop room true ts
      withRedirections a ts
    | some "until" => do
      let (a, ts) ← readLoop room false ts
      withRedirections a ts
    | some "for" => do
      let (a, ts) ← readEach room ts
      withRedirections a ts
    | _ =>
      if isCloser (.word w) then .error (.unexpected (Token.word w).name)
      let (assignments, words, redirections, ts) ← readSimple false (.word w :: ts)
      return (.simple assignments words redirections, ts)
  | _ + 1, .redirect channel sign :: ts => do
    let (assignments, words, redirections, ts) ← readSimple false (.redirect channel sign :: ts)
    return (.simple assignments words redirections, ts)
  | _, t :: _ => .error (.unexpected t.name)

end

/-- The commands of a script. -/
def ofScript (script : List Char) : Reading Command := do
  let ts ← Token.ofScript script
  let (c, rest) ← readList (8 * ts.length + 8) ts
  match rest with
  | [] => return c
  | t :: _ => .error (.unexpected t.name)

end Command

end JobDispatch.Shell

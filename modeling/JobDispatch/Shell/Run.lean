import JobDispatch.Shell.Builtin

/-!
Running scripts: what the commands of a script write and with which status it ends. A script that
goes on and on is killed.
-/

namespace JobDispatch.Shell

/-- What redirections lead to: the channels, and another input where there is one. -/
structure Redirected where
  channels : Channels
  input : Option (List UInt8)

namespace Redirected

/-- The target that a path leads to, if it can be written. -/
def target? (ch : Channels) : String → Option Target
  | "/dev/null" => some .discard
  | "/dev/stdout" => some ch.out
  | "/dev/stderr" => some ch.err
  | "/dev/fd/1" => some ch.out
  | "/dev/fd/2" => some ch.err
  | _ => none

def lead (ch : Channels) (channel : Nat) (t : Target) : Channels :=
  match channel with
  | 1 => { ch with out := t }
  | 2 => { ch with err := t }
  | _ => ch

/-- Follows one redirection to a target. -/
def step (r : Redirected) (channel : Option Nat) (sign target : String) :
    Except String Redirected :=
  let leadTo (t : Target) : Except String Redirected :=
    .ok { r with channels := lead r.channels (channel.getD 1) t }
  match sign with
  | ">&" =>
    match target with
    | "1" => leadTo r.channels.out
    | "2" => leadTo r.channels.err
    | "-" => leadTo .discard
    | _ => .error "Syntax error: Bad fd number"
  | "<&" => .ok r
  | "<" =>
    if target = "/dev/null" then .ok { r with input := some [] }
    else if target = "/dev/stdin" then .ok r
    else .error ("cannot open " ++ target ++ ": No such file")
  | _ =>
    match target? r.channels target with
    | some t => leadTo t
    | none =>
      match Place.ofPath target with
      | .directory => .error ("cannot create " ++ target ++ ": Is a directory")
      | _ => .error ("cannot create " ++ target ++ ": Permission denied")

/-- Follows redirections, the first first. -/
def ofList (substitute : Substitute) (r : Redirected) :
    List Redirection → SessionM (Except String Redirected)
  | [] => return .ok r
  | d :: ds => do
    match r.step d.channel d.sign (← Word.text substitute d.target) with
    | .ok r => ofList substitute r ds
    | .error e => return .error e

end Redirected

/-- What a program does that a session does not do itself. -/
def external (program : String) (args : List String) (input : List UInt8) : Option Execution :=
  match Place.find program with
  | .program "true" => some (Utility.silent 0 args input)
  | .program "false" => some (Utility.silent 1 args input)
  | .program "echo" => some (Utility.echo args input)
  | .program "printf" => some ((PrintfStyle.program program).run args input)
  | .program "cat" => some (Utility.cat program args input)
  | _ => none

/-- The words after a program that make it run a script: the script, its name and its operands. -/
inductive ScriptCallWords where
  | script (strict : Bool) (text name : String) (operands : List String)
  /-- the script is what is given to read -/
  | fromInput
  | missingScript
  | file (path : String)

def ScriptCallWords.ofList (program : String) (strict : Bool) : List String → ScriptCallWords
  | [] => fromInput
  | a :: args =>
    match a.toList with
    | '-' :: c :: cs =>
      let strict := strict || (c :: cs).contains 'e'
      if (c :: cs).contains 'c' then
        match args with
        | [] => missingScript
        | [text] => script strict text program []
        | text :: name :: operands => script strict text name operands
      else ofList program strict args
    | _ => file a

/-- The assignments before a command. -/
def assignWords (substitute : Substitute) : List (String × Word) → SessionM Unit
  | [] => return
  | (name, w) :: rest => do
    Session.assign name (← Word.text substitute w)
    assignWords substitute rest

def Part.isOutput : Part → Bool
  | .output _ _ => true
  | _ => false

/-- Says what is wrong, and goes on. -/
def complain (ch : Channels) (status : Nat) (text : String) : SessionM Flow := do
  Session.write ch.err (bytesOf ((← get).speaker ++ text ++ "\n"))
  Session.setStatus status
  return .next

/-- Does something whose failure is asked about. -/
def asked {α : Type} (act : SessionM α) : SessionM α := do
  let before := (← get).strict
  modify fun s => { s with strict := false }
  let a ← act
  modify fun s => { s with strict := before }
  return a

/-- How a script goes on behind a command; a strict one ends with a failure. -/
def afterCommand (f : Flow) : SessionM Flow := do
  let s ← get
  return if f = .next && s.strict && s.status != 0 then .exit else f

/-- How a loop goes on after its body: ends, goes on, or hands on what the body says. -/
inductive AfterBody where
  | repeat_
  | end_ (flow : Flow)

def AfterBody.ofFlow : Flow → AfterBody
  | .next => repeat_
  | .leave n => end_ (if n ≤ 1 then .next else .leave (n - 1))
  | .again n => if n ≤ 1 then repeat_ else end_ (.again (n - 1))
  | f => end_ f

mutual

/-- Runs a command; the first argument bounds how many stand in each other or follow each other
in a loop. -/
def exec : Nat → Command → Channels → SessionM Flow
  | 0, _, _ => return .killed
  | room + 1, c, ch => do
    let substitute : Substitute := fun script => do
      let ((_, status), bytes) ← Session.captured fun t =>
        Session.apart (execScript room script { ch with out := t })
      Session.setStatus status
      return bytes
    match c with
    | .skip => return .next
    | .both a b => do
      match ← exec room a ch with
      | .next => exec room b ch
      | f => return f
    | .and a b => do
      match ← asked (exec room a ch) with
      | .next => if (← get).status = 0 then exec room b ch else return .next
      | f => return f
    | .or a b => do
      match ← asked (exec room a ch) with
      | .next => if (← get).status = 0 then return .next else exec room b ch
      | f => return f
    | .not a => do
      let f ← asked (exec room a ch)
      if f = .next then Session.setStatus (if (← get).status = 0 then 1 else 0)
      return f
    | .pipe a b => do
      let ((f, _), bytes) ← Session.captured fun t =>
        Session.apart (exec room a { ch with out := t })
      if f = .killed then return f
      let (g, status) ← Session.apart do
        modify fun s => { s with input := bytes }
        exec room b ch
      Session.setStatus status
      return if g = .killed then g else .next
    | .loop success test body => execLoop room success test body 0 ch
    | .choose test yes no => do
      match ← asked (exec room test ch) with
      | .next =>
        if (← get).status = 0 then exec room yes ch
        else match no with
          | .skip => do
            Session.setStatus 0
            return .next
          | no => exec room no ch
      | f => return f
    | .each name words body => do
      let values ← match words with
        | some ws => Word.fields substitute ws
        | none => pure (← get).operands
      Session.setStatus 0
      execEach room name values body ch
    | .redirected a redirections => do
      match ← Redirected.ofList substitute ⟨ch, none⟩ redirections with
      | .error e => complain ch 2 e
      | .ok r =>
        let before := (← get).input
        modify fun s => { s with input := r.input.getD s.input }
        let f ← exec room a r.channels
        if r.input.isSome then modify fun s => { s with input := before }
        return f
    | .apart a => do
      let (f, status) ← Session.apart (exec room a ch)
      Session.setStatus status
      if f = .killed then return f else afterCommand .next
    | .simple assignments words redirections => do
      let fields ← Word.fields substitute words
      let before ← get
      assignWords substitute assignments
      match ← Redirected.ofList substitute ⟨ch, none⟩ redirections with
      | .error e => do afterCommand (← complain ch 2 e)
      | .ok r =>
        if let some text := (← get).trouble then
          let _ ← complain ch 2 text
          return .exit
        match fields with
        | [] => do
          if !(assignments.any fun a => a.2.any Part.isOutput) then Session.setStatus 0
          afterCommand .next
        | name :: args => do
          modify fun s => { s with input := r.input.getD s.input }
          let f ← execCall room name args r.channels
          if r.input.isSome then modify fun s => { s with input := before.input }
          if !assignments.isEmpty then modify fun s => { s with bindings := before.bindings }
          afterCommand f

/-- Runs a loop, whose body ended with a status the last time. -/
def execLoop : Nat → Bool → Command → Command → Nat → Channels → SessionM Flow
  | 0, _, _, _, _, _ => return .killed
  | room + 1, success, test, body, last, ch => do
    match ← asked (exec room test ch) with
    | .next =>
      if ((← get).status == 0) == success then
        match AfterBody.ofFlow (← exec room body ch) with
        | .repeat_ => execLoop room success test body (← get).status ch
        | .end_ f => return f
      else
        Session.setStatus last
        return .next
    | f => return f

def execEach : Nat → String → List String → Command → Channels → SessionM Flow
  | 0, _, _, _, _ => return .killed
  | _, _, [], _, _ => return .next
  | room + 1, name, v :: values, body, ch => do
    Session.assign name v
    match AfterBody.ofFlow (← exec room body ch) with
    | .repeat_ => execEach room name values body ch
    | .end_ f => return f

/-- Calls a command by its name. -/
def execCall : Nat → String → List String → Channels → SessionM Flow
  | 0, _, _, _ => return .killed
  | room + 1, name, args, ch => do
    match Builtin.find? name args with
    | some act => do
      let d ← act
      Session.write ch.out d.out
      Session.write ch.err d.err
      Session.setStatus d.status
      return d.flow
    | none =>
      if name = "eval" then
        execScript room (" ".intercalate args).toList ch
      else if name = "exec" then
        match args with
        | [] => return .next
        | program :: args => do
          let f ← execCall room program args ch
          return if f = .killed then f else .exit
      else
        let input := (← get).input
        let called ← match Place.find name with
          | .program "sh" => do
            let e := runShell room name args input
            if e.status.isNone then pure (some { e with status := some 137 }) else pure (some e)
          | _ => pure (external name args input)
        match called with
        | some e => do
          if args.isEmpty || args.contains "-" then modify fun s => { s with input := [] }
          Session.write ch.out e.out
          Session.write ch.err e.err
          Session.setStatus (e.status.getD 0)
          return .next
        | none =>
          match Place.find name with
          | .missing => complain ch 127 (name ++ ": not found")
          | .beyondFile => complain ch 127 (name ++ ": not found")
          | _ => complain ch 126 (name ++ ": Permission denied")

/-- Runs a script within a session. -/
def execScript : Nat → List Char → Channels → SessionM Flow
  | 0, _, _ => return .killed
  | room + 1, script, ch => do
    match Command.ofScript script with
    | .ok c => exec room c ch
    | .error e => do
      let _ ← complain ch 2 e.message
      return .exit

/-- Runs a shell that was called by a name. -/
def runShell : Nat → String → List String → List UInt8 → Execution
  | 0, _, _, _ => ⟨none, [], []⟩
  | room + 1, program, args, input =>
    let run (text : List Char) (s : Session) : Execution :=
      let (f, t) := (execScript room text ⟨.out, .err⟩).run s
      ⟨if f = .killed then none else some t.status, t.writtenTo .out, t.writtenTo .err⟩
    let refuse (why : String) : Execution :=
      ⟨some 2, [], bytesOf (program ++ ": 0: " ++ why ++ "\n")⟩
    match ScriptCallWords.ofList program false args with
    | .script strict text name operands =>
      run text.toList { Session.start name operands input with strict }
    | .fromInput => run (Text.decodeLossy input) (.start program [] [])
    | .missingScript => refuse "-c requires an argument"
    | .file path => refuse ("cannot open " ++ path ++ ": No such file")

end

/-- How far a script gets before it is killed. -/
def patience : Nat := 100000

/-- The programs that jobs can call. -/
def programs : Programs := fun program args =>
  if (program :: args).any fun w => w.toList.contains '\x00' then .error .nulInWord
  else match Place.find program with
    | .program "sh" => .ok (runShell patience program args [])
    | .program _ =>
      match external program args [] with
      | some e => .ok e
      | none => .error .notFound
    | .missing => .error .notFound
    | .beyondFile => .error .notDirectory
    | _ => .error .notPermitted

end JobDispatch.Shell

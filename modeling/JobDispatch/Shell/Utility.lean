import JobDispatch.Agent.Processor
import JobDispatch.Shell.Escape

/-!
Small programs: what they write for their operands and for what they are given to read.
-/

namespace JobDispatch.Shell

/-- What a program does with its operands and its input. -/
abbrev Utility := List String → List UInt8 → Execution

def bytesOf (s : String) : List UInt8 := Text.utf8 s.toList

namespace Utility

/-- Writes nothing and ends with a status. -/
def silent (status : Nat) : Utility := fun _ _ => ⟨some status, [], []⟩

def newline : List UInt8 := [0x0A]

/-- How an echo writes: with a line end, and with escapes replaced or not. -/
structure EchoStyle where
  lineEnd : Bool
  escapes : Option EscapeRules

/-- The texts with spaces between them, up to where all output ends. -/
def echoTexts (style : EchoStyle) : List String → Unescaped
  | [] => ⟨[], false⟩
  | s :: rest =>
    let u := match style.escapes with
      | some rules => rules.unescape s
      | none => ⟨bytesOf s, false⟩
    if u.stopped || rest.isEmpty then u
    else
      let v := echoTexts style rest
      ⟨u.bytes ++ 0x20 :: v.bytes, v.stopped⟩

def echoIn (style : EchoStyle) (texts : List String) : Execution :=
  let u := echoTexts style texts
  ⟨some 0, u.bytes ++ if style.lineEnd && !u.stopped then newline else [], []⟩

def echoEscapes : EscapeRules := ⟨true, true, false, true⟩

def echoOptions (style : EchoStyle) : List Char → EchoStyle
  | [] => style
  | c :: cs =>
    let style := match c with
      | 'n' => { style with lineEnd := false }
      | 'e' => { style with escapes := some echoEscapes }
      | _ => { style with escapes := none }
    echoOptions style cs

/-- Takes the options of an echo off its operands. -/
def echoFrom (style : EchoStyle) : List String → Execution
  | [] => echoIn style []
  | s :: rest =>
    match s.toList with
    | '-' :: c :: cs =>
      if (c :: cs).all "neE".toList.contains then echoFrom (echoOptions style (c :: cs)) rest
      else echoIn style (s :: rest)
    | _ => echoIn style (s :: rest)

def echo : Utility := fun args _ => echoFrom ⟨true, none⟩ args

end Utility

/-- What is at a path. -/
inductive Place where
  | directory
  | file
  | program (name : String)
  | missing
  /-- the path goes on behind a file -/
  | beyondFile
  deriving DecidableEq, Repr

namespace Place

def programNames : List String := ["true", "false", "echo", "printf", "cat", "sh"]

def directories : List (List String) :=
  [[], ["bin"], ["boot"], ["dev"], ["etc"], ["home"], ["lib"], ["media"], ["mnt"], ["opt"],
    ["proc"], ["root"], ["run"], ["sbin"], ["srv"], ["sys"], ["tmp"], ["usr"], ["usr", "bin"],
    ["usr", "lib"], ["usr", "local"], ["usr", "local", "bin"], ["usr", "sbin"], ["usr", "share"],
    ["var"], ["var", "log"], ["var", "tmp"]]

def files : List (List String) :=
  [["dev", "null"], ["dev", "zero"], ["etc", "fstab"], ["etc", "group"], ["etc", "hostname"],
    ["etc", "hosts"], ["etc", "passwd"], ["etc", "resolv.conf"], ["etc", "shadow"]]

def steps (path : String) : List String :=
  (path.splitOn "/").filter fun s => s != "" && s != "."

/-- What is at a path that starts at the root. -/
def ofSteps (path : List String) : Place :=
  if directories.contains path then directory
  else if files.contains path then file
  else if files.any fun f => f.isPrefixOf path then beyondFile
  else match path with
    | ["bin", name] => if programNames.contains name then program name else missing
    | ["usr", "bin", name] => if programNames.contains name then program name else missing
    | _ => missing

/-- What is at a path. The directory at hand is empty. -/
def ofPath (path : String) : Place :=
  let at_ := steps path
  if path.startsWith "/" then ofSteps at_
  else if path != "" && at_.all (· == "..") then directory
  else missing

/-- The program of a name or of a path. A name without a slash is looked up among the programs;
the names of directories lead to these. -/
def find (name : String) : Place :=
  if name.toList.contains '/' || name = "." || name = ".." then ofPath name
  else if programNames.contains name then program name
  else missing

end Place

namespace Utility

/-- The bytes of a file that is known to be empty. -/
def catFile (program : String) (input : List UInt8) (name : String) : Execution :=
  let refused (why : String) : Execution :=
    ⟨some 1, [], bytesOf (program ++ ": " ++ name ++ ": " ++ why ++ "\n")⟩
  if name = "-" then ⟨some 0, input, []⟩
  else match Place.ofPath name with
    | .directory => refused "Is a directory"
    | .beyondFile => refused "Not a directory"
    | .missing => refused "No such file or directory"
    | _ => ⟨some 0, [], []⟩

/-- One execution after the other; the status is that of the first that failed. -/
def andThen (a b : Execution) : Execution :=
  ⟨if a.status = some 0 then b.status else a.status, a.out ++ b.out, a.err ++ b.err⟩

def cat (program : String) : Utility := fun args input =>
  match args with
  | [] => ⟨some 0, input, []⟩
  | names => (names.map (catFile program input)).foldl andThen ⟨some 0, [], []⟩

end Utility

end JobDispatch.Shell

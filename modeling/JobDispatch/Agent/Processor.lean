import JobDispatch.Job.Basic
import JobDispatch.Text.Blank
import JobDispatch.Text.Utf8

/-!
Processing a job: its arguments are a program and what it is called with, and what the program
writes is the result.
-/

namespace JobDispatch

/-- Why a program does not start. -/
inductive StartError where
  | notFound
  | notPermitted
  /-- the path of the program goes on behind a file -/
  | notDirectory
  /-- a word holds the character that ends words -/
  | nulInWord
  deriving DecidableEq, Repr

def StartError.message : StartError → String
  | notFound => "No such file or directory (os error 2)"
  | notPermitted => "Permission denied (os error 13)"
  | notDirectory => "Not a directory (os error 20)"
  | nulInWord => "nul byte found in provided data"

/-- A program that ended: its status, absent where it was killed, and what it wrote. -/
structure Execution where
  status : Option Nat
  out : List UInt8
  err : List UInt8
  deriving DecidableEq, Repr

/-- What comes of calling a program with words. -/
abbrev Programs := String → List String → Except StartError Execution

inductive ProcessingError where
  | noCommand (id : String)
  | notStarted (command : String) (e : StartError)
  deriving DecidableEq, Repr

def ProcessingError.message : ProcessingError → String
  | noCommand id => "job " ++ id ++ " has no command to run"
  | notStarted command e => "failed to run '" ++ command ++ "': " ++ e.message

/-- The text that a program wrote, without the blanks at its end. -/
def Execution.text (bytes : List UInt8) : String :=
  String.ofList (Text.trimEnd (Text.decodeLossy bytes))

/-- A job is a success, with what was written as its result, if the status is zero; else it is a
failure, with what was written about errors. -/
def Execution.conclude (e : Execution) (v : JobValue) : JobValue :=
  if e.status = some 0 then
    (v.withStatus .done (some .success)).withResult (Execution.text e.out)
  else (v.withStatus .done (some .failure)).withResult (Execution.text e.err)

def Programs.process (run : Programs) (job : Job) : Except ProcessingError Job :=
  match job.value.arguments with
  | [] => .error (.noCommand job.id)
  | program :: args =>
    match run program args with
    | .ok e => .ok (job.withValue (e.conclude job.value))
    | .error e => .error (.notStarted program e)

end JobDispatch

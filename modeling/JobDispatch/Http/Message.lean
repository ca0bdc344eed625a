import JobDispatch.Http.MediaType
import JobDispatch.Wire.Basic

/-!
Requests and responses.
-/

namespace JobDispatch.Http

inductive Method where
  | get
  | head
  | post
  | patch
  | other (name : String)
  deriving DecidableEq, Repr

namespace Method

def name : Method → String
  | get => "GET"
  | head => "HEAD"
  | post => "POST"
  | patch => "PATCH"
  | other name => name

def ofName (s : String) : Method :=
  match s with
  | "GET" => get
  | "HEAD" => head
  | "POST" => post
  | "PATCH" => patch
  | s => other s

end Method

/-- A request; a body of no bytes is the same as none. -/
structure Request where
  method : Method
  target : List Char
  contentType : Option String
  body : String
  deriving DecidableEq, Repr

namespace Request

def path (r : Request) : List Char := r.target.takeWhile fun c => c != '?' && c != '#'

/-- The part of the target behind its first question mark, without a fragment. -/
def query (r : Request) : List Char :=
  ((r.target.takeWhile (· != '#')).dropWhile (· != '?')).drop 1

end Request

/-- A response, with the body that the server gives itself. -/
structure Response where
  status : Nat
  body : Option Json

namespace Response

/-- A response of which only the status says something. -/
def bare (status : Nat) : Response := ⟨status, none⟩

def json {α : Type} [Wire α] (status : Nat) (a : α) : Response := ⟨status, some (Wire.toJson a)⟩

/-- An error with its message. -/
def error (status : Nat) (message : String) : Response :=
  ⟨status, some (.record [("error", .text message)])⟩

end Response

/-- The largest body that is read: 2 MiB. -/
def maxBody : Nat := 2097152

/-- The value in the body of a request, or the response that turns the request down. -/
def Request.json {α : Type} [Wire α] (r : Request) : Except Response α :=
  if !(r.contentType.bind MediaType.read?).any MediaType.isJson then .error (.bare 415)
  else if maxBody < r.body.utf8ByteSize then .error (.bare 413)
  else match Wire.read (α := α) r.body with
    | .ok a => .ok a
    | .error .malformed => .error (.bare 400)
    | .error .misfit => .error (.bare 422)

end JobDispatch.Http

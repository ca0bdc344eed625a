import JobDispatch.Client.Error
import JobDispatch.Http.Message
import JobDispatch.Http.Url

/-!
Calls of a server: the request that is sent, and the meaning of what comes back. How a request
travels is left open.
-/

namespace JobDispatch

open Http (Form Url)

/-- What comes back for a request. -/
inductive Reply where
  /-- nothing, for the reason given -/
  | nothing (why : String)
  /-- a response whose body breaks off -/
  | cut (status : Nat)
  | full (status : Nat) (body : List UInt8)
  deriving DecidableEq, Repr

def isSuccess (status : Nat) : Bool := 200 ≤ status && status < 300

/-- A body as text, of which a byte order mark in front is no part. -/
def bodyText (body : List UInt8) : String :=
  match Text.decodeLossy body with
  | '\uFEFF' :: r => String.ofList r
  | s => String.ofList s

/-- The text under `error` in a body that is a JSON record, or else the body itself. -/
def errorText (body : String) : String :=
  let (draft, rest) := Draft.read body.toList
  let whole := draft.canGather Draft.nestingLimit && rest.any fun r => Draft.skipSpace r = []
  match (if whole then draft.toJson? else none).bind (Json.field? "error") with
  | some (.text s) => s
  | _ => body

/-- The error that a response of failure stands for; its body is absent where it breaks off. -/
def ClientError.ofResponse (status : Nat) (body : Option (List UInt8)) : ClientError :=
  .refused status ((body.map fun b => errorText (bodyText b)).getD "Unknown error")

/-- What is said of a response of success whose body is no value of the wanted type. -/
def ClientError.noValue : ClientError :=
  .unreadable "Failed to parse JSON response: error decoding response body"

namespace Reply

/-- The value that a body stands for. -/
def decode? {α : Type} [Wire α] (body : List UInt8) : Option α :=
  (Text.decodeStrict body).bind fun s => (Wire.read (String.ofList s)).toOption

/-- Reads the value in the body of a response. -/
def value {α : Type} [Wire α] : Reply → Except ClientError α
  | nothing why => .error (.unanswered why)
  | cut status =>
    .error (if isSuccess status then .noValue else .ofResponse status none)
  | full status body =>
    if isSuccess status then
      match decode? body with
      | some a => .ok a
      | none => .error .noValue
    else .error (.ofResponse status (some body))

/-- Reads a response without looking at its body. -/
def bare : Reply → Except ClientError Unit
  | nothing why => .error (.unanswered why)
  | cut status => if isSuccess status then .ok () else .error (.ofResponse status none)
  | full status body =>
    if isSuccess status then .ok () else .error (.ofResponse status (some body))

end Reply

/-- A call; there is no request where its address is none. -/
structure Call (α : Type) where
  request : Option (Url × Http.Request)
  read : Reply → Except ClientError α

namespace Call

/-- A request for an address that is written out. -/
def requestTo (method : Http.Method) (address : String) (form : Form) (body : Option Json) :
    Option (Url × Http.Request) :=
  (Url.read? address).map fun u =>
    let u := u.withForm form
    (u, ⟨method, u.target, body.map fun _ => "application/json", (body.map Json.compact).getD ""⟩)

/-- Makes a call, with `send` to carry requests and their replies. -/
def perform {m : Type → Type} [Monad m] {α : Type} (send : Url → Http.Request → m Reply)
    (c : Call α) : m (Except ClientError α) :=
  match c.request with
  | none => return c.read (.nothing "builder error")
  | some (u, r) => return c.read (← send u r)

end Call

end JobDispatch

import JobDispatch.Text.Decimal

/-!
What can go wrong between a client and the registry, and how a runner sees it.
-/

namespace JobDispatch

inductive ClientError where
  /-- no response came, for the reason given -/
  | unanswered (why : String)
  /-- the registry answered with a status of failure -/
  | refused (status : Nat) (message : String)
  /-- the registry answered with success, but the answer cannot be read -/
  | unreadable (why : String)
  deriving DecidableEq, Repr

namespace ClientError

def message : ClientError → String
  | unanswered why => "HTTP request failed: " ++ why
  | refused status message => "API error (status " ++ Text.decimal status ++ "): " ++ message
  | unreadable why => "Failed to parse response: " ++ why

def status? : ClientError → Option Nat
  | refused status _ => some status
  | _ => none

def isNotFound (e : ClientError) : Bool := e.status? == some 404

def isConflict (e : ClientError) : Bool := e.status? == some 409

/-- Whether no response came at all. -/
def isTransport : ClientError → Bool
  | unanswered _ => true
  | _ => false

/-- Whether the request itself is to blame. -/
def isClientError (e : ClientError) : Bool := e.status?.any fun s => 400 ≤ s && s < 500

/-- Whether the registry is to blame. -/
def isServerError (e : ClientError) : Bool := e.status?.any (500 ≤ ·)

end ClientError

/-- A failed call of the registry as a runner sees it. -/
inductive RegistryError where
  | unreachable (why : String)
  /-- the version is no longer the stored one -/
  | conflict (why : String)
  | rejected (status : Nat) (message : String)
  | malformed (why : String)
  deriving DecidableEq, Repr

namespace RegistryError

def message : RegistryError → String
  | unreachable why => "registry unreachable: " ++ why
  | conflict why => "version conflict: " ++ why
  | rejected status message =>
    "registry rejected the request (status " ++ Text.decimal status ++ "): " ++ message
  | malformed why => "malformed registry response: " ++ why

/-- Whether another attempt may succeed: nobody answered this one. -/
def isTransient : RegistryError → Bool
  | unreachable _ => true
  | _ => false

def ofClient (e : ClientError) : RegistryError :=
  match e with
  | .unanswered _ => unreachable e.message
  | .refused status message =>
    if status = 409 then conflict e.message else rejected status message
  | .unreadable _ => malformed e.message

end RegistryError

end JobDispatch

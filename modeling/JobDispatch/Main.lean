import JobDispatch.Client.Transfer
import JobDispatch.CommandLine.Run
import Std.Async.DNS
import Std.Async.TCP

/-!
The program: it reads its arguments, asks the registry over the network and prints the answer.
-/

namespace JobDispatch.CommandLine

open Std.Async

/-- Receives until the other side ends the connection. -/
partial def receive (socket : TCP.Socket.Client) (got : ByteArray) : Async ByteArray := do
  match ← socket.recv? 65536 with
  | some more => receive socket (got ++ more)
  | none => return got

/-- Sends a request to the first address of a host, and receives what comes back. -/
def exchange (url : Http.Url) (r : Http.Request) : Async Reply := do
  let addresses ← DNS.getAddrInfo url.host (Text.decimal url.port)
  match addresses[0]? with
  | none => return .nothing "the host has no address"
  | some address =>
    let port := url.port.toUInt16
    let socket ← TCP.Socket.Client.mk
    socket.connect <| match address with
      | .v4 a => .v4 ⟨a, port⟩
      | .v6 a => .v6 ⟨a, port⟩
    socket.send ⟨(r.bytes (url.host ++ ":" ++ Text.decimal url.port)).toArray⟩
    return Reply.ofBytes (← receive socket .empty).toList

/-- Carries a request to the registry; what goes wrong on the way is the reason for no reply. -/
def carry (url : Http.Url) (r : Http.Request) : IO Reply := do
  if url.secure then return .nothing "secure connections are not supported"
  try (exchange url r).block
  catch e => return .nothing (toString e)

/-- Says what failed, and gives the status of the program. -/
def complain (f : Failure) : IO UInt32 := do
  let lines := match f.context with
    | [] => ["Error: " ++ f.cause]
    | c :: _ => ["Error: " ++ c, "", "Caused by:", "    " ++ f.cause]
  IO.eprintln ("\n".intercalate lines)
  return 1

end JobDispatch.CommandLine

open JobDispatch CommandLine in
def main (args : List String) : IO UInt32 := do
  let url ← IO.getEnv Invocation.registryUrlVariable
  let env : Environment := fun name => if name = Invocation.registryUrlVariable then url else none
  match Invocation.read env args with
  | .error .help =>
    IO.println UsageError.help.message
    return 0
  | .error e =>
    IO.eprintln ("error: " ++ e.message)
    return 2
  | .ok invocation =>
    let brush := if ← (← IO.getStdout).isTty then Brush.colours else Brush.none
    match ← (invocation.run carry brush).run with
    | .ok shown =>
      IO.print shown
      return 0
    | .error f => complain f

import JobDispatch.Client.Call

/-!
Requests and responses as the bytes that travel: the head, line by line, and the body behind it.
-/

namespace JobDispatch.Http

/-- The end of a line. -/
def lineEnd : String := "\r\n"

/-- The bytes of a request to a host, over a connection that ends with the response. -/
def Request.bytes (r : Request) (host : String) : List UInt8 :=
  let length := Text.decimal r.body.utf8ByteSize
  let about (t : String) := ["content-type: " ++ t, "content-length: " ++ length]
  let body := (r.contentType.map about).getD []
  let head := [r.method.name ++ " " ++ String.ofList r.target ++ " HTTP/1.1", "host: " ++ host,
    "accept: */*", "connection: close"] ++ body ++ ["", ""]
  Text.utf8 (lineEnd.intercalate head).toList ++ Text.utf8 r.body.toList

/-- The lines of a head, and what stands behind the empty line at its end. -/
def splitHead (line : List UInt8) : List UInt8 → Option (List (List UInt8) × List UInt8)
  | 13 :: 10 :: r =>
    if line = [] then some ([], r)
    else (splitHead [] r).map fun p => (line.reverse :: p.1, p.2)
  | b :: r => splitHead (b :: line) r
  | [] => none

def lineText (line : List UInt8) : List Char := Text.decodeLossy line

/-- The name, in lower case, and the value of a header. -/
def headerOf (line : List UInt8) : String × String :=
  let s := lineText line
  (String.ofList ((s.takeWhile (· != ':')).map Char.toLower),
    Text.trim (String.ofList ((s.dropWhile (· != ':')).drop 1)))

/-- The status in the first line of a response. -/
def statusOf (line : List UInt8) : Option Nat :=
  match (lineText line).splitOn ' ' with
  | _ :: status :: _ => (Text.readDigits status).filter fun n => status.length = 3 ∧ 100 ≤ n
  | _ => none

def ofHex? (s : List Char) : Option Nat :=
  if s = [] then none
  else s.foldlM (fun n c => (hexValue? c).map fun d => n * 16 + d) 0

/-- The bytes of a body that comes in chunks, each with its length before it; absent where it
breaks off. -/
def joinChunks (bs : List UInt8) : Option (List UInt8) :=
  let length := bs.takeWhile (· != 13)
  let rest := (bs.drop (length.length + 2))
  match ofHex? ((lineText length).takeWhile fun c => c != ';' && c != ' ') with
  | none => none
  | some 0 => some []
  | some n =>
    if rest.length < n + 2 then none
    else (joinChunks (rest.drop (n + 2))).map (rest.take n ++ ·)
termination_by bs.length
decreasing_by simp only [List.length_drop]; grind

end JobDispatch.Http

namespace JobDispatch

open Http

/-- The reply in the bytes that came before a connection ended. -/
def Reply.ofBytes (bs : List UInt8) : Reply :=
  match splitHead [] bs with
  | some (first :: lines, rest) =>
    match statusOf first with
    | none => nothing "the response has no status"
    | some status =>
      let headers := lines.map headerOf
      let chunked := (headers.lookup "transfer-encoding").any fun v => v.toLower == "chunked"
      let body := if chunked then joinChunks rest
        else match (headers.lookup "content-length").bind (Text.readNat Text.maxWord) with
          | some n => if rest.length < n then none else some (rest.take n)
          | none => some rest
      match body with
      | some body => full status body
      | none => cut status
  | _ => nothing "the connection ended before a response"

end JobDispatch

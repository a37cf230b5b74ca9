import BlobCluster.Http.MediaType
import BlobCluster.Http.Message
import BlobCluster.Http.Path

/-!
# Reading requests

What a handler takes from a request before it calls its service: the value of a path segment, a
whole body of limited length, or a JSON form in it.  A request from which that cannot be taken is
refused in words, with a status that tells why.
-/

namespace BlobCluster.Http

/-! ## Refusals -/

/-- Nothing is at this path. -/
def notFound : Response := .bare 404

/-- Something is at this path, but not for this method. -/
def wrongMethod : Response := .bare 405

def badSegment : Response := .plain 400 "Invalid UTF-8 in \x60hash\x60"

def tooLong : Response := .plain 413 "length limit exceeded"

/-- Why a body cannot be taken as a whole. -/
inductive BodyFault where
  | tooLong
  | broken (e : Failure)
  deriving DecidableEq, Repr

def BodyFault.response : BodyFault → Response
  | tooLong => .plain 413 "Failed to buffer the request body: length limit exceeded"
  | broken e => .plain 400 ("Failed to buffer the request body: " ++ e.display)

def wrongType : Response :=
  .plain 415 "Expected request with \x60Content-Type: application/json\x60"

/-- The response to a body that is not the JSON wanted. -/
def jsonFault : Json.Fault → Response
  | .malformed => .plain 400 "Failed to parse the request body as JSON"
  | .mismatched => .plain 422 "Failed to deserialize the JSON body into the target type"

/-! ## Values -/

/-- Goes on with the value of a segment. -/
def withSegment {σ : Type} (segment : String) (next : String → StateM σ Response) :
    StateM σ Response :=
  match segmentValue? segment with
  | some value => next value
  | none => pure badSegment

/-! ## Bodies -/

/-- Takes the pieces of a body as long as they stay within a limit.  The limit is on what has come
so far, so a body that is too long is refused before it has come as a whole. -/
def takeBody (limit : Nat) : Arriving Bytes → Except BodyFault Bytes
  | [] => .ok []
  | .error e :: _ => .error (.broken e)
  | .ok piece :: rest =>
    if limit < piece.length then .error .tooLong
    else (takeBody (limit - piece.length) rest).map (piece ++ ·)

/-- A number without sign, as the length of a body is announced. -/
def readLength? (bytes : Bytes) : Option Nat :=
  let digits := match bytes with
    | 0x2B :: rest => rest
    | other => other
  if !digits.isEmpty && digits.all (fun b => 0x30 ≤ b && b ≤ 0x39) then
    let n := digits.foldl (fun acc b => 10 * acc + (b.toNat - 48)) 0
    if n < UInt64.size then some n else none
  else none

/-- The length that a request announces for its body. -/
def announcedLength? (request : Request) : Option Nat :=
  (request.header? "content-length").bind readLength?

/-- The most bytes that a body may have under a limit; none if it announces more. -/
def bodyLimit? (limit : Nat) (request : Request) : Option Nat :=
  match announcedLength? request with
  | none => some limit
  | some length => if limit < length then none else some length

/-- The JSON form in a body.  What follows the form in the body does not count. -/
def readForm {α : Type} (limit : Nat) (reading : Json.Reading α) (request : Request) :
    Except Response α :=
  if !((request.header? "content-type").any MediaType.isJson) then .error wrongType
  else match takeBody limit request.body with
    | .error fault => .error fault.response
    | .ok body =>
      match reading (Json.readValue body).1 with
      | .error fault => .error (jsonFault fault)
      | .ok form => .ok form

/-- The pieces of a body as chunks of a blob; where it breaks, the sender is gone. -/
def bodyChunks (request : Request) : Arriving Bytes :=
  request.body.map fun piece =>
    piece.mapError fun e => ⟨.cancelled, "request body: " ++ e.display⟩

/-! ## Methods -/

/-- Whether the method asks for a resource, with or without its body. -/
def isGet (request : Request) : Bool := request.method == "GET" || request.method == "HEAD"

/-- The response as it is sent for the method: without body if none was asked for. -/
def forMethod (request : Request) (response : Response) : Response :=
  if request.method == "HEAD" then response.withoutBody else response

end BlobCluster.Http

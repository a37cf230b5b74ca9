import BlobCluster.Http.Status
import BlobCluster.Messages
import BlobCluster.Wire.Forms

/-!
# Requests and responses

What nodes send each other: a request with its target, headers and a body that arrives in pieces,
and a response with a body that is whole or served as a stream.  A failure is sent as a small JSON
body under the status of its code; `Response.check` reads it back, so that a failure keeps its code
and message over any number of hops.
-/

namespace BlobCluster.Http

structure Request where
  method : String
  /-- Path and query, or a whole address. -/
  target : String
  headers : List (String × Bytes)
  /-- The body in pieces; a failure where it breaks. -/
  body : Arriving Bytes

inductive Body where
  | whole (bytes : Bytes)
  | stream (source : ChunkStream)
  deriving DecidableEq, Repr

structure Response where
  status : Nat
  mediaType : Option String
  body : Body
  deriving DecidableEq, Repr

def jsonType : String := "application/json"
def octetType : String := "application/octet-stream"
def plainType : String := "text/plain; charset=utf-8"

namespace Request

/-- The value of a header; names do not tell case. -/
def header? (request : Request) (name : String) : Option Bytes :=
  (request.headers.find? fun header => header.1.toLower == name).map (·.2)

end Request

namespace Response

def bare (status : Nat) : Response := ⟨status, none, .whole []⟩

def json (status : Nat) (value : Json) : Response :=
  ⟨status, some jsonType, .whole (Bytes.toUtf8 value.render)⟩

/-- A refusal in words. -/
def plain (status : Nat) (text : String) : Response :=
  ⟨status, some plainType, .whole (Bytes.toUtf8 text)⟩

/-- A stream of bytes. -/
def octets (source : ChunkStream) : Response := ⟨200, some octetType, .stream source⟩

def ofFailure (e : Failure) : Response := .json e.status (Wire.FailureForm.ofFailure e).toJson

/-- The response to a call with this outcome. -/
def ofResult {α : Type} (respond : α → Response) : Except Failure α → Response
  | .ok a => respond a
  | .error e => ofFailure e

def withoutBody (response : Response) : Response := { response with body := .whole [] }

/-- The body of a stream broke off on the way. -/
def brokenBody : Failure := ⟨.http, "error decoding response body"⟩

/-- All bytes of the body, if it arrives. -/
def bytes (response : Response) : Except Failure Bytes :=
  match response.body with
  | .whole bytes => .ok bytes
  | .stream source =>
    match source.failure with
    | none => .ok source.bytes
    | some _ => .error brokenBody

/-- What a response that is no success says. -/
def failureOf (status : Nat) (body : Bytes) : Failure :=
  match Json.decode? Wire.FailureForm.read body with
  | some form => form.failure
  | none => ⟨.http, "status " ++ Status.text status ++ ": " ++ Bytes.lossyUtf8 body⟩

/-- A successful response passes; any other is the failure it stands for. -/
def check (response : Response) : Except Failure Response :=
  if Status.isSuccess response.status then .ok response
  else match response.bytes with
    | .error e => .error e
    | .ok body => .error (failureOf response.status body)

end Response

end BlobCluster.Http

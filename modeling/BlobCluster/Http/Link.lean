import BlobCluster.Http.Address
import BlobCluster.Http.Message

/-!
# Sending requests

A client sends a request for an address over a link and takes the response.  A link may be down:
then nothing is sent, and the failure names the address.  An address that cannot be read, or to
which nothing can be sent, fails before that.
-/

namespace BlobCluster.Http

/-- Whether nodes reach each other. -/
inductive Link where
  | up
  | down
  deriving DecidableEq, Repr

/-- A request before its address is read.  The address is a text by which the sender means a node
and an id; what the text stands for is decided by its reader. -/
structure Draft where
  method : String
  /-- The address as text. -/
  address : String
  headers : List (String × Bytes) := []
  body : Arriving Bytes := []

namespace Draft

def json (method address : String) (form : Json) : Draft :=
  let body := Bytes.toUtf8 form.render
  { method, address, headers := [("content-type", Bytes.toUtf8 jsonType)], body := [.ok body] }

def request (draft : Draft) (address : Address) : Request :=
  ⟨draft.method, address.target, draft.headers, draft.body⟩

end Draft

def badAddress : Failure := ⟨.http, "builder error"⟩

/-- Nothing can be sent to the address of a request. -/
def badTarget (address : Address) : Failure :=
  ⟨.http, "builder error for url (" ++ address.text ++ ")"⟩

/-- The request did not get through. -/
def notSent (address : Address) : Failure :=
  ⟨.http, "error sending request for url (" ++ address.text ++ ")"⟩

def badResponse : Failure := ⟨.http, "error decoding response body"⟩

/-- The body of a request arrives whole. -/
def arrivesWhole (body : Arriving Bytes) : Bool :=
  body.all fun piece => match piece with | .ok _ => true | .error _ => false

/-- Sends a request over a link to who serves it, and takes a successful response.  A body that
breaks reaches the server as far as it goes, but the client does not get the response. -/
def send {σ : Type} (link : Link) (draft : Draft) (serve : Request → StateM σ Response) :
    StateM σ (Except Failure Response) :=
  match Address.parse draft.address with
  | .error _ => pure (.error badAddress)
  | .ok address =>
    if !address.isTarget then pure (.error (badTarget address))
    else match link with
      | .down => pure (.error (notSent address))
      | .up => do
        let response ← serve (draft.request address)
        return if arrivesWhole draft.body then response.check else .error (notSent address)

def readResponse {α : Type} (reading : Json.Reading α) (response : Response) : Except Failure α :=
  match response.bytes with
  | .error e => .error e
  | .ok body =>
    match Json.decode? reading body with
    | some form => .ok form
    | none => .error badResponse

end BlobCluster.Http

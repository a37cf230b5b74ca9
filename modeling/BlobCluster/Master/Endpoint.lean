import BlobCluster.Http.Body
import BlobCluster.Master.Basic

/-!
# The endpoints of a master

How a master is called by requests.  The request is read, the call is made, and its answer or
failure becomes the response.  Requests to a master are small documents, so long bodies are
refused.
-/

namespace BlobCluster.Master

open Http Wire

def bodyLimit : Nat := 64 * 1024

/-- What the paths of a master stand for. -/
inductive Endpoint where
  | health
  | place
  | locate (segment : String)
  | forget (segment : String)
  | confirm
  | register
  deriving DecidableEq, Repr

def Endpoint.of? : List String → Option Endpoint
  | ["", "health"] => some .health
  | ["", "workers-to-save"] => some .place
  | ["", "blob", segment, "worker"] => some (.locate segment)
  | ["", "blob", segment] => if segment.isEmpty then none else some (.forget segment)
  | ["", "notify-saved"] => some .confirm
  | ["", "register"] => some .register
  | _ => none

/-- An endpoint answers this request's method. -/
def Endpoint.answers (endpoint : Endpoint) (request : Request) : Bool :=
  match endpoint with
  | .health | .locate _ => isGet request
  | .forget _ => request.method == "DELETE"
  | .place | .confirm | .register => request.method == "POST"

def wellResponse (role : String) : Response :=
  .json 200 (Json.record [("role", Json.text role), ("status", Json.text "ok")])

def responding (now : Int64) (call : MasterCall) (respond : call.Answer → Response) :
    StateM Master Response := fun master =>
  let (answer, master) := master.answer now call
  (.ofResult respond answer, master)

/-- Makes the call that a JSON body asks for. -/
def withForm {α : Type} (limit : Nat) (reading : Json.Reading α) (request : Request)
    (next : α → StateM Master Response) : StateM Master Response :=
  match readForm limit reading request with
  | .ok form => next form
  | .error response => pure response

def serveEndpoint (now : Int64) (limit : Nat) (request : Request) :
    Endpoint → StateM Master Response
  | .health => responding now .health fun () => wellResponse "master"
  | .locate segment => withSegment segment fun blob =>
    responding now (.locate blob) fun address => .json 200 (HolderForm.toJson ⟨address⟩)
  | .forget segment => withSegment segment fun blob =>
    responding now (.forget blob) fun addresses => .json 200 (HoldersForm.toJson ⟨addresses⟩)
  | .place => withForm limit PlacementForm.read request fun form =>
    responding now (.place form.blob form.size) fun addresses =>
      .json 200 (HoldersForm.toJson ⟨addresses⟩)
  | .confirm => withForm limit ConfirmationForm.read request fun form =>
    responding now (.confirm form.blob form.worker) fun () => .bare 204
  | .register => withForm limit RegistrationForm.read request fun form =>
    responding now (.register form.address form.available) fun () => .bare 204

def respond (now : Int64) (request : Request) : StateM Master Response := do
  match bodyLimit? bodyLimit request with
  | none => return forMethod request tooLong
  | some limit =>
    match Endpoint.of? (segments request.target) with
    | none => return notFound
    | some endpoint =>
      if endpoint.answers request then
        return forMethod request (← serveEndpoint now limit request endpoint)
      else return wrongMethod

end BlobCluster.Master

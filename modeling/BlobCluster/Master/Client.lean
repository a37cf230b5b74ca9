import BlobCluster.Http.Link
import BlobCluster.Master.Endpoint

/-!
# Calling a master over a link

A call becomes a request to the master's endpoint, and the response its answer.  Blob ids stand in
the address as they are.
-/

namespace BlobCluster.MasterCall

open Http Wire

/-- The request that makes a call of the master at a base address. -/
def draft (base : String) : MasterCall → Draft
  | .health => { method := "GET", address := base ++ "/health" }
  | .place blob size => .json "POST" (base ++ "/workers-to-save") (PlacementForm.toJson ⟨blob, size⟩)
  | .locate blob => { method := "GET", address := base ++ "/blob/" ++ blob ++ "/worker" }
  | .confirm blob worker =>
    .json "POST" (base ++ "/notify-saved") (ConfirmationForm.toJson ⟨blob, worker⟩)
  | .register address available =>
    .json "POST" (base ++ "/register") (RegistrationForm.toJson ⟨address, available⟩)
  | .forget blob => { method := "DELETE", address := base ++ "/blob/" ++ blob }

def readAnswer : (call : MasterCall) → Response → Except Failure call.Answer
  | .health, _ | .confirm _ _, _ | .register _ _, _ => .ok ()
  | .place _ _, response | .forget _, response =>
    (readResponse HoldersForm.read response).map (·.addresses)
  | .locate _, response => (readResponse HolderForm.read response).map (·.address)

/-- Makes a call over a link. -/
def through (link : Link) (base : String) (now : Int64) (call : MasterCall) :
    StateM Master (Except Failure call.Answer) := do
  match ← send link (call.draft base) (Master.respond now) with
  | .error e => return .error e
  | .ok response => return call.readAnswer response

end BlobCluster.MasterCall

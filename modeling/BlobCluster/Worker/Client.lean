import BlobCluster.Http.Link
import BlobCluster.Worker.Basic

/-!
# Requests to a worker

The requests by which a client calls a worker.  A save is checked as far as its first message
goes before anything is sent; the rest of its messages become the pieces of the body.
-/

namespace BlobCluster.Worker

open Http

/-- The address of a blob on a worker; the id stands in it as it is. -/
def blobAddress (base blob : String) : String := base ++ "/blob/" ++ blob

def healthDraft (base : String) : Draft := { method := "GET", address := base ++ "/health" }

def freeStorageDraft (base : String) : Draft :=
  { method := "GET", address := base ++ "/free-storage" }

def readDraft (base blob : String) : Draft := { method := "GET", address := blobAddress base blob }

def removeDraft (base blob : String) : Draft :=
  { method := "DELETE", address := blobAddress base blob }

/-- The messages after the first as pieces of a body, up to the first failure. -/
def pieces : Arriving SaveMessage → Arriving Bytes
  | [] => []
  | .ok (.chunk bytes) :: rest => .ok bytes :: pieces rest
  | .ok (.blob _) :: _ => [.error ⟨.invalidArgument, "second hash message in save stream"⟩]
  | .error e :: _ => [.error e]

/-- The request of a save, unless its first message is wrong. -/
def saveDraft (base : String) : Arriving SaveMessage → Except Failure Draft
  | [] => .error ⟨.invalidArgument, "empty save stream"⟩
  | .ok (.chunk _) :: _ => .error ⟨.invalidArgument, "save stream must start with the blob hash"⟩
  | .error e :: _ => .error e
  | .ok (.blob blob) :: rest =>
    .ok { method := "PUT", address := blobAddress base blob, body := pieces rest }

end BlobCluster.Worker

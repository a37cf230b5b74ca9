import BlobCluster.Cluster.Basic

/-!
# Calls of workers

What a worker does when it is called, and how it is called.  A worker that has saved a blob tells
the master that owns it; the file stays where it is if that fails.  Over a link the call becomes a
request to the worker's endpoints.
-/

namespace BlobCluster.Cluster

open Http Wire

/-! ## At the worker -/

/-- A worker saves an arriving blob and has it confirmed. -/
def saveAt (i : Nat) (messages : Arriving SaveMessage) : Acting Unit := do
  let (blob, address) ← atWorker i fun worker =>
    let (answer, worker) := worker.save messages
    (answer.map (·, worker.address), worker)
  reporting (during ("notify master about " ++ blob)) (callOwner blob (.confirm blob address))

/-- A stream that is still to be handed out by the worker it was opened at. -/
structure Download where
  stream : ChunkStream
  /-- The worker that hands it out. -/
  source : Option Nat

def readAt (i : Nat) (blob : String) : Acting Download := do
  return ⟨← atWorker i fun worker => worker.read blob, some i⟩

/-- Takes a stream to its end or its first failure.  A body that a worker streams is served by it
while it is taken, so an outage that concerns chunks strikes here and not when the stream was
opened. -/
def pull (download : Download) : StateM Cluster ChunkStream := fun cluster =>
  match download.source with
  | none => (download.stream, cluster)
  | some i =>
    match cluster.workers[i]? with
    | none => (download.stream, cluster)
    | some worker =>
      let (stream, worker) := worker.deliver download.stream
      (stream, { cluster with workers := cluster.workers.set i worker })

def removeAt (i : Nat) (blob : String) : Acting Unit := atWorker i fun worker => worker.remove blob

/-! ## Endpoints -/

/-- What the paths of a worker stand for. -/
inductive StorageEndpoint where
  | health
  | freeStorage
  | blob (segment : String)
  deriving DecidableEq, Repr

def StorageEndpoint.of? : List String → Option StorageEndpoint
  | ["", "health"] => some .health
  | ["", "free-storage"] => some .freeStorage
  | ["", "blob", segment] => if segment.isEmpty then none else some (.blob segment)
  | _ => none

/-- Turns the outcome of an action into a response. -/
def responding {α : Type} (action : Acting α) (respond : α → Response) :
    StateM Cluster Response := do
  return .ofResult respond (← action.run)

/-- The response of a stream; it is handed out only if its body was asked for. -/
def streaming (request : Request) (open_ : Acting Download) : StateM Cluster Response := do
  match ← open_.run with
  | .error e => return .ofFailure e
  | .ok download =>
    if request.method == "HEAD" then return .octets ⟨[], none⟩
    else return .octets (← pull download)

def serveStorage (i : Nat) (request : Request) : StorageEndpoint → StateM Cluster Response
  | .health =>
    if isGet request then
      responding (atWorker i Worker.health) fun () => Master.wellResponse "worker"
    else pure wrongMethod
  | .freeStorage =>
    if isGet request then
      responding (atWorker i Worker.freeStorage) fun bytes =>
        .json 200 (FreeStorageForm.toJson ⟨bytes⟩)
    else pure wrongMethod
  | .blob segment =>
    if isGet request then withSegment segment fun blob => streaming request (readAt i blob)
    else if request.method == "PUT" then withSegment segment fun blob =>
      responding (saveAt i (saveMessages blob (bodyChunks request))) fun () => .bare 201
    else if request.method == "DELETE" then withSegment segment fun blob =>
      responding (removeAt i blob) fun () => .bare 204
    else pure wrongMethod

def respondAt (i : Nat) (request : Request) : StateM Cluster Response := do
  match StorageEndpoint.of? (segments request.target) with
  | none => return notFound
  | some endpoint => return forMethod request (← serveStorage i request endpoint)

/-! ## From other nodes -/

def sendTo (i : Nat) (link : Link) (draft : String → Except Failure Draft) : Acting Response := do
  let base ← atWorker i fun worker => (.ok (Http.baseOf worker.address), worker)
  let draft ← (draft base : Except Failure Draft)
  ExceptT.mk (send link draft (respondAt i))

def workerHealth (i : Nat) : Acting Unit := do
  match (← get).transport with
  | .direct => atWorker i Worker.health
  | .through link =>
    let _ ← sendTo i link fun base => .ok (Worker.healthDraft base)

def workerFree (i : Nat) : Acting UInt64 := do
  match (← get).transport with
  | .direct => atWorker i Worker.freeStorage
  | .through link =>
    let response ← sendTo i link fun base => .ok (Worker.freeStorageDraft base)
    return (← (readResponse FreeStorageForm.read response : Except Failure FreeStorageForm)).bytes

def saveOn (i : Nat) (messages : Arriving SaveMessage) : Acting Unit := do
  match (← get).transport with
  | .direct => saveAt i messages
  | .through link =>
    let _ ← sendTo i link fun base => Worker.saveDraft base messages

/-- The stream in the body of a response; where it broke, the client sees only that. -/
def bodyStream (response : Response) : ChunkStream :=
  match response.body with
  | .whole bytes => ⟨if bytes.isEmpty then [] else [bytes], none⟩
  | .stream source => source.reporting fun _ => Response.brokenBody

def readOn (i : Nat) (blob : String) : Acting Download := do
  match (← get).transport with
  | .direct => readAt i blob
  | .through link =>
    let response ← sendTo i link fun base => .ok (Worker.readDraft base blob)
    return ⟨bodyStream response, none⟩

def removeOn (i : Nat) (blob : String) : Acting Unit := do
  match (← get).transport with
  | .direct => removeAt i blob
  | .through link =>
    let _ ← sendTo i link fun base => .ok (Worker.removeDraft base blob)

end BlobCluster.Cluster

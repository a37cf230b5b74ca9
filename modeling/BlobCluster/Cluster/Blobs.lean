import BlobCluster.Cluster.Storage

/-!
# Blobs of a cluster

What the gateway does for clients.  An upload is buffered, placed by the master that owns it, and
saved on every worker of the placement in turn; only then is the scratch file removed.  A read is
relayed from the first worker with a saved copy.  A delete makes the master forget the blob, and
may remove the files of its holders as well, which cannot make it fail.
-/

namespace BlobCluster.Cluster

/-! ## Uploading -/

def noRoute (address : String) : Failure := ⟨.cancelled, "no route to worker " ++ address⟩

/-- The worker that the gateway reaches under an address. -/
def connect (address : String) : Acting Nat := do
  match (← get).route? address with
  | some i => return i
  | none => throw (noRoute address)

/-- Saves a buffered upload on a worker. -/
def saveCopy (upload : Buffered) (address : String) : Acting Unit := do
  let i ← reporting (during ("worker " ++ address)) (connect address)
  let stream := upload.file.stream (← get).gateway.volume
  reporting (during ("save on " ++ address)) (saveOn i (saveMessages upload.blob stream.arriving))

/-- Saves a buffered upload on one worker after the other. -/
def saveCopies (upload : Buffered) : List String → Acting Unit
  | [] => return ()
  | address :: rest => do
    saveCopy upload address
    saveCopies upload rest

/-- Stores an arriving blob and answers its identity. -/
def upload (messages : Arriving UploadMessage) : Acting String := do
  let cluster ← get
  let upload ← atGateway
    (Gateway.bufferIn cluster.gateway.scratch cluster.gateway.algorithm messages)
  let addresses ← reporting (during ("placement of " ++ upload.blob))
    (callOwner upload.blob (.place upload.blob upload.size))
  saveCopies upload addresses
  let _ ← atGateway upload.file.remove
  return upload.blob

/-! ## Downloading -/

/-- A lookup that finds nothing says so, any other failure is one of the lookup. -/
def lookupFailure (blob : String) (e : Failure) : Failure :=
  match e.kind with
  | .notFound => e
  | _ => during ("lookup of " ++ blob) e

/-- A stream relayed from the worker with an address. -/
structure Relay where
  download : Download
  address : String

def openBlob (blob : String) : Acting Relay := do
  BlobId.validate blob
  let address ← reporting (lookupFailure blob) (callOwner blob (.locate blob))
  let i ← reporting (during ("worker " ++ address)) (connect address)
  let download ← reporting (during ("read from " ++ address)) (readOn i blob)
  return ⟨download, address⟩

/-- Takes a relayed stream to its end or its first failure. -/
def pullRelay (relay : Relay) : StateM Cluster ChunkStream := do
  return (← pull relay.download).reporting (during ("relay from " ++ relay.address))

/-- The chunks of a blob as one worker has them. -/
def downloadFrom (i : Nat) (blob : String) : Acting ChunkStream := do
  let opened ← readOn i blob
  let stream ← (pull opened : StateM Cluster ChunkStream)
  return stream

def download (blob : String) : Acting ChunkStream := do
  let relay ← openBlob blob
  let stream ← (pullRelay relay : StateM Cluster ChunkStream)
  return stream

/-! ## Deleting -/

/-- Tries to remove a blob from a holder and says whether that went well.  Why it did not is not
told: a deletion counts successes and goes on. -/
def purgeFrom (blob address : String) : StateM Cluster Bool := do
  match (← get).route? address with
  | none => return false
  | some i =>
    match ← (removeOn i blob).run with
    | .ok () => return true
    | .error _ => return false

/-- How many of the holders could be purged of a blob. -/
def purge (blob : String) : List String → StateM Cluster Nat
  | [] => return 0
  | address :: rest => do
    let purged ← purgeFrom blob address
    let others ← purge blob rest
    return if purged then others + 1 else others

def delete (blob : String) : Acting Wire.DeleteReport := do
  BlobId.validate blob
  let holders ← reporting (during ("delete of " ++ blob)) (callOwner blob (.forget blob))
  let purged ← if (← get).gateway.purge then
    (purge blob holders : StateM Cluster Nat)
  else pure 0
  return ⟨UInt64.ofNat holders.length, UInt64.ofNat purged⟩

end BlobCluster.Cluster

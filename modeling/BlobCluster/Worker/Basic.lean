import BlobCluster.Digest
import BlobCluster.Messages
import BlobCluster.Outage

/-!
# Workers

A worker keeps blobs as files named by their digest.  Bytes that arrive are first written under a
temporary name; only if their digest is the identity that was announced does the file get its
name, so a file with the name of a digest has that digest.  Whatever goes wrong before, the
temporary file is removed.
-/

namespace BlobCluster

/-- The calls of a worker; `chunk` is each chunk that it serves. -/
inductive WorkerCall where
  | health
  | freeStorage
  | save
  | read
  | remove
  | chunk
  deriving DecidableEq, Repr

structure Worker where
  /-- Under which address the worker is registered and reached. -/
  address : String
  volume : Volume
  store : ChunkStore
  algorithm : Digest.Algorithm
  /-- Bytes left on the disk of the volume. -/
  capacity : UInt64
  /-- Gateways reach the worker. -/
  reachable : Bool
  outages : Outages WorkerCall

namespace Worker

variable {α : Type}

/-- A worker without a master has nobody to confirm its blobs. -/
def noMaster : Failure := ⟨.invalidConfig, "worker needs at least one master"⟩

/-- A worker with its blobs in a folder, one among so many masters' workers. -/
def start (volume : Volume) (address root : String) (chunkSize : Nat)
    (algorithm : Digest.Algorithm) (masters : Nat) : Except Failure Worker :=
  match ChunkStore.open root chunkSize volume with
  | (.error e, _) => .error e
  | (.ok store, volume) =>
    if masters = 0 then .error noMaster
    else .ok {
      address, volume, store, algorithm
      capacity := 0
      reachable := true
      outages := [] }

/-! ## Saving -/

/-- Writes arriving chunks to a file and into the digest, until the stream ends. -/
def receive (blob : String) (file : ChunkFile) (hasher : Digest.Hasher) :
    Arriving SaveMessage → Storing Digest.Hasher
  | [] => return hasher
  | .ok (.chunk bytes) :: rest => do
    let file ← file.append bytes
    receive blob file (hasher.addChunk bytes) rest
  | .ok (.blob _) :: _ => throw ⟨.invalidArgument, "second hash message in save stream of " ++ blob⟩
  | .error e :: _ =>
    throw ⟨.cancelled, "save stream of " ++ blob ++ " interrupted after " ++ toString file.size
      ++ " bytes: " ++ e.display⟩

def hashMismatch : Failure := ⟨.invalidArgument, "hash mismatch"⟩

/-- Fills a temporary file and gives it the name of the blob, if the bytes have that digest.  The
renaming is the only step that makes the blob visible under its name. -/
def fill (store : ChunkStore) (algorithm : Digest.Algorithm) (blob : String) (file : ChunkFile)
    (messages : Arriving SaveMessage) : Storing Unit := do
  let hasher ← receive blob file (.start algorithm) messages
  if hasher.finish = blob then
    let _ ← store.persist file blob
  else throw hashMismatch

def discarding (file : ChunkFile) (action : Storing Unit) : Storing Unit := fun volume =>
  match action volume with
  | (.ok (), volume) => (.ok (), volume)
  | (.error e, volume) => (.error e, (file.remove volume).2)

/-- Saves an arriving blob and answers its identity.  Whatever goes wrong after the temporary file
was made, it is discarded. -/
def saveIn (store : ChunkStore) (algorithm : Digest.Algorithm) :
    Arriving SaveMessage → Storing String
  | [] => throw ⟨.invalidArgument, "empty save stream"⟩
  | .ok (.chunk _) :: _ => throw ⟨.invalidArgument, "save stream must start with the blob hash"⟩
  | .error e :: _ => throw ⟨.cancelled, "save stream failed: " ++ e.display⟩
  | .ok (.blob blob) :: rest => do
    BlobId.validate blob
    let file ← store.createTemporary
    discarding file (fill store algorithm blob file rest)
    return blob

/-! ## Reading and removing -/

def readFrom (store : ChunkStore) (blob : String) : Storing ChunkStream := do
  let file ← store.load blob
  return file.stream (← get)

def removeFrom (store : ChunkStore) (blob : String) : Storing Unit := do
  let file ← store.load blob
  if ← file.remove then return ()
  else throw ⟨.notFound, "blob " ++ blob⟩

/-! ## Calls -/

def onVolume (worker : Worker) (action : Storing α) : Except Failure α × Worker :=
  let (answer, volume) := action worker.volume
  (answer, { worker with volume })

/-- A call that may be struck by an outage. -/
def attempt (worker : Worker) (call : WorkerCall) (action : Storing α) :
    Except Failure α × Worker :=
  match worker.outages.strike call with
  | (some e, outages) => (.error e, { worker with outages })
  | (none, outages) => { worker with outages }.onVolume action

def health (worker : Worker) : Except Failure Unit × Worker := worker.attempt .health (pure ())

/-- Free bytes of a disk, if the folder of the store is there. -/
def freeOn (store : ChunkStore) (capacity : UInt64) : Storing UInt64 := do
  match (← get).find store.root with
  | .error e => throw ⟨.storage, "cannot resolve " ++ store.label ++ ": " ++ e.text⟩
  | .ok _ => return capacity

def freeStorage (worker : Worker) : Except Failure UInt64 × Worker :=
  worker.attempt .freeStorage (freeOn worker.store worker.capacity)

/-- Saves an arriving blob; the answer is the identity to confirm at its master. -/
def save (worker : Worker) (messages : Arriving SaveMessage) : Except Failure String × Worker :=
  worker.attempt .save (saveIn worker.store worker.algorithm messages)

def read (worker : Worker) (blob : String) : Except Failure ChunkStream × Worker :=
  worker.attempt .read (readFrom worker.store blob)

def remove (worker : Worker) (blob : String) : Except Failure Unit × Worker :=
  worker.attempt .remove (removeFrom worker.store blob)

/-- Hands out chunks one by one until an outage strikes or they end.  A failure of the reader comes
after the chunks that were read, and an outage ends the stream before that. -/
def serve (worker : Worker) (failure : Option Failure) : List Bytes → ChunkStream × Worker
  | [] => (⟨[], failure⟩, worker)
  | chunk :: rest =>
    match worker.outages.strike .chunk with
    | (some e, outages) => (⟨[], some e⟩, { worker with outages })
    | (none, outages) =>
      let (stream, worker) := { worker with outages }.serve failure rest
      ({ stream with chunks := chunk :: stream.chunks }, worker)

/-- Hands out a stream that was opened for reading. -/
def deliver (worker : Worker) (stream : ChunkStream) : ChunkStream × Worker :=
  worker.serve stream.failure stream.chunks

end Worker

end BlobCluster

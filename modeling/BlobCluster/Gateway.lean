import BlobCluster.Digest
import BlobCluster.Messages
import BlobCluster.Text.Size

/-!
# Gateways

A gateway takes the blobs of clients.  Before it knows where a blob belongs it has to know its
digest, so the bytes of an upload are first buffered in a scratch file.  An upload that is refused
after its header leaves the scratch file behind.
-/

namespace BlobCluster

/-- A gateway: its files, the store over them, and its settings. -/
structure Gateway where
  volume : Volume
  scratch : ChunkStore
  algorithm : Digest.Algorithm
  /-- Deleting a blob also removes the files of its workers. -/
  purge : Bool

/-- An upload in its scratch file. -/
structure Buffered where
  file : ChunkFile
  blob : String
  /-- Megabytes to reserve for it. -/
  size : UInt64
  deriving DecidableEq

namespace Gateway

/-- A gateway without a master has nobody to place its blobs. -/
def noMaster : Failure := ⟨.invalidConfig, "frontend needs at least one master"⟩

/-- A gateway with its scratch files in a folder, calling so many masters. -/
def start (volume : Volume) (root : String) (chunkSize : Nat) (algorithm : Digest.Algorithm)
    (purge : Bool) (masters : Nat) : Except Failure Gateway :=
  match ChunkStore.open root chunkSize volume with
  | (.error e, _) => .error e
  | (.ok scratch, volume) =>
    if masters = 0 then .error noMaster else .ok { volume, scratch, algorithm, purge }

/-- Writes arriving chunks to a scratch file and into the digest, until the stream ends. -/
def receive (file : ChunkFile) (hasher : Digest.Hasher) :
    Arriving UploadMessage → Storing (ChunkFile × Digest.Hasher)
  | [] => return (file, hasher)
  | .ok (.chunk bytes) :: rest => do
    let file ← file.append bytes
    receive file (hasher.addChunk bytes) rest
  | .ok (.info _) :: _ => throw ⟨.invalidArgument, "blob info sent more than once"⟩
  | .error e :: _ =>
    throw ⟨.cancelled, "upload interrupted after " ++ toString file.size ++ " bytes: " ++ e.display⟩

def wrongSize (declared : UInt64) (received : Nat) : Failure :=
  ⟨.invalidArgument, "declared " ++ toString declared.toNat ++ " bytes, received "
    ++ toString received⟩

def bufferIn (scratch : ChunkStore) (algorithm : Digest.Algorithm) :
    Arriving UploadMessage → Storing Buffered
  | [] => throw ⟨.invalidArgument, "empty upload stream"⟩
  | .ok (.chunk _) :: _ => throw ⟨.invalidArgument, "upload must start with the blob info"⟩
  | .error e :: _ => throw ⟨.cancelled, "upload stream failed: " ++ e.display⟩
  | .ok (.info declared) :: rest => do
    let file ← scratch.createTemporary
    let (file, hasher) ← receive file (.start algorithm) rest
    if file.size = declared.toNat then return ⟨file, hasher.finish, Text.megabytesFor declared⟩
    else throw (wrongSize declared file.size)

def onVolume {α : Type} (gateway : Gateway) (action : Storing α) : Except Failure α × Gateway :=
  let (answer, volume) := action gateway.volume
  (answer, { gateway with volume })

end Gateway

end BlobCluster

import BlobCluster.Failure
import BlobCluster.Storage.ChunkReader

/-!
# Message streams

Blobs travel as streams of messages: one that tells what is coming, then the bytes in chunks.  A
stream is a list of messages in which a failure may stand instead of a message.
-/

namespace BlobCluster

/-- Items that arrive one after the other, failures among them. -/
abbrev Arriving (α : Type) := List (Except Failure α)

inductive UploadMessage where
  /-- How many bytes will come. -/
  | info (size : UInt64)
  | chunk (bytes : Bytes)
  deriving DecidableEq, Repr

/-- A message to a worker that is to save a blob.  The id comes first and once; this is checked by
the worker and not by the type. -/
inductive SaveMessage where
  /-- The identity that the bytes are to have. -/
  | blob (id : String)
  | chunk (bytes : Bytes)
  deriving DecidableEq, Repr

/-- A save of a blob in chunks. -/
def saveMessages (blob : String) (chunks : Arriving Bytes) : Arriving SaveMessage :=
  .ok (.blob blob) :: chunks.map fun item => item.map .chunk

/-- An upload of so many bytes in chunks. -/
def uploadMessages (size : UInt64) (chunks : Arriving Bytes) : Arriving UploadMessage :=
  .ok (.info size) :: chunks.map fun item => item.map .chunk

namespace ChunkStream

/-- The chunks as they arrive, then the failure. -/
def arriving (stream : ChunkStream) : Arriving Bytes :=
  stream.chunks.map .ok ++ stream.failure.toList.map .error

/-- All bytes that arrive. -/
def bytes (stream : ChunkStream) : Bytes := stream.chunks.flatten

/-- A stream whose failure is reported by another one. -/
def reporting (stream : ChunkStream) (report : Failure → Failure) : ChunkStream :=
  { stream with failure := stream.failure.map report }

end ChunkStream

end BlobCluster

/-!
# Rows of a ledger

A master keeps one row for each worker, with its space, and one for each copy of a blob on a
worker.  Space is counted in megabytes of 64 bits.
-/

namespace BlobCluster

/-- How far a copy of a blob has come. -/
inductive CopyState where
  /-- Space is reserved, the worker has not confirmed the copy. -/
  | duringCreation
  /-- The worker holds the verified bytes. -/
  | saved
  deriving DecidableEq, Repr

def CopyState.name : CopyState → String
  | duringCreation => "DURING_CREATION"
  | saved => "SAVED"

def CopyState.ofName? (text : String) : Option CopyState :=
  [duringCreation, saved].find? (·.name == text)

structure CopyRow where
  /-- Identifies the row. -/
  id : String
  /-- The blob. -/
  blob : String
  /-- Address of the worker. -/
  worker : String
  state : CopyState
  /-- Megabytes reserved for the copy. -/
  size : UInt64
  deriving DecidableEq, Repr

/-- The space of one worker. -/
structure WorkerRow where
  address : String
  /-- Megabytes the worker offered, less those of confirmed copies. -/
  available : UInt64
  /-- Megabytes of them reserved for copies that are not confirmed. -/
  locked : UInt64
  /-- When the worker registered, in seconds. -/
  heartbeat : Int64
  deriving DecidableEq, Repr

namespace WorkerRow

def fresh (address : String) (available : UInt64) (now : Int64) : WorkerRow :=
  ⟨address, available, 0, now⟩

/-- Megabytes open for new copies; none if more is locked than available. -/
def free (row : WorkerRow) : UInt64 :=
  if row.locked ≤ row.available then row.available - row.locked else 0

end WorkerRow

end BlobCluster

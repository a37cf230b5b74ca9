import BlobCluster.BlobId
import BlobCluster.Ledger.Program

/-!
# Placement

The decisions of a master as programs over its ledger.  Placing a blob reserves space on three
workers, confirming a copy spends the reserved space, registering a worker starts it afresh, and
forgetting a blob drops its copies.  A program that is cut short leaves what it has done so far.
-/

namespace BlobCluster.Placement

open Program

/-- Copies placed for every blob. -/
def replication : Nat := 3

/-! ## Placing -/

/-- Reserves space for a blob on a worker, unless the worker already has a copy of it.  The new row
is computed from the one that was read when the workers were chosen, and not from the one the ledger
has now. -/
def reserve (blob : String) (size : UInt64) (row : WorkerRow) : Program Unit := do
  match ← query (.copyOn blob row.address) with
  | some _ => return ()
  | none =>
    let id ← newId
    query (.addCopy ⟨id, blob, row.address, .duringCreation, size⟩)
    let locked ← sum row.locked size
    query (.updateWorker { row with locked })

/-- Reserves space on one worker after the other. -/
def reserveAll (blob : String) (size : UInt64) : List WorkerRow → Program Unit
  | [] => return ()
  | row :: rest => do
    reserve blob size row
    reserveAll blob size rest

/-- The workers that are to save a blob.  A blob that is saved somewhere stays with its holders;
otherwise the roomiest workers are taken and space is reserved on them. -/
def place (blob : String) (size : UInt64) : Program (List String) := do
  ofExcept (BlobId.validate blob)
  let saved ← query (.savedCopies blob)
  if saved.isEmpty then
    let rows ← query (.roomiest size replication)
    reserveAll blob size rows
    return rows.map (·.address)
  else
    return saved.map (·.worker)

/-! ## Finding -/

def noSavedCopy (blob : String) : Failure := ⟨.notFound, "no saved copy of " ++ blob⟩

/-- The worker with the first saved copy of a blob. -/
def locate (blob : String) : Program String := do
  match ← query (.savedCopies blob) with
  | [] => .fail (noSavedCopy blob)
  | copy :: _ =>
    let row ← query (.worker copy.worker)
    return row.address

/-! ## Confirming -/

def noCopy (blob worker : String) : Failure :=
  ⟨.notFound, "expected one copy of " ++ blob ++ " on " ++ worker ++ ", found 0"⟩

/-- A space is too small for a copy. -/
def spaceBelow (which worker : String) (size : UInt64) : Failure :=
  ⟨.internal, which ++ " space of " ++ worker ++ " below copy size " ++ toString size.toNat⟩

/-- What is left of an amount, if it is enough. -/
def spend (amount size : UInt64) (e : Failure) : Program UInt64 :=
  if size ≤ amount then .done (amount - size) else .fail e

/-- A worker has saved a blob: the reserved space is spent.  Confirming again changes nothing. -/
def confirm (blob worker : String) : Program Unit := do
  match ← query (.copyOn blob worker) with
  | none => .fail (noCopy blob worker)
  | some copy =>
    if copy.state = .saved then return ()
    else
      let row ← query (.worker worker)
      let locked ← spend row.locked copy.size (spaceBelow "locked" worker copy.size)
      let available ← spend row.available copy.size (spaceBelow "available" worker copy.size)
      query (.updateCopy { copy with state := .saved })
      query (.updateWorker { row with locked, available })

/-! ## Registering and forgetting -/

/-- Workers are known by their address. -/
def noAddress : Failure := ⟨.invalidArgument, "worker address cannot be empty"⟩

/-- A worker starts without any blob: its copies and its former row are forgotten. -/
def register (address : String) (available : UInt64) (now : Int64) : Program Unit := do
  if address.isEmpty then .fail noAddress
  else
    query (.dropCopiesOn address)
    query (.dropWorker address)
    query (.addWorker (.fresh address available now))

/-- Drops the copies of a blob and says which workers had one.  The space of copies that were not
confirmed stays reserved. -/
def forget (blob : String) : Program (List String) := do
  let copies ← query (.copies blob)
  query (.dropBlob blob)
  return copies.map (·.worker)

end BlobCluster.Placement

import BlobCluster.Failure
import BlobCluster.Ledger.Rows
import BlobCluster.Table

/-!
# The ledger of a master

Two tables: the copies of blobs by blob and worker, and the workers by address.  Every operation
on them is total; those that can be refused say why.
-/

namespace BlobCluster

/-- What a copy is found by. -/
structure CopyKey where
  blob : String
  worker : String
  deriving DecidableEq, Repr

namespace CopyKey

/-- Blobs in order, then workers in order. -/
instance : Ord CopyKey := ⟨compareLex (compareOn CopyKey.blob) (compareOn CopyKey.worker)⟩

instance : Std.TransOrd CopyKey :=
  inferInstanceAs (Std.TransCmp (compareLex (compareOn CopyKey.blob) (compareOn CopyKey.worker)))

instance : Std.LawfulEqOrd CopyKey where
  eq_of_compare {a b} h := by
    have both : compareLex (compareOn CopyKey.blob) (compareOn CopyKey.worker) a b = .eq := h
    obtain ⟨blobs, workers⟩ := compareLex_eq_eq.1 both
    cases a
    cases b
    have sameBlob := Std.LawfulEqOrd.eq_of_compare blobs
    have sameWorker := Std.LawfulEqOrd.eq_of_compare workers
    simp_all

end CopyKey

def CopyRow.key (row : CopyRow) : CopyKey := ⟨row.blob, row.worker⟩

structure Ledger where
  copies : Table CopyRow.key
  workers : Table WorkerRow.address
  deriving DecidableEq, Inhabited

namespace Ledger

def empty : Ledger := ⟨.empty, .empty⟩

/-! ## Copies -/

/-- Inserts a copy, or replaces the one of the same blob on the same worker. -/
def putCopy (ledger : Ledger) (row : CopyRow) : Ledger :=
  { ledger with copies := ledger.copies.put row }

/-- The copies of a blob in the order of their workers. -/
def copiesOf (ledger : Ledger) (blob : String) : List CopyRow :=
  ledger.copies.rows.filter (·.blob == blob)

/-- The confirmed copies of a blob in the order of their workers. -/
def savedCopiesOf (ledger : Ledger) (blob : String) : List CopyRow :=
  (ledger.copiesOf blob).filter (·.state == .saved)

def copy? (ledger : Ledger) (blob worker : String) : Option CopyRow :=
  ledger.copies.find? ⟨blob, worker⟩

def dropBlob (ledger : Ledger) (blob : String) : Ledger :=
  { ledger with copies := ledger.copies.keep (·.blob != blob) }

def dropCopiesOn (ledger : Ledger) (worker : String) : Ledger :=
  { ledger with copies := ledger.copies.keep (·.worker != worker) }

/-! ## Workers -/

def unknownWorker (address : String) : Failure := ⟨.notFound, "worker " ++ address⟩

def worker? (ledger : Ledger) (address : String) : Option WorkerRow :=
  ledger.workers.find? address

/-- The worker with this address, which has to be there. -/
def worker (ledger : Ledger) (address : String) : Except Failure WorkerRow :=
  match ledger.worker? address with
  | some row => .ok row
  | none => .error (unknownWorker address)

/-- Inserts a worker whose address is new. -/
def addWorker (ledger : Ledger) (row : WorkerRow) : Except Failure Ledger :=
  if ledger.workers.has row.address then
    .error ⟨.repository, "worker " ++ row.address ++ " already exists"⟩
  else .ok { ledger with workers := ledger.workers.put row }

/-- Replaces the row of a worker that is there. -/
def updateWorker (ledger : Ledger) (row : WorkerRow) : Except Failure Ledger :=
  if ledger.workers.has row.address then
    .ok { ledger with workers := ledger.workers.put row }
  else .error (unknownWorker row.address)

def dropWorker (ledger : Ledger) (address : String) : Ledger :=
  { ledger with workers := ledger.workers.keep (·.address != address) }

end Ledger

end BlobCluster

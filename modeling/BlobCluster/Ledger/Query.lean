import BlobCluster.Ledger.Basic
import BlobCluster.Ledger.Selection

/-!
# Queries of a ledger

Everything a master does to its ledger is one of these queries.  A query is one indivisible step:
it answers and leaves a new ledger, or it is refused and leaves the ledger as it was.
-/

namespace BlobCluster

/-- One step on a ledger. -/
inductive Query where
  | addCopy (row : CopyRow)
  | updateCopy (row : CopyRow)
  | savedCopies (blob : String)
  | copies (blob : String)
  | copyOn (blob worker : String)
  | dropBlob (blob : String)
  | dropCopiesOn (worker : String)
  | addWorker (row : WorkerRow)
  | updateWorker (row : WorkerRow)
  | dropWorker (address : String)
  | worker (address : String)
  | roomiest (space : UInt64) (count : Nat)
  | flush
  deriving DecidableEq, Repr

inductive Query.Kind where
  | addCopy
  | updateCopy
  | savedCopies
  | copies
  | copyOn
  | dropBlob
  | dropCopiesOn
  | addWorker
  | updateWorker
  | dropWorker
  | worker
  | roomiest
  | flush
  deriving DecidableEq, Repr

namespace Query

def kind : Query → Kind
  | .addCopy _ => .addCopy
  | .updateCopy _ => .updateCopy
  | .savedCopies _ => .savedCopies
  | .copies _ => .copies
  | .copyOn _ _ => .copyOn
  | .dropBlob _ => .dropBlob
  | .dropCopiesOn _ => .dropCopiesOn
  | .addWorker _ => .addWorker
  | .updateWorker _ => .updateWorker
  | .dropWorker _ => .dropWorker
  | .worker _ => .worker
  | .roomiest _ _ => .roomiest
  | .flush => .flush

@[reducible] def Answer : Query → Type
  | .savedCopies _ | .copies _ => List CopyRow
  | .copyOn _ _ => Option CopyRow
  | .worker _ => WorkerRow
  | .roomiest _ _ => List WorkerRow
  | .addCopy _ | .updateCopy _ | .dropBlob _ | .dropCopiesOn _ | .addWorker _ | .updateWorker _
  | .dropWorker _ | .flush => Unit

/-- The answer of a query and the ledger after it.  A query is granted or refused as a whole, so a
ledger is only changed by queries that are answered. -/
def perform (ledger : Ledger) : (q : Query) → Except Failure (q.Answer × Ledger)
  | .addCopy row | .updateCopy row => .ok ((), ledger.putCopy row)
  | .savedCopies blob => .ok (ledger.savedCopiesOf blob, ledger)
  | .copies blob => .ok (ledger.copiesOf blob, ledger)
  | .copyOn blob address => .ok (ledger.copy? blob address, ledger)
  | .dropBlob blob => .ok ((), ledger.dropBlob blob)
  | .dropCopiesOn address => .ok ((), ledger.dropCopiesOn address)
  | .addWorker row => (ledger.addWorker row).map fun ledger => ((), ledger)
  | .updateWorker row => (ledger.updateWorker row).map fun ledger => ((), ledger)
  | .dropWorker address => .ok ((), ledger.dropWorker address)
  | .worker address => (ledger.worker address).map fun row => (row, ledger)
  | .roomiest space count =>
    (Selection.roomiest ledger.workers.rows space count).map fun rows => (rows, ledger)
  | .flush => .ok ((), ledger)

end Query

end BlobCluster

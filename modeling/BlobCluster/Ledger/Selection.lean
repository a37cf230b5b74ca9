import BlobCluster.Failure
import BlobCluster.Ledger.Rows

/-!
# Choosing workers

A blob goes to the workers with the most free space.  Workers with equal space are taken in the
order of their addresses, so that the choice does not depend on the order in which they are
listed.
-/

namespace BlobCluster.Selection

/-- The worker has that much space free. -/
def fits (space : UInt64) (row : WorkerRow) : Bool := space ≤ row.free

/-- One worker is preferred to another or equal to it: more free space first, then the smaller
address. -/
def preferred (a b : WorkerRow) : Bool :=
  if a.free = b.free then (compare a.address b.address).isLE else b.free < a.free

/-- Too few workers have the space. -/
def shortage (space : UInt64) (count found : Nat) : Failure :=
  ⟨.resourceExhausted, "need " ++ toString count ++ " workers with " ++ toString space.toNat
    ++ " MB free, have " ++ toString found⟩

/-- The `count` most preferred workers that have the space free. -/
def roomiest (rows : List WorkerRow) (space : UInt64) (count : Nat) :
    Except Failure (List WorkerRow) :=
  let candidates := rows.filter (fits space)
  if candidates.length < count then .error (shortage space count candidates.length)
  else .ok ((candidates.mergeSort preferred).take count)

end BlobCluster.Selection

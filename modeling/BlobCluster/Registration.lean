import BlobCluster.Retry
import BlobCluster.Text.Size

/-!
# Registering a worker

At its start a worker offers its free space to every master, an equal share of whole megabytes to
each, so that the masters together cannot promise more than there is.  The masters are called in
order; each may be called several times, and the first that does not accept ends the registration.
-/

namespace BlobCluster.Registration

/-- Megabytes that each of so many masters may place on a worker with so many free bytes. -/
def share (free : UInt64) (masters : Nat) : UInt64 :=
  if masters = 0 then 0 else UInt64.ofNat (free.toNat / Text.mebibyte / masters)

/-- Calls every master in order until one does not accept in the attempts allowed.  Masters that
have accepted before that stay as they are. -/
def registerWith {μ σ : Type} (call : μ → StateM σ (Except Failure Unit)) (attempts : Nat) :
    List μ → StateM σ (Except Failure Unit)
  | [] => pure (.ok ())
  | master :: rest => do
    match ← Retry.retry (call master) attempts with
    | .ok () => registerWith call attempts rest
    | .error e => pure (.error e)

end BlobCluster.Registration

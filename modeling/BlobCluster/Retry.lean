import BlobCluster.Failure

/-!
# Trying again

A call that did not get through may be tried again, up to a number of attempts in all.  The
answer is that of the last attempt: the first success, the first failure for which another
attempt is no help, or the failure of the last attempt allowed.
-/

namespace BlobCluster.Retry

/-- The failure of a call that may not be attempted at all. -/
def exhausted : Failure := ⟨.internal, "Max retries exceeded"⟩

/-- Calls at most `attempts` times, until an answer comes that is final. -/
def retry {σ α : Type} (call : StateM σ (Except Failure α)) :
    Nat → StateM σ (Except Failure α)
  | 0 => pure (.error exhausted)
  | 1 => call
  | attempts + 2 => do
    match ← call with
    | .ok a => pure (.ok a)
    | .error e => if e.retryable then retry call (attempts + 1) else pure (.error e)

end BlobCluster.Retry

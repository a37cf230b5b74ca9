/-!
# Predictable identifiers

A mint gives identifiers of the form `label-n`, counting from zero.  The count wraps after
2^64 identifiers.
-/

namespace BlobCluster

/-- A label and the number of identifiers given so far. -/
structure Mint where
  label : String
  drawn : UInt64
  deriving DecidableEq, Repr

namespace Mint

def fresh (label : String) : Mint := ⟨label, 0⟩

/-- The next identifier and the mint after it. -/
def next (mint : Mint) : String × Mint :=
  (mint.label ++ "-" ++ toString mint.drawn.toNat, { mint with drawn := mint.drawn + 1 })

def take (mint : Mint) : Nat → List String
  | 0 => []
  | count + 1 => mint.next.1 :: mint.next.2.take count

end Mint

end BlobCluster

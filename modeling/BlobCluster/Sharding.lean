import BlobCluster.Bytes.Utf8
import BlobCluster.Digest.Blake3

/-!
# Shards

The masters of a cluster divide the blobs between them by a digest of the blob's identity.  The
index of the owning master is below the number of masters for every text, and every role computes
the same index from the same number.
-/

namespace BlobCluster.Sharding

/-- The first eight digest bytes of a key as a little-endian number. -/
def position (key : String) : UInt64 :=
  UInt64.ofNat (Bytes.toNatLE ((Digest.Blake3.hash (Bytes.toUtf8 key)).take 8))

/-- The shard of a key among `count` shards; there is none without shards. -/
def shardOf? (key : String) (count : UInt64) : Option UInt64 :=
  if count = 0 then none else some (position key % count)

/-- The index of the master that owns a blob.  With no master at all the index is that of a
single one. -/
def ownerIndex (blobId : String) (masters : Nat) : Nat :=
  (position blobId).toNat % max masters 1

theorem ownerIndex_lt (blobId : String) {masters : Nat} (h : 0 < masters) :
    ownerIndex blobId masters < masters := by
  unfold ownerIndex
  have : max masters 1 = masters := by omega
  rw [this]
  exact Nat.mod_lt _ h

end BlobCluster.Sharding

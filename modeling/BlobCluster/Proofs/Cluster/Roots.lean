import BlobCluster.Proofs.Cluster.Services
import BlobCluster.Proofs.Cluster.Verified

/-!
# Roots of workers

A worker has no index of its blobs: what is in its folder is what it has.  So the folder has to be
right at every moment between two calls, after saves that were complete, cut short, malformed, of
the wrong bytes or not confirmed by any master.  Since a call is all that can happen to a worker,
this is a property of single calls carried over every run of a cluster.
-/

namespace BlobCluster.Cluster

variable {cluster : Cluster}

/-- A worker whose folder was empty has nothing in it but blobs, after any operations on the cluster
and whatever failed meanwhile.  Every entry of the folder is a file, its name is the digest of its
bytes, and none is a temporary file.

One worker is looked at alone.  Whatever a cluster does, to its workers it does it by calls
(`serves_after`), and every call of a worker leaves its folder tidy, so nothing is asked of the
masters, of the gateway or of how the cluster was put together. -/
theorem blobs_only {i : Nat} {worker : Worker} (found : cluster.workers[i]? = some worker)
    (sound : worker.volume.Sound) (empty : worker.volume.list? worker.store.root = some [])
    (run : List (Weather × Operation)) :
    ∃ later names, (cluster.after run).workers[i]? = some later
      ∧ later.volume.list? worker.store.root = some names
      ∧ ∀ name size, (name, size) ∈ names → ∃ bytes, size = some bytes.length
        ∧ worker.algorithm.digest bytes = name
        ∧ later.volume.bytes? (worker.store.pathFor name) = some bytes
        ∧ ¬ "temp-".toList <+: name.toList := by
  obtain ⟨later, found', served⟩ := cluster.serves_after run i worker found
  obtain ⟨⟨top, tidy⟩, store, algorithm⟩ := served.tidy (ChunkStore.Tidy.of_empty sound empty)
  rw [store, algorithm] at tidy
  obtain ⟨names, listed, named⟩ := tidy.list
  refine ⟨later, names, found', listed, fun name size mem => ?_⟩
  obtain ⟨bytes, isSize, digest, there⟩ := named name size mem
  have notTemporary := Digest.not_temp_prefix_digest worker.algorithm bytes
  rw [digest] at notTemporary
  exact ⟨bytes, isSize, digest, there, notTemporary⟩

/-- Saves of the three bytes: complete, but with no master to confirm them; with other bytes; cut
short; and with a second announcement. -/
def saves : List (Weather × Operation) :=
  [saveMessages "743e13ee0c4ee5a5" ([[1, 2], [3]].map .ok),
    saveMessages "743e13ee0c4ee5a5" [.ok [9]],
    saveMessages "743e13ee0c4ee5a5" [.ok [1, 2], .error ⟨.io, "reset"⟩],
    [.ok (.blob "x"), .ok (.chunk [1]), .ok (.blob "y")]].map
    fun messages => (.clear 0 false, .save 0 messages)

/-- Only the complete save has left a file. -/
theorem blobs_of_saves :
    ∃ later, (trio.after saves).workers[0]? = some later
      ∧ later.volume.list? ["a"] = some [("743e13ee0c4ee5a5", some 3)]
      ∧ ∃ bytes, bytes.length = 3 ∧ Digest.Algorithm.xxh64.digest bytes = "743e13ee0c4ee5a5"
        ∧ later.volume.bytes? ["a", "743e13ee0c4ee5a5"] = some bytes := by
  have sound : (freshWorker "a").volume.Sound := Volume.sound_blank.makeFolders ["a"]
  have empty : (freshWorker "a").volume.list? ["a"] = some [] := by decide +kernel
  have there : trio.workers[0]? = some (freshWorker "a") := rfl
  obtain ⟨later, names, found, listed, named⟩ := blobs_only there sound empty saves
  have seen : ((trio.after saves).workers[0]?.bind fun worker => worker.volume.list? ["a"])
      = some [("743e13ee0c4ee5a5", some 3)] := by decide +kernel
  rw [found] at seen
  have same : names = [("743e13ee0c4ee5a5", some 3)] := Option.some.inj (listed.symm.trans seen)
  rw [same] at named
  obtain ⟨bytes, isSize, digest, there, -⟩ := named _ _ (List.mem_singleton_self _)
  exact ⟨later, found, seen, bytes, (Option.some.inj isSize).symm, digest, there⟩

end BlobCluster.Cluster

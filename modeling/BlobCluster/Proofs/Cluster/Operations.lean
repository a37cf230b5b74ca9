import BlobCluster.Cluster.Blobs
import BlobCluster.Proofs.Storage.View

/-!
# Runs of a cluster

What happens to a cluster is a list of operations: what clients ask of the gateway, and calls that
are made of single nodes.  Each is done under a `Weather`, which says what time it is and what fails
while it is done: calls of masters and queries of their ledgers, calls of workers, and the ways from
the gateway to the workers.  An operation that fails has done a part of its work.

A cluster is `Assembled` when its nodes have just been started, its masters with empty ledgers.
-/

namespace BlobCluster

/-- What the nodes of a cluster meet with while something is done; nodes are given by index.  Each
operation of a run has its own, so outages may begin and end anywhere in a run. -/
structure Weather where
  clock : Int64
  /-- Deletions remove the files of holders as well. -/
  purge : Bool
  calls : Nat → Outages MasterCall.Kind
  queries : Nat → Outages Query.Kind
  services : Nat → Outages WorkerCall
  /-- The gateway reaches the worker. -/
  reachable : Nat → Bool

def Weather.clear (clock : Int64) (purge : Bool) : Weather where
  clock := clock
  purge := purge
  calls := fun _ => []
  queries := fun _ => []
  services := fun _ => []
  reachable := fun _ => true

/-- Something that is asked of a cluster or of one of its nodes.  Besides the gateway one may turn
to a worker or a master itself, so copies can also come and go without an upload or a deletion. -/
inductive Operation where
  | upload (messages : Arriving UploadMessage)
  | download (blob : String)
  | delete (blob : String)
  | save (worker : Nat) (messages : Arriving SaveMessage)
  | read (worker : Nat) (blob : String)
  | remove (worker : Nat) (blob : String)
  | health (worker : Nat)
  | freeStorage (worker : Nat)
  | tell (master : Nat) (call : MasterCall)

/-- The cluster after an operation, whether that fails or not. -/
def Operation.effect (cluster : Cluster) : Operation → Cluster
  | .upload messages => (Cluster.upload messages cluster).2
  | .download blob => (Cluster.download blob cluster).2
  | .delete blob => (Cluster.delete blob cluster).2
  | .save worker messages => (Cluster.saveOn worker messages cluster).2
  | .read worker blob => (Cluster.downloadFrom worker blob cluster).2
  | .remove worker blob => (Cluster.removeOn worker blob cluster).2
  | .health worker => (Cluster.workerHealth worker cluster).2
  | .freeStorage worker => (Cluster.workerFree worker cluster).2
  | .tell master call => (Cluster.callMaster master call cluster).2

namespace Cluster

/-- A master under outages of its calls and queries. -/
def struckMaster (weather : Weather) (i : Nat) (master : Master) : Master :=
  { master with
    outages := weather.calls i
    desk := { master.desk with gate := weather.queries i } }

/-- A worker under outages of its calls, reached by the gateway or not. -/
def struckWorker (weather : Weather) (i : Nat) (worker : Worker) : Worker :=
  { worker with outages := weather.services i, reachable := weather.reachable i }

/-- A cluster in a weather. -/
def under (cluster : Cluster) (weather : Weather) : Cluster where
  clock := weather.clock
  transport := cluster.transport
  masters := cluster.masters.mapIdx (struckMaster weather)
  workers := cluster.workers.mapIdx (struckWorker weather)
  gateway := { cluster.gateway with purge := weather.purge }

/-- The cluster after operations, each in its weather, the first of the list first. -/
def after (cluster : Cluster) : List (Weather × Operation) → Cluster
  | [] => cluster
  | (weather, operation) :: rest => (operation.effect (cluster.under weather)).after rest

theorem after_append (cluster : Cluster) (run rest : List (Weather × Operation)) :
    cluster.after (run ++ rest) = (cluster.after run).after rest := by
  induction run generalizing cluster with
  | nil => rfl
  | cons step run ih => exact ih _

/-- Every operation of a run is allowed where it is done.  What is allowed may depend on the state,
so it is asked in the state and the weather that each operation meets. -/
def Throughout (allowed : Cluster → Operation → Prop) (cluster : Cluster) :
    List (Weather × Operation) → Prop
  | [] => True
  | (weather, operation) :: rest =>
    allowed (cluster.under weather) operation
      ∧ Throughout allowed (operation.effect (cluster.under weather)) rest

/-- What is allowed wherever it is done is allowed throughout. -/
theorem Throughout.of_forall {cluster : Cluster} {allowed : Cluster → Operation → Prop}
    {run : List (Weather × Operation)} (h : ∀ step ∈ run, ∀ here, allowed here step.2) :
    cluster.Throughout allowed run := by
  induction run generalizing cluster with
  | nil => trivial
  | cons step rest ih =>
    have first := h step (List.mem_cons_self ..)
    exact ⟨first _, ih fun other mem => h other (List.mem_cons_of_mem _ mem)⟩

/-- The nodes have just been started on sound volumes and call each other directly.  What lies on
the volumes does not matter, nor whether the nodes agree on the chunk size or the digest. -/
structure Assembled (cluster : Cluster) : Prop where
  direct : cluster.transport = .direct
  masters : ∀ master ∈ cluster.masters, ∃ address label, master = .start address label
  workers : ∀ worker ∈ cluster.workers, ∃ volume root chunkSize, volume.Sound
    ∧ Worker.start volume worker.address root chunkSize worker.algorithm cluster.masters.length
        = .ok worker
  gateway : ∃ volume root chunkSize, volume.Sound
    ∧ Gateway.start volume root chunkSize cluster.gateway.algorithm cluster.gateway.purge
        cluster.masters.length = .ok cluster.gateway

theorem Assembled.staffed {cluster : Cluster} (assembled : cluster.Assembled) :
    cluster.masters ≠ [] := by
  intro none_
  obtain ⟨volume, root, chunkSize, -, started⟩ := assembled.gateway
  unfold Gateway.start at started
  split at started
  · cases started
  · rw [none_] at started
    cases started

end Cluster

end BlobCluster

import BlobCluster.Gateway
import BlobCluster.Master.Client
import BlobCluster.Sharding
import BlobCluster.Worker.Client

/-!
# Clusters

A cluster is a list of masters, a list of workers and a gateway.  Every node knows the masters in
the same order, so all agree on which master owns a blob.  The nodes call each other directly or
over a link.  An action on a cluster may fail part-way and then leaves what it has done so far.
-/

namespace BlobCluster

/-- How the nodes of a cluster call each other. -/
inductive Transport where
  | direct
  | through (link : Http.Link)
  deriving DecidableEq, Repr

structure Cluster where
  /-- The time, in seconds. -/
  clock : Int64
  transport : Transport
  masters : List Master
  workers : List Worker
  gateway : Gateway

/-- Something done by the nodes of a cluster. -/
abbrev Acting := ExceptT Failure (StateM Cluster)

namespace Cluster

variable {α : Type}

/-! ## Nodes -/

def noNode : Failure := ⟨.internal, "no such node"⟩

def atMaster (i : Nat) (action : StateM Master (Except Failure α)) : Acting α := fun cluster =>
  match cluster.masters[i]? with
  | none => (.error noNode, cluster)
  | some master =>
    let (answer, master) := action master
    (answer, { cluster with masters := cluster.masters.set i master })

def atWorker (i : Nat) (action : StateM Worker (Except Failure α)) : Acting α := fun cluster =>
  match cluster.workers[i]? with
  | none => (.error noNode, cluster)
  | some worker =>
    let (answer, worker) := action worker
    (answer, { cluster with workers := cluster.workers.set i worker })

/-- Does something on the files of the gateway. -/
def atGateway (action : Storing α) : Acting α := fun cluster =>
  let (answer, gateway) := cluster.gateway.onVolume action
  (answer, { cluster with gateway })

/-- Reports a failure as another one. -/
def reporting (report : Failure → Failure) (action : Acting α) : Acting α := fun cluster =>
  let (answer, cluster) := action cluster
  (answer.mapError report, cluster)

/-- A failure on the way of a call, told with what was attempted. -/
def during (what : String) (e : Failure) : Failure := ⟨.cancelled, what ++ ": " ++ e.display⟩

/-- The worker that an address leads to, of several the last. -/
def workerIndex? (cluster : Cluster) (address : String) : Option Nat :=
  ((cluster.workers.zipIdx.filter fun (worker, _) => worker.address == address).getLast?).map (·.2)

/-- The worker that the gateway reaches under an address, of several the last. -/
def route? (cluster : Cluster) (address : String) : Option Nat :=
  ((cluster.workers.zipIdx.filter fun (worker, _) =>
    worker.reachable && worker.address == address).getLast?).map (·.2)

/-! ## Calls of masters -/

def callMaster (i : Nat) (call : MasterCall) : Acting call.Answer := fun cluster =>
  match cluster.transport with
  | .direct => atMaster i (fun master => master.answer cluster.clock call) cluster
  | .through link =>
    atMaster i (fun master => call.through link (Http.baseOf master.address) cluster.clock master)
      cluster

/-- Calls the master that owns a blob. -/
def callOwner (blob : String) (call : MasterCall) : Acting call.Answer := do
  callMaster (Sharding.ownerIndex blob (← get).masters.length) call

end Cluster

end BlobCluster

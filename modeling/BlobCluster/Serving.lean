import BlobCluster.Gateway
import BlobCluster.Http.Link
import BlobCluster.Master.Client
import BlobCluster.Registration
import BlobCluster.Settings.Basic
import BlobCluster.Worker.Basic

/-!
# Starting nodes

How a node comes up from its settings, and what stops it.  A gateway and a worker first want a
master and a folder, then an address to listen at; a worker then registers with every master.
-/

namespace BlobCluster.Serving

open Http

/-! ## Listening -/

/-- The highest port that only the system may listen at. -/
def lastReservedPort : Nat := 1023

/-- An address of the node itself: any interface, or its loopback. -/
def isOwn : SocketAddress → Bool
  | .v4 a b c d _ => a == 127 || (a == 0 && b == 0 && c == 0 && d == 0)
  | .v6 groups _ _ =>
    groups.toList == [0, 0, 0, 0, 0, 0, 0, 0] || groups.toList == [0, 0, 0, 0, 0, 0, 0, 1]

def port : SocketAddress → Nat
  | .v4 _ _ _ _ port | .v6 _ _ port => port.toNat

/-- Listens at an address: the port must not be reserved, and the address one of the node. -/
def listen (address : SocketAddress) : Except Failure Unit :=
  if 0 < port address && port address ≤ lastReservedPort then
    .error ⟨.io, "Permission denied (os error 13)"⟩
  else if isOwn address then .ok ()
  else .error ⟨.io, "Cannot assign requested address (os error 99)"⟩

/-! ## Masters -/

/-- A master that keeps its ledger on disk cannot be started here. -/
def noDiskLedger : Failure := ⟨.invalidConfig, "built without the rocksdb-backend feature"⟩

def startMaster (settings : Settings.Master) : Except Failure Master :=
  match settings.backend with
  | .memory => .ok (.start "" "copy")
  | .rocksdb => .error noDiskLedger

def serveMaster (settings : Settings.Master) : Except Failure Master := do
  let master ← startMaster settings
  listen settings.bindAddr
  return master

/-! ## Gateways -/

def startGateway (settings : Settings.Gateway) (volume : Volume) : Except Failure Gateway := do
  Settings.requireMasters settings.masters
  Gateway.start volume settings.scratchRoot settings.chunkSize.toNat settings.hashAlgorithm
    settings.purgeWorkerCopies settings.masters.length

def serveGateway (settings : Settings.Gateway) (volume : Volume) : Except Failure Gateway := do
  let gateway ← startGateway settings volume
  listen settings.bindAddr
  return gateway

/-! ## Workers -/

/-- A worker on a volume, before it registers. -/
def startWorker (settings : Settings.Worker) (volume : Volume) : Except Failure Worker := do
  Settings.requireMasters settings.masters
  let worker ← Worker.start volume settings.advertiseAddr settings.blobRoot
    settings.chunkSize.toNat settings.hashAlgorithm settings.masters.length
  listen settings.bindAddr
  return worker

/-- Registers a worker with one master over a link. -/
def registerOver {σ : Type} (link : Link) (serve : String → Request → StateM σ Response)
    (worker : String) (share : UInt64) (master : String) : StateM σ (Except Failure Unit) := do
  match ← send link ((MasterCall.register worker share).draft (baseOf master)) (serve master) with
  | .error e => return .error e
  | .ok _ => return .ok ()

/-- Registers a worker with the masters of its settings, each of which gets an equal share of the
free space. -/
def registerWorker {σ : Type} (link : Link) (serve : String → Request → StateM σ Response)
    (settings : Settings.Worker) (worker : Worker) : StateM σ (Except Failure Unit) :=
  match (worker.freeStorage).1 with
  | .error e => pure (.error e)
  | .ok free =>
    let share := Registration.share free settings.masters.length
    Registration.registerWith (registerOver link serve worker.address share)
      settings.registerRetries.toNat settings.masters

end BlobCluster.Serving

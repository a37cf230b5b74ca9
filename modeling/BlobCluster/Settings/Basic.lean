import BlobCluster.Digest
import BlobCluster.Failure
import BlobCluster.Json.Decode
import BlobCluster.SocketAddress

/-!
# Settings

What the three roles are told at their start.  Every setting has a default, so that the empty
record is a complete one.  This module holds the settings, their defaults and their JSON form.
-/

namespace BlobCluster.Settings

/-! ## Records -/

inductive Backend where
  | rocksdb
  | memory
  deriving DecidableEq, Repr

def Backend.name : Backend → String
  | rocksdb => "rocksdb"
  | memory => "memory"

def Backend.ofName? (text : String) : Option Backend := [rocksdb, memory].find? (·.name == text)

/-- Every interface, at this port. -/
def everywhere (port : UInt16) : SocketAddress := .v4 0 0 0 0 port

def defaultMasters : List String := ["http://127.0.0.1:50051"]
def defaultChunkSize : UInt64 := 1048576

structure Master where
  bindAddr : SocketAddress := everywhere 50051
  dbPath : String := "./master-data"
  backend : Backend := .rocksdb
  deriving DecidableEq, Repr

structure Worker where
  bindAddr : SocketAddress := everywhere 50042
  /-- Under which address other nodes reach the worker. -/
  advertiseAddr : String := "http://127.0.0.1:50042"
  /-- The masters, in shard order. -/
  masters : List String := defaultMasters
  blobRoot : String := "./blobs"
  chunkSize : UInt64 := defaultChunkSize
  hashAlgorithm : Digest.Algorithm := .xxh64
  registerRetries : UInt64 := 10
  registerDelayMs : UInt64 := 500
  deriving DecidableEq, Repr

structure Gateway where
  bindAddr : SocketAddress := everywhere 50041
  /-- The masters, in shard order. -/
  masters : List String := defaultMasters
  scratchRoot : String := "./scratch"
  chunkSize : UInt64 := defaultChunkSize
  hashAlgorithm : Digest.Algorithm := .xxh64
  purgeWorkerCopies : Bool := false
  deriving DecidableEq, Repr

end Settings

structure Settings where
  master : Settings.Master := {}
  worker : Settings.Worker := {}
  gateway : Settings.Gateway := {}
  logLevel : String := "info"
  deriving DecidableEq, Repr

namespace Settings

open Json

/-! ## Reading JSON -/

/-- A socket address in its text form. -/
def asAddress : Reading SocketAddress := fun value => do
  match SocketAddress.parse? (← asText value) with
  | some address => .ok address
  | none => .error .mismatched

def asBackend : Reading Backend := asName Backend.ofName?
def asAlgorithm : Reading Digest.Algorithm := asName Digest.Algorithm.ofName?

def Master.fields : List Field :=
  [optionalField "bind_addr" asAddress, optionalField "db_path" asText,
    optionalField "backend" asBackend]

def Master.read : Reading Master := fun value => do
  let members ← asRecord fields value
  let defaults : Master := {}
  return {
    bindAddr := ← members.getD "bind_addr" asAddress defaults.bindAddr
    dbPath := ← members.getD "db_path" asText defaults.dbPath
    backend := ← members.getD "backend" asBackend defaults.backend }

def Worker.fields : List Field :=
  [optionalField "bind_addr" asAddress, optionalField "advertise_addr" asText,
    optionalField "masters" asTexts, optionalField "blob_root" asText,
    optionalField "chunk_size" asNatural, optionalField "hash_algorithm" asAlgorithm,
    optionalField "register_retries" asNatural, optionalField "register_delay_ms" asNatural]

def Worker.read : Reading Worker := fun value => do
  let members ← asRecord fields value
  let defaults : Worker := {}
  return {
    bindAddr := ← members.getD "bind_addr" asAddress defaults.bindAddr
    advertiseAddr := ← members.getD "advertise_addr" asText defaults.advertiseAddr
    masters := ← members.getD "masters" asTexts defaults.masters
    blobRoot := ← members.getD "blob_root" asText defaults.blobRoot
    chunkSize := ← members.getD "chunk_size" asNatural defaults.chunkSize
    hashAlgorithm := ← members.getD "hash_algorithm" asAlgorithm defaults.hashAlgorithm
    registerRetries := ← members.getD "register_retries" asNatural defaults.registerRetries
    registerDelayMs := ← members.getD "register_delay_ms" asNatural defaults.registerDelayMs }

def Gateway.fields : List Field :=
  [optionalField "bind_addr" asAddress, optionalField "masters" asTexts,
    optionalField "scratch_root" asText, optionalField "chunk_size" asNatural,
    optionalField "hash_algorithm" asAlgorithm, optionalField "purge_worker_copies" asBool]

def Gateway.read : Reading Gateway := fun value => do
  let members ← asRecord fields value
  let defaults : Gateway := {}
  return {
    bindAddr := ← members.getD "bind_addr" asAddress defaults.bindAddr
    masters := ← members.getD "masters" asTexts defaults.masters
    scratchRoot := ← members.getD "scratch_root" asText defaults.scratchRoot
    chunkSize := ← members.getD "chunk_size" asNatural defaults.chunkSize
    hashAlgorithm := ← members.getD "hash_algorithm" asAlgorithm defaults.hashAlgorithm
    purgeWorkerCopies := ← members.getD "purge_worker_copies" asBool defaults.purgeWorkerCopies }

def fields : List Field :=
  [optionalField "master" Master.read, optionalField "worker" Worker.read,
    optionalField "frontend" Gateway.read, optionalField "log_level" asText]

def read : Reading Settings := fun value => do
  let members ← asRecord fields value
  let defaults : Settings := {}
  return {
    master := ← members.getD "master" Master.read defaults.master
    worker := ← members.getD "worker" Worker.read defaults.worker
    gateway := ← members.getD "frontend" Gateway.read defaults.gateway
    logLevel := ← members.getD "log_level" asText defaults.logLevel }

/-! ## Writing JSON -/

def Master.toJson (s : Master) : Json :=
  record [("bind_addr", text s.bindAddr.render), ("db_path", text s.dbPath),
    ("backend", text s.backend.name)]

def Worker.toJson (s : Worker) : Json :=
  record [("bind_addr", text s.bindAddr.render), ("advertise_addr", text s.advertiseAddr),
    ("masters", texts s.masters), ("blob_root", text s.blobRoot),
    ("chunk_size", nat s.chunkSize.toNat), ("hash_algorithm", text s.hashAlgorithm.name),
    ("register_retries", nat s.registerRetries.toNat),
    ("register_delay_ms", nat s.registerDelayMs.toNat)]

def Gateway.toJson (s : Gateway) : Json :=
  record [("bind_addr", text s.bindAddr.render), ("masters", texts s.masters),
    ("scratch_root", text s.scratchRoot), ("chunk_size", nat s.chunkSize.toNat),
    ("hash_algorithm", text s.hashAlgorithm.name),
    ("purge_worker_copies", .bool s.purgeWorkerCopies)]

def toJson (s : Settings) : Json :=
  record [("master", s.master.toJson), ("worker", s.worker.toJson), ("frontend", s.gateway.toJson),
    ("log_level", text s.logLevel)]

/-! ## Demands -/

/-- Every role needs a master to talk to. -/
def requireMasters (masters : List String) : Except Failure Unit :=
  if masters.isEmpty then .error ⟨.invalidConfig, "at least one master address is required"⟩
  else .ok ()

end Settings

end BlobCluster

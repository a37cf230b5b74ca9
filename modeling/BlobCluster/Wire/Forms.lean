import BlobCluster.Failure
import BlobCluster.Json.Decode
import BlobCluster.Ledger.Rows

/-!
# Forms of requests, answers and rows

What the nodes send each other are small JSON records.  Each form has a reading, which accepts
its fields in any order, and a value to write, with its fields in the order of declaration.
-/

namespace BlobCluster.Wire

/-- Ask for workers to save a blob on. -/
structure PlacementForm where
  blob : String
  size : UInt64
  deriving DecidableEq, Repr

/-- Addresses of workers. -/
structure HoldersForm where
  addresses : List String
  deriving DecidableEq, Repr

/-- Address of one worker. -/
structure HolderForm where
  address : String
  deriving DecidableEq, Repr

/-- A worker has saved a blob. -/
structure ConfirmationForm where
  blob : String
  worker : String
  deriving DecidableEq, Repr

/-- A worker offers its space. -/
structure RegistrationForm where
  address : String
  available : UInt64
  deriving DecidableEq, Repr

/-- Free bytes of a worker. -/
structure FreeStorageForm where
  bytes : UInt64
  deriving DecidableEq, Repr

/-- Identity of an uploaded blob. -/
structure ReceiptForm where
  blob : String
  deriving DecidableEq, Repr

/-- Outcome of a delete: the copies that were forgotten and the files that were removed. -/
structure DeleteReport where
  copies : UInt64
  purged : UInt64
  deriving DecidableEq, Repr

/-- Code and message of a failure. -/
structure FailureForm where
  code : WireCode
  message : String
  deriving DecidableEq, Repr

open Json

/-! ## Requests -/

def PlacementForm.fields : List Field := [field "blob_hash" asText, field "size_mb" asNatural]

def PlacementForm.read : Reading PlacementForm := fun value => do
  let members ← asRecord fields value
  return ⟨← members.get "blob_hash" asText, ← members.get "size_mb" asNatural⟩

def PlacementForm.toJson (form : PlacementForm) : Json :=
  record [("blob_hash", text form.blob), ("size_mb", nat form.size.toNat)]

def ConfirmationForm.fields : List Field :=
  [field "blob_hash" asText, field "worker_address" asText]

def ConfirmationForm.read : Reading ConfirmationForm := fun value => do
  let members ← asRecord fields value
  return ⟨← members.get "blob_hash" asText, ← members.get "worker_address" asText⟩

def ConfirmationForm.toJson (form : ConfirmationForm) : Json :=
  record [("blob_hash", text form.blob), ("worker_address", text form.worker)]

def RegistrationForm.fields : List Field :=
  [field "address" asText, field "space_available_mb" asNatural]

def RegistrationForm.read : Reading RegistrationForm := fun value => do
  let members ← asRecord fields value
  return ⟨← members.get "address" asText, ← members.get "space_available_mb" asNatural⟩

def RegistrationForm.toJson (form : RegistrationForm) : Json :=
  record [("address", text form.address), ("space_available_mb", nat form.available.toNat)]

/-! ## Answers -/

def HoldersForm.fields : List Field := [field "addresses" asTexts]

def HoldersForm.read : Reading HoldersForm := fun value => do
  let members ← asRecord fields value
  return ⟨← members.get "addresses" asTexts⟩

def HoldersForm.toJson (form : HoldersForm) : Json := record [("addresses", texts form.addresses)]

def HolderForm.fields : List Field := [field "address" asText]

def HolderForm.read : Reading HolderForm := fun value => do
  let members ← asRecord fields value
  return ⟨← members.get "address" asText⟩

def HolderForm.toJson (form : HolderForm) : Json := record [("address", text form.address)]

def FreeStorageForm.fields : List Field := [field "bytes" asNatural]

def FreeStorageForm.read : Reading FreeStorageForm := fun value => do
  let members ← asRecord fields value
  return ⟨← members.get "bytes" asNatural⟩

def FreeStorageForm.toJson (form : FreeStorageForm) : Json :=
  record [("bytes", nat form.bytes.toNat)]

def ReceiptForm.fields : List Field := [field "blob_hash" asText]

def ReceiptForm.read : Reading ReceiptForm := fun value => do
  let members ← asRecord fields value
  return ⟨← members.get "blob_hash" asText⟩

def ReceiptForm.toJson (form : ReceiptForm) : Json := record [("blob_hash", text form.blob)]

def DeleteReport.fields : List Field := [field "copies" asNatural, field "purged" asNatural]

def DeleteReport.read : Reading DeleteReport := fun value => do
  let members ← asRecord fields value
  return ⟨← members.get "copies" asNatural, ← members.get "purged" asNatural⟩

def DeleteReport.toJson (form : DeleteReport) : Json :=
  record [("copies", nat form.copies.toNat), ("purged", nat form.purged.toNat)]

/-! ## Failures -/

def FailureForm.fields : List Field := [field "code" (asName WireCode.ofName?), field "message" asText]

def FailureForm.read : Reading FailureForm := fun value => do
  let members ← asRecord fields value
  return ⟨← members.get "code" (asName WireCode.ofName?), ← members.get "message" asText⟩

def FailureForm.toJson (form : FailureForm) : Json :=
  record [("code", text form.code.name), ("message", text form.message)]

def FailureForm.ofFailure (e : Failure) : FailureForm := ⟨e.code, e.message⟩

def FailureForm.failure (form : FailureForm) : Failure := Failure.ofWire form.code form.message

/-! ## Rows -/

def copyFields : List Field :=
  [field "copy_id" asText, field "hash" asText, field "worker_address" asText,
    field "state" (asName CopyState.ofName?), field "size_mb" asNatural]

def readCopy : Reading CopyRow := fun value => do
  let members ← asRecord copyFields value
  return ⟨← members.get "copy_id" asText, ← members.get "hash" asText,
    ← members.get "worker_address" asText, ← members.get "state" (asName CopyState.ofName?),
    ← members.get "size_mb" asNatural⟩

def copyToJson (row : CopyRow) : Json :=
  record [("copy_id", text row.id), ("hash", text row.blob), ("worker_address", text row.worker),
    ("state", text row.state.name), ("size_mb", nat row.size.toNat)]

def workerFields : List Field :=
  [field "worker_address" asText, field "available_space_mb" asNatural,
    field "locked_space_mb" asNatural, field "last_heartbeat_epoch_ts" asSigned]

def readWorker : Reading WorkerRow := fun value => do
  let members ← asRecord workerFields value
  return ⟨← members.get "worker_address" asText, ← members.get "available_space_mb" asNatural,
    ← members.get "locked_space_mb" asNatural, ← members.get "last_heartbeat_epoch_ts" asSigned⟩

def workerToJson (row : WorkerRow) : Json :=
  record [("worker_address", text row.address), ("available_space_mb", nat row.available.toNat),
    ("locked_space_mb", nat row.locked.toNat), ("last_heartbeat_epoch_ts", int row.heartbeat.toInt)]

end BlobCluster.Wire

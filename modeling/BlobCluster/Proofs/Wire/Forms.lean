import BlobCluster.Proofs.Json.Records
import BlobCluster.Wire.Forms

/-!
# Forms cross the wire unchanged

Every form of a request, an answer or a row is read back from its text as it was written, whatever
the texts and numbers in it.
-/

namespace BlobCluster.Wire

open Json

/-! ## Requests -/

theorem PlacementForm.read_toJson (form : PlacementForm) : read form.toJson = .ok form := by
  have size : UInt64.ofNat form.size.toNat = form.size := UInt64.ofNat_toNat
  show Except.ok (PlacementForm.mk form.blob (UInt64.ofNat form.size.toNat)) = .ok form
  rw [size]

theorem PlacementForm.readBack (form : PlacementForm) : ReadBack form.toJson :=
  readBack_record (by simpa using ⟨readBack_text form.blob, readBack_nat form.size⟩)

theorem PlacementForm.readValue_render (form : PlacementForm) :
    readValue (Bytes.toUtf8 form.toJson.render) = (form.toJson, []) :=
  Json.readValue_render form.readBack

theorem ConfirmationForm.read_toJson (form : ConfirmationForm) : read form.toJson = .ok form := rfl

theorem ConfirmationForm.readBack (form : ConfirmationForm) : ReadBack form.toJson :=
  readBack_record (by simpa using ⟨readBack_text form.blob, readBack_text form.worker⟩)

theorem ConfirmationForm.readValue_render (form : ConfirmationForm) :
    readValue (Bytes.toUtf8 form.toJson.render) = (form.toJson, []) :=
  Json.readValue_render form.readBack

theorem RegistrationForm.read_toJson (form : RegistrationForm) : read form.toJson = .ok form := by
  have space : UInt64.ofNat form.available.toNat = form.available := UInt64.ofNat_toNat
  show Except.ok (RegistrationForm.mk form.address (UInt64.ofNat form.available.toNat)) = .ok form
  rw [space]

theorem RegistrationForm.readBack (form : RegistrationForm) : ReadBack form.toJson :=
  readBack_record (by simpa using ⟨readBack_text form.address, readBack_nat form.available⟩)

theorem RegistrationForm.readValue_render (form : RegistrationForm) :
    readValue (Bytes.toUtf8 form.toJson.render) = (form.toJson, []) :=
  Json.readValue_render form.readBack

/-! ## Answers -/

theorem HoldersForm.read_toJson (form : HoldersForm) : read form.toJson = .ok form := by
  have value := asTexts_texts form.addresses
  have taken : asRecord HoldersForm.fields form.toJson
      = .ok [("addresses", texts form.addresses)] :=
    asRecord_record (by decide) (.cons (field_passes value) .nil)
  rw [HoldersForm.read, bind_ok taken, bind_ok (get_ok rfl value)]
  rfl

theorem HoldersForm.readBack (form : HoldersForm) : ReadBack form.toJson :=
  readBack_record (by simpa using readBack_texts form.addresses)

theorem HoldersForm.decode?_render (form : HoldersForm) :
    decode? read (Bytes.toUtf8 form.toJson.render) = some form :=
  Json.decode?_render (readValue_render form.readBack) form.read_toJson

theorem HolderForm.read_toJson (form : HolderForm) : read form.toJson = .ok form := rfl

theorem HolderForm.readBack (form : HolderForm) : ReadBack form.toJson :=
  readBack_record (by simpa using readBack_text form.address)

theorem HolderForm.decode?_render (form : HolderForm) :
    decode? read (Bytes.toUtf8 form.toJson.render) = some form :=
  Json.decode?_render (readValue_render form.readBack) form.read_toJson

theorem FreeStorageForm.read_toJson (form : FreeStorageForm) : read form.toJson = .ok form := by
  have bytes : UInt64.ofNat form.bytes.toNat = form.bytes := UInt64.ofNat_toNat
  show Except.ok (FreeStorageForm.mk (UInt64.ofNat form.bytes.toNat)) = .ok form
  rw [bytes]

theorem FreeStorageForm.readBack (form : FreeStorageForm) : ReadBack form.toJson :=
  readBack_record (by simpa using readBack_nat form.bytes)

theorem ReceiptForm.read_toJson (form : ReceiptForm) : read form.toJson = .ok form := rfl

theorem ReceiptForm.readBack (form : ReceiptForm) : ReadBack form.toJson :=
  readBack_record (by simpa using readBack_text form.blob)

theorem DeleteReport.read_toJson (form : DeleteReport) : read form.toJson = .ok form := by
  have copies : UInt64.ofNat form.copies.toNat = form.copies := UInt64.ofNat_toNat
  have purged : UInt64.ofNat form.purged.toNat = form.purged := UInt64.ofNat_toNat
  show Except.ok (DeleteReport.mk (UInt64.ofNat form.copies.toNat) (UInt64.ofNat form.purged.toNat))
    = .ok form
  rw [copies, purged]

theorem DeleteReport.readBack (form : DeleteReport) : ReadBack form.toJson :=
  readBack_record (by simpa using ⟨readBack_nat form.copies, readBack_nat form.purged⟩)

/-! ## Failures -/

theorem FailureForm.read_toJson (form : FailureForm) : read form.toJson = .ok form := by
  obtain ⟨code, message⟩ := form
  cases code <;> rfl

theorem FailureForm.readBack (form : FailureForm) : ReadBack form.toJson :=
  readBack_record (by simpa using ⟨readBack_text form.code.name, readBack_text form.message⟩)

theorem FailureForm.decode?_render (form : FailureForm) :
    decode? read (Bytes.toUtf8 form.toJson.render) = some form :=
  Json.decode?_render (readValue_render form.readBack) form.read_toJson

/-! ## Rows -/

theorem readCopy_copyToJson (row : CopyRow) : readCopy (copyToJson row) = .ok row := by
  obtain ⟨id, blob, worker, state, size⟩ := row
  have same : UInt64.ofNat size.toNat = size := UInt64.ofNat_toNat
  have read : readCopy (copyToJson ⟨id, blob, worker, state, size⟩)
      = .ok ⟨id, blob, worker, state, UInt64.ofNat size.toNat⟩ := by
    cases state <;> rfl
  rw [read, same]

theorem readBack_copyToJson (row : CopyRow) : ReadBack (copyToJson row) :=
  readBack_record (by simpa using ⟨readBack_text row.id, readBack_text row.blob,
    readBack_text row.worker, readBack_text row.state.name, readBack_nat row.size⟩)

theorem readWorker_workerToJson (row : WorkerRow) : readWorker (workerToJson row) = .ok row := by
  have available := asNatural_nat row.available
  have locked := asNatural_nat row.locked
  have heartbeat := asSigned_int row.heartbeat
  have taken : asRecord workerFields (workerToJson row) = .ok _ :=
    asRecord_record (by decide) (.cons rfl (.cons rfl (.cons rfl
      (.cons (field_passes heartbeat) .nil))))
  rw [readWorker, bind_ok taken, bind_ok (get_ok rfl (asText_text _)),
    bind_ok (get_ok rfl available), bind_ok (get_ok rfl locked), bind_ok (get_ok rfl heartbeat)]
  rfl

theorem readBack_workerToJson (row : WorkerRow) : ReadBack (workerToJson row) :=
  readBack_record (by simpa using ⟨readBack_text row.address, readBack_nat row.available,
    readBack_nat row.locked, readBack_int row.heartbeat⟩)

end BlobCluster.Wire

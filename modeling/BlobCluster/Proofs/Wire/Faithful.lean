import BlobCluster.Proofs.SocketAddress
import BlobCluster.Proofs.Wire.Forms
import BlobCluster.Settings.Basic

/-!
# Values and their texts stand for each other

`Faithful` says of a type with a reading and a value to write that nothing is lost between values
and texts: every value is read back from its text, a text that is accepted settles when it is read
and written once, and different values have different texts.  `faithful_forms` says this of every
form that the nodes send, of the rows of a ledger and of the settings.
-/

namespace BlobCluster

open Json

/-! ## Settings -/

namespace Settings

theorem asAddress_render (address : SocketAddress) :
    asAddress (text address.render) = .ok address := by
  have parsed := SocketAddress.parse?_render address
  rw [asAddress, bind_ok (asText_text _), parsed]

theorem asBackend_name (backend : Backend) : asBackend (text backend.name) = .ok backend := by
  cases backend <;> rfl

theorem asAlgorithm_name (algorithm : Digest.Algorithm) :
    asAlgorithm (text algorithm.name) = .ok algorithm := by
  cases algorithm <;> rfl

theorem Master.read_toJson (s : Master) : read s.toJson = .ok s := by
  have address := asAddress_render s.bindAddr
  have path := asText_text s.dbPath
  have backend := asBackend_name s.backend
  have taken : asRecord fields s.toJson = .ok _ :=
    asRecord_record (by decide) (.cons (optionalField_passes address)
      (.cons (optionalField_passes path) (.cons (optionalField_passes backend) .nil)))
  rw [read, bind_ok taken, bind_ok (getD_ok rfl address _), bind_ok (getD_ok rfl path _),
    bind_ok (getD_ok rfl backend _)]
  rfl

theorem Master.readBack (s : Master) : ReadBack s.toJson :=
  readBack_record (by simpa using ⟨readBack_text s.bindAddr.render, readBack_text s.dbPath,
    readBack_text s.backend.name⟩)

theorem Worker.read_toJson (s : Worker) : read s.toJson = .ok s := by
  have address := asAddress_render s.bindAddr
  have advertised := asText_text s.advertiseAddr
  have masters := asTexts_texts s.masters
  have root := asText_text s.blobRoot
  have chunk := asNatural_nat s.chunkSize
  have algorithm := asAlgorithm_name s.hashAlgorithm
  have retries := asNatural_nat s.registerRetries
  have delay := asNatural_nat s.registerDelayMs
  have taken : asRecord fields s.toJson = .ok _ :=
    asRecord_record (by decide) (.cons (optionalField_passes address)
      (.cons (optionalField_passes advertised) (.cons (optionalField_passes masters)
      (.cons (optionalField_passes root) (.cons (optionalField_passes chunk)
      (.cons (optionalField_passes algorithm) (.cons (optionalField_passes retries)
      (.cons (optionalField_passes delay) .nil))))))))
  rw [read, bind_ok taken, bind_ok (getD_ok rfl address _), bind_ok (getD_ok rfl advertised _),
    bind_ok (getD_ok rfl masters _), bind_ok (getD_ok rfl root _), bind_ok (getD_ok rfl chunk _),
    bind_ok (getD_ok rfl algorithm _), bind_ok (getD_ok rfl retries _),
    bind_ok (getD_ok rfl delay _)]
  rfl

theorem Worker.readBack (s : Worker) : ReadBack s.toJson :=
  readBack_record (by simpa using ⟨readBack_text s.bindAddr.render, readBack_text s.advertiseAddr,
    readBack_texts s.masters, readBack_text s.blobRoot, readBack_nat s.chunkSize,
    readBack_text s.hashAlgorithm.name, readBack_nat s.registerRetries,
    readBack_nat s.registerDelayMs⟩)

theorem Gateway.read_toJson (s : Gateway) : read s.toJson = .ok s := by
  have address := asAddress_render s.bindAddr
  have masters := asTexts_texts s.masters
  have root := asText_text s.scratchRoot
  have chunk := asNatural_nat s.chunkSize
  have algorithm := asAlgorithm_name s.hashAlgorithm
  have purges := asBool_bool s.purgeWorkerCopies
  have taken : asRecord fields s.toJson = .ok _ :=
    asRecord_record (by decide) (.cons (optionalField_passes address)
      (.cons (optionalField_passes masters) (.cons (optionalField_passes root)
      (.cons (optionalField_passes chunk) (.cons (optionalField_passes algorithm)
      (.cons (optionalField_passes purges) .nil))))))
  rw [read, bind_ok taken, bind_ok (getD_ok rfl address _), bind_ok (getD_ok rfl masters _),
    bind_ok (getD_ok rfl root _), bind_ok (getD_ok rfl chunk _),
    bind_ok (getD_ok rfl algorithm _), bind_ok (getD_ok rfl purges _)]
  rfl

theorem Gateway.readBack (s : Gateway) : ReadBack s.toJson :=
  readBack_record (by simpa using ⟨readBack_text s.bindAddr.render, readBack_texts s.masters,
    readBack_text s.scratchRoot, readBack_nat s.chunkSize, readBack_text s.hashAlgorithm.name,
    readBack_bool s.purgeWorkerCopies⟩)

theorem read_toJson (s : Settings) : read s.toJson = .ok s := by
  have master := s.master.read_toJson
  have worker := s.worker.read_toJson
  have gateway := s.gateway.read_toJson
  have level := asText_text s.logLevel
  have taken : asRecord fields s.toJson = .ok _ :=
    asRecord_record (by decide) (.cons (optionalField_passes master)
      (.cons (optionalField_passes worker) (.cons (optionalField_passes gateway)
      (.cons (optionalField_passes level) .nil))))
  rw [read, bind_ok taken, bind_ok (getD_ok rfl master _), bind_ok (getD_ok rfl worker _),
    bind_ok (getD_ok rfl gateway _), bind_ok (getD_ok rfl level _)]
  rfl

theorem readBack (s : Settings) : ReadBack s.toJson :=
  readBack_record (by simpa using ⟨s.master.readBack, s.worker.readBack, s.gateway.readBack,
    readBack_text s.logLevel⟩)

end Settings

/-! ## Faithful forms -/

namespace Wire

variable {α : Type} {reading : Reading α} {write : α → Json}

def encode (write : α → Json) (a : α) : Bytes := Bytes.toUtf8 (write a).render

/-- What becomes of a text when it is read and written again. -/
def rewritten? (reading : Reading α) (write : α → Json) (bytes : Bytes) : Option Bytes :=
  (decode? reading bytes).map (encode write)

/-- Values and the texts they are written as stand for each other.  Texts are not required to come
back as they were: an accepted one may have blanks or fields in another order, and settles after it
has been written once. -/
structure Faithful (reading : Reading α) (write : α → Json) : Prop where
  /-- Every value is read back from its text. -/
  decodes : ∀ a, decode? reading (encode write a) = some a
  /-- A text that is accepted changes no more after it has been written again. -/
  settles : ∀ bytes again, rewritten? reading write bytes = some again →
    rewritten? reading write again = some again
  /-- Different values have different texts. -/
  separates : ∀ a b, encode write a = encode write b → a = b

/-- A form is faithful if what is written is read back as a JSON value and as a value of its type.
The two premises are about writing JSON and about this form, and only the second differs from form
to form. -/
theorem faithful_of_readBack (back : ∀ a, ReadBack (write a))
    (read : ∀ a, reading (write a) = .ok a) : Faithful reading write := by
  have decodes : ∀ a, decode? reading (encode write a) = some a := fun a =>
    decode?_render (readValue_render (back a)) (read a)
  refine ⟨decodes, ?_, ?_⟩
  · intro bytes again written
    obtain ⟨a, -, rfl⟩ := Option.map_eq_some_iff.1 written
    rw [rewritten?, decodes, Option.map_some]
  · intro a b same
    have both := decodes a
    rw [same, decodes] at both
    exact (Option.some.inj both).symm

/-- Every form of a request, an answer, a failure or a row and all settings are faithful: what is
written of a value, with any texts, numbers of 64 bits and socket addresses in it, is read back as
that value.

A text is read back in two steps, first as a JSON value and then as the value of its type.  The
first is one lemma for each kind of value, whatever follows it in the text; the second is a look at
the fields in their order. -/
theorem faithful_forms :
    Faithful readCopy copyToJson ∧ Faithful readWorker workerToJson
      ∧ Faithful FailureForm.read FailureForm.toJson
      ∧ Faithful PlacementForm.read PlacementForm.toJson
      ∧ Faithful HoldersForm.read HoldersForm.toJson
      ∧ Faithful HolderForm.read HolderForm.toJson
      ∧ Faithful ConfirmationForm.read ConfirmationForm.toJson
      ∧ Faithful RegistrationForm.read RegistrationForm.toJson
      ∧ Faithful FreeStorageForm.read FreeStorageForm.toJson
      ∧ Faithful ReceiptForm.read ReceiptForm.toJson
      ∧ Faithful DeleteReport.read DeleteReport.toJson
      ∧ Faithful Settings.read Settings.toJson :=
  ⟨faithful_of_readBack readBack_copyToJson readCopy_copyToJson,
    faithful_of_readBack readBack_workerToJson readWorker_workerToJson,
    faithful_of_readBack FailureForm.readBack FailureForm.read_toJson,
    faithful_of_readBack PlacementForm.readBack PlacementForm.read_toJson,
    faithful_of_readBack HoldersForm.readBack HoldersForm.read_toJson,
    faithful_of_readBack HolderForm.readBack HolderForm.read_toJson,
    faithful_of_readBack ConfirmationForm.readBack ConfirmationForm.read_toJson,
    faithful_of_readBack RegistrationForm.readBack RegistrationForm.read_toJson,
    faithful_of_readBack FreeStorageForm.readBack FreeStorageForm.read_toJson,
    faithful_of_readBack ReceiptForm.readBack ReceiptForm.read_toJson,
    faithful_of_readBack DeleteReport.readBack DeleteReport.read_toJson,
    faithful_of_readBack Settings.readBack Settings.read_toJson⟩

end Wire

end BlobCluster

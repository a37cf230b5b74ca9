import BlobCluster.Gateway
import BlobCluster.Proofs.Messages
import BlobCluster.Proofs.Storage.Ready

/-!
# What a gateway buffers

An upload is buffered only if it is complete: the messages were its size and then chunks of that
many bytes.  The handle that is left then holds exactly these bytes, and the identity is their
digest.  Conversely, a complete upload is buffered if the scratch folder is ready
(`leaves_bufferIn_of_ready`).
-/

namespace BlobCluster

namespace Gateway

variable {volume : Volume} {scratch : ChunkStore} {file : ChunkFile} {place : Path}
  {content : Bytes} {algorithm : Digest.Algorithm}

/-- Receiving touches only the scratch file; it gets to the end if the messages are chunks, and then
the file and the digest have taken them all. -/
theorem leaves_receive (messages : Arriving UploadMessage) (sound : volume.Sound)
    (h : file.Holds volume place content) :
    Leaves (receive file (.reading algorithm content) messages) volume fun r after =>
      volume.Keeps after (· = place) ∧
      match r with
      | .ok (file', hasher) => ∃ chunks : List Bytes,
          messages = chunks.map (fun chunk => .ok (.chunk chunk))
          ∧ hasher = .reading algorithm (content ++ chunks.flatten)
          ∧ file'.Holds after place (content ++ chunks.flatten)
      | .error _ => ∀ chunks : List Bytes,
          messages ≠ chunks.map fun chunk => .ok (.chunk chunk) := by
  induction messages generalizing volume file content with
  | nil =>
    refine ⟨.refl sound, [], rfl, ?_, ?_⟩
    · simp
    · show file.Holds volume place _
      simpa using h
  | cons message rest ih =>
    match message with
    | .error e =>
      refine ⟨.refl sound, fun chunks => ?_⟩
      cases chunks <;> exact nofun
    | .ok (.info _) =>
      refine ⟨.refl sound, fun chunks => ?_⟩
      cases chunks <;> exact nofun
    | .ok (.chunk bytes) =>
      refine Leaves.bind ((ChunkFile.leaves_append sound h bytes).mono ?_)
      rintro _ after ⟨file', rfl, -, replaced, holds⟩
      rw [followed_ok, Digest.Hasher.addChunk_reading]
      refine (ih replaced.sound holds).mono ?_
      rintro r after' ⟨keeps, outcome⟩
      refine ⟨replaced.keeps.trans keeps, ?_⟩
      match r with
      | .error e =>
        rintro (_ | ⟨chunk, chunks⟩) same
        · cases same
        · exact outcome chunks (List.cons.inj same).2
      | .ok (last, hasher) =>
        obtain ⟨chunks, rfl, rfl, holds'⟩ := outcome
        refine ⟨bytes :: chunks, rfl, ?_, ?_⟩
        · simp
        · simpa using holds'

/-- An upload is buffered only if all its bytes arrived; then the handle holds them and the identity
is their digest.  No folder comes or goes. -/
theorem leaves_bufferIn (messages : Arriving UploadMessage) (sound : volume.Sound) :
    Leaves (bufferIn scratch algorithm messages) volume fun r after =>
      (∃ touched, volume.Keeps after touched) ∧
      match r with
      | .ok buffered => ∃ (size : UInt64) (chunks : List Bytes),
          messages = uploadMessages size (chunks.map .ok)
          ∧ chunks.flatten.length = size.toNat
          ∧ buffered.blob = algorithm.digest chunks.flatten
          ∧ buffered.size = Text.megabytesFor size
          ∧ ∃ place, buffered.file.Holds after place chunks.flatten
      | .error _ => True := by
  have nothing : ∃ touched, volume.Keeps volume touched := ⟨fun _ => False, .refl sound⟩
  match messages with
  | [] => exact ⟨nothing, trivial⟩
  | .error e :: _ => exact ⟨nothing, trivial⟩
  | .ok (.chunk _) :: _ => exact ⟨nothing, trivial⟩
  | .ok (.info declared) :: rest =>
    refine Leaves.bind ((scratch.leaves_createTemporary sound).mono ?_)
    rintro (e | file) between created
    · exact ⟨⟨_, created⟩, trivial⟩
    obtain ⟨-, place, -, -, new, holds⟩ := created
    rw [followed_ok, ← Digest.Hasher.reading_nil]
    refine Leaves.bind ((leaves_receive rest new.sound holds).mono ?_)
    rintro (e | ⟨file', hasher⟩) after ⟨keeps, outcome⟩
    · exact ⟨⟨_, new.keeps.trans keeps⟩, trivial⟩
    obtain ⟨chunks, rfl, rfl, holds'⟩ := outcome
    rw [List.nil_append] at holds'
    rw [followed_ok]
    simp only [Digest.Hasher.finish_reading, List.nil_append]
    split
    next complete =>
      refine ⟨⟨_, new.keeps.trans keeps⟩, declared, chunks, (uploadMessages_ok _ _).symm, ?_, rfl,
        rfl, place, holds'⟩
      rw [← holds'.size]
      exact complete
    next => exact ⟨⟨_, new.keeps.trans keeps⟩, trivial⟩

/-! ## Scratch folders that are ready -/

def Ready (gateway : Gateway) : Prop := ∃ top, gateway.scratch.Ready gateway.volume top

/-- Chunks are taken into the file and the digest before anything else is looked at.  What comes
after them may be the end, a fault or a failure, so the statement on it is a premise for the file
with the chunks in it. -/
theorem leaves_receive_append {post : Except Failure (ChunkFile × Digest.Hasher) → Volume → Prop}
    (chunks : List Bytes) (rest : Arriving UploadMessage) (sound : volume.Sound)
    (h : file.Holds volume place content)
    (later : ∀ file' between, volume.Keeps between (· = place) →
      file'.Holds between place (content ++ chunks.flatten) →
      Leaves (receive file' (.reading algorithm (content ++ chunks.flatten)) rest) between post) :
    Leaves (receive file (.reading algorithm content)
      ((chunks.map fun chunk => .ok (.chunk chunk)) ++ rest)) volume post := by
  induction chunks generalizing volume file content with
  | nil =>
    simp only [List.flatten_nil, List.append_nil] at later
    exact later file volume (.refl sound) h
  | cons bytes chunks ih =>
    refine Leaves.bind ((ChunkFile.leaves_append sound h bytes).mono ?_)
    rintro _ after ⟨file', rfl, -, replaced, holds⟩
    rw [followed_ok, Digest.Hasher.addChunk_reading]
    refine ih replaced.sound holds fun last between keeps holds' => ?_
    rw [List.append_assoc] at holds' ⊢
    exact later last between (replaced.keeps.trans keeps) holds'

theorem leaves_receive_chunks (chunks : List Bytes) (sound : volume.Sound)
    (h : file.Holds volume place content) :
    Leaves (receive file (.reading algorithm content)
        (chunks.map fun chunk => .ok (.chunk chunk))) volume fun r after =>
      volume.Keeps after (· = place)
        ∧ ∃ file', r = .ok (file', .reading algorithm (content ++ chunks.flatten))
          ∧ file'.Holds after place (content ++ chunks.flatten) := by
  rw [← List.append_nil (chunks.map _)]
  exact leaves_receive_append chunks [] sound h
    fun file' _ keeps holds => ⟨keeps, file', rfl, holds⟩

/-- A scratch file whose place is filled is a file with that content. -/
theorem replaced_of_holds {created after : Volume}
    (new : volume.Replaced created place (some (.file [])))
    (keeps : created.Keeps after (· = place)) (holds : file.Holds after place content) :
    volume.Replaced after place (some (.file content)) where
  sound := keeps.sound
  seen other := by
    split
    next here => rw [here, holds.seen]
    next elsewhere => exact (new.keeps.trans keeps).seen other elsewhere
  noFolder := new.noFolder
  noFolder' := nofun

/-- In a scratch folder that is ready every complete upload is buffered in a temporary file. -/
theorem leaves_bufferIn_of_ready {top : Path} {size : UInt64} {chunks : List Bytes}
    (ready : scratch.Ready volume top) (complete : chunks.flatten.length = size.toNat) :
    Leaves (bufferIn scratch algorithm (uploadMessages size (chunks.map .ok))) volume fun r after =>
      let name := Volume.temporaryName (volume.freeSerial scratch.root)
      ∃ file, r = .ok ⟨file, algorithm.digest chunks.flatten, Text.megabytesFor size⟩
        ∧ volume.Replaced after (top ++ [name]) (some (.file chunks.flatten))
        ∧ file.Holds after (top ++ [name]) chunks.flatten := by
  rw [uploadMessages_ok]
  refine Leaves.bind (ready.leaves_createTemporary.mono ?_)
  rintro _ created ⟨file, rfl, new, holds⟩
  rw [followed_ok, ← Digest.Hasher.reading_nil]
  refine Leaves.bind ((leaves_receive_chunks chunks new.sound holds).mono ?_)
  rintro _ received ⟨keeps, file', rfl, holds'⟩
  have counted : file'.size = size.toNat := holds'.size.trans complete
  rw [followed_ok]
  simp only [Digest.Hasher.finish_reading, List.nil_append, counted, if_true]
  exact ⟨file', rfl, replaced_of_holds new keeps holds', holds'⟩

/-! ## Starting -/

/-- A gateway that could be started has a sound volume. -/
theorem sound_of_start {gateway : Gateway} {root : String} {chunkSize masters : Nat} {purge : Bool}
    (sound : volume.Sound)
    (started : start volume root chunkSize algorithm purge masters = .ok gateway) :
    gateway.volume.Sound := by
  have opened := ChunkStore.sound_open root chunkSize sound
  unfold start at started
  split at started
  next => cases started
  next scratch volume' same =>
    rw [same] at opened
    split at started
    · cases started
    · cases started
      exact opened

end Gateway

end BlobCluster

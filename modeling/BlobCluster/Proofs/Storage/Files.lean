import BlobCluster.Proofs.Action
import BlobCluster.Proofs.Digest.Streaming
import BlobCluster.Proofs.Storage.Changes
import BlobCluster.Proofs.Storage.Reading

/-!
# Files of a store

A handle that `Holds` a file leads to a place where a file is seen and counts its bytes.  Handles
that a store gives out hold their files, appending through a handle keeps it holding, and reading
through it gives the bytes that are seen, whatever the size of the chunks.

What is said about a store here does not depend on how the names of temporary files are chosen: a
name that is taken already gets an empty file like any other.
-/

namespace BlobCluster

variable {volume : Volume} {store : ChunkStore} {file : ChunkFile} {place : Path} {content : Bytes}

/-- The handle leads to a place where a file with this content is seen, and counts its bytes.  The
size is kept by the handle and not read from the volume, so that it agrees with the file is part of
what has to be kept. -/
structure ChunkFile.Holds (file : ChunkFile) (volume : Volume) (place : Path) (content : Bytes) :
    Prop where
  located : volume.locate file.path = .ok place
  seen : volume.seen place = some (.file content)
  size : file.size = content.length

namespace ChunkStore

theorem ne_dot_of_valid {id : String} (h : BlobId.Valid id) : id ≠ "." ∧ id ≠ ".." :=
  (BlobId.valid_iff.1 h).2.2.1.2

/-- The paths of two ids lead to two places. -/
theorem place_ne {one other : String} (valid : BlobId.Valid one) (valid' : BlobId.Valid other)
    (differ : one ≠ other) {place place' : Path}
    (located : volume.locate (store.pathFor one) = .ok place)
    (located' : volume.locate (store.pathFor other) = .ok place') : place ≠ place' := by
  intro same
  exact differ ((Volume.name_of_locate (ne_dot_of_valid valid) (ne_dot_of_valid valid') located
    located').1 same)

/-- An id that a file keeps: no file has it only for the time being. -/
structure Lasting (id : String) : Prop where
  valid : BlobId.Valid id
  named : ∀ serial, id ≠ Volume.temporaryName serial

theorem lasting_digest (algorithm : Digest.Algorithm) (bytes : Bytes) :
    Lasting (algorithm.digest bytes) :=
  ⟨Digest.valid_digest algorithm bytes, Digest.digest_ne_temporaryName algorithm bytes⟩

/-- Opening a store keeps a volume sound, also if it is refused. -/
theorem sound_open (root : String) (chunkSize : Nat) (sound : volume.Sound) :
    (ChunkStore.open root chunkSize volume).2.Sound := by
  have made : (makeRoot root volume).2.Sound := by
    unfold makeRoot
    split
    · exact sound
    · split
      · exact sound
      · exact sound.makeFolders _
  unfold ChunkStore.open
  split
  · revert made
    generalize makeRoot root volume = outcome
    intro made
    obtain ⟨e | _, after⟩ := outcome <;> exact made
  · exact sound

/-- A new file under a temporary name is empty and held. -/
theorem leaves_createTemporary (sound : volume.Sound) :
    Leaves store.createTemporary volume fun r after =>
      match r with
      | .ok file => ∃ serial place, BlobId.Valid (Volume.temporaryName serial)
          ∧ file.path = store.pathFor (Volume.temporaryName serial)
          ∧ volume.Replaced after place (some (.file [])) ∧ file.Holds after place []
      | .error _ => volume.Keeps after fun _ => False := by
  have drawn := sound.drawName store.root
  unfold Leaves createTemporary
  generalize same : volume.drawName store.root = named at drawn
  obtain ⟨name, volume'⟩ := named
  have isTemporary : name = Volume.temporaryName (volume.freeSerial store.root) := by
    unfold Volume.drawName at same
    cases same
    rfl
  simp only [create]
  cases valid : BlobId.validate name with
  | error e => exact drawn
  | ok =>
    rw [isTemporary] at valid
    cases written : volume'.write (store.pathFor name) [] with
    | error e => exact drawn
    | ok after =>
      obtain ⟨place, located, replaced⟩ := drawn.sound.write written
      refine ⟨_, place, BlobId.validate_eq_ok_iff.1 valid, congrArg store.pathFor isTemporary,
        drawn.replaced replaced, ?_⟩
      exact ⟨replaced.keeps.stay.locate located, replaced.seen_self, rfl⟩

theorem leaves_load (id : String) :
    Leaves (store.load id) volume fun r after => after = volume ∧
      match r with
      | .ok file => BlobId.Valid id ∧ file.path = store.pathFor id
          ∧ ∃ place content, file.Holds volume place content
      | .error _ => True := by
  unfold Leaves load
  cases valid : BlobId.validate id with
  | error e => exact ⟨rfl, trivial⟩
  | ok =>
    rcases found : volume.find (store.pathFor id) with e | _ | number
    · cases e <;> exact ⟨rfl, trivial⟩
    · exact ⟨rfl, trivial⟩
    · obtain ⟨place, located, there⟩ := Volume.find_eq_ok_iff.1 found
      refine ⟨rfl, BlobId.validate_eq_ok_iff.1 valid, rfl, place, _, located,
        Volume.seen_eq_file_iff.2 ⟨number, there, rfl⟩, ?_⟩
      simp [handle]

theorem leaves_load_of_bytes? {id : String} (valid : BlobId.Valid id)
    (there : volume.bytes? (store.pathFor id) = some content) :
    Leaves (store.load id) volume fun r after => after = volume
      ∧ ∃ file place, r = .ok file ∧ file.Holds volume place content := by
  obtain ⟨place, located, showing⟩ := Volume.bytes?_eq_some_iff.1 there
  obtain ⟨number, node, rfl⟩ := Volume.seen_eq_file_iff.1 showing
  have found := Volume.find_eq_ok_iff.2 ⟨place, located, node⟩
  unfold Leaves load
  rw [BlobId.validate_eq_ok_iff.2 valid]
  simp only [found]
  exact ⟨trivial, _, place, rfl, located, showing, by simp [handle]⟩

theorem leaves_persist (sound : volume.Sound) (located : volume.locate file.path = .ok place)
    (seen : volume.seen place = some (.file content)) (id : String) :
    Leaves (store.persist file id) volume fun r after =>
      match r with
      | .ok _ => BlobId.Valid id ∧ ∃ target between, volume.locate (store.pathFor id) = .ok target
          ∧ volume.Replaced between place none
          ∧ between.Replaced after target (some (.file content))
      | .error _ => after = volume := by
  unfold Leaves persist
  cases valid : BlobId.validate id with
  | error e => rfl
  | ok =>
    cases renamed : volume.rename file.path (store.pathFor id) with
    | error e => rfl
    | ok after =>
      obtain ⟨target, between, rest⟩ := sound.rename renamed located seen
      exact ⟨BlobId.validate_eq_ok_iff.1 valid, target, between, rest⟩

end ChunkStore

namespace ChunkFile

theorem leaves_append (sound : volume.Sound) (h : file.Holds volume place content)
    (bytes : Bytes) :
    Leaves (file.append bytes) volume fun r after => ∃ file', r = .ok file'
      ∧ file'.path = file.path ∧ volume.Replaced after place (some (.file (content ++ bytes)))
      ∧ file'.Holds after place (content ++ bytes) := by
  obtain ⟨number, there, rfl⟩ := Volume.seen_eq_file_iff.1 h.seen
  have found := Volume.find_eq_ok_iff.2 ⟨place, h.located, there⟩
  have appended : volume.append file.path bytes = .ok (volume.extendContent number bytes) := by
    rw [Volume.append, found]
  obtain ⟨place', content', located, showing, replaced⟩ := sound.append appended
  obtain rfl : place = place' := Except.ok.inj (h.located.symm.trans located)
  obtain rfl : (volume.content number).toList = content' := by
    have same := h.seen.symm.trans showing
    cases same
    rfl
  unfold Leaves append
  rw [appended]
  refine ⟨_, rfl, rfl, replaced, replaced.keeps.stay.locate h.located, replaced.seen_self, ?_⟩
  rw [List.length_append, ← h.size]

/-- After a removal nothing is seen where the handle leads to, unless there is a folder. -/
theorem leaves_remove (sound : volume.Sound) (located : volume.locate file.path = .ok place)
    (noFolder : volume.seen place ≠ some .folder) :
    Leaves file.remove volume fun _ after => volume.Replaced after place none := by
  unfold Leaves remove
  rcases there : volume.at? place with _ | _ | number
  · have absent : volume.seen place = none := by
      rw [Volume.seen, there]
      rfl
    have refused : volume.remove file.path = .error .noEntry := by
      rw [Volume.remove, located]
      simp only [there]
    rw [refused]
    exact .of_absent sound absent
  · exact absurd (Volume.seen_eq_folder_iff.2 there) noFolder
  · have removed : volume.remove file.path
        = .ok { volume with entries := volume.entries.erase place } := by
      rw [Volume.remove, located]
      simp only [there]
    rw [removed]
    exact sound.replaced_of_erase there

/-- Wherever a handle leads to, removing its file touches at most one place. -/
theorem keeps_remove (sound : volume.Sound) (file : ChunkFile) :
    Leaves file.remove volume fun _ after => ∃ touched, volume.Keeps after touched := by
  have nothing : ∃ touched, volume.Keeps volume touched := ⟨fun _ => False, .refl sound⟩
  unfold Leaves remove
  cases removed : volume.remove file.path with
  | error e => cases e <;> exact nothing
  | ok after =>
    obtain ⟨place, -, gone⟩ := sound.remove removed
    exact ⟨_, gone.keeps⟩

theorem Holds.remove (h : file.Holds volume place content) : (file.remove volume).1 = .ok true := by
  obtain ⟨number, there, -⟩ := Volume.seen_eq_file_iff.1 h.seen
  unfold ChunkFile.remove Volume.remove
  simp only [h.located, there]

end ChunkFile

/-! ## Reading -/

/-- A new reader of a handle that holds a file goes through the content of the file. -/
theorem ChunkFile.Holds.reads (h : file.Holds volume place content) :
    ∃ number, file.chunks.Reads volume number content := by
  obtain ⟨number, there, rfl⟩ := Volume.seen_eq_file_iff.1 h.seen
  have found := Volume.find_eq_ok_iff.2 ⟨place, h.located, there⟩
  exact ⟨number, fun _ => .inr ⟨rfl, found⟩, List.prefix_refl _, h.size.symm, rfl⟩

/-- Reading through a handle that holds a file gives its bytes and does not fail. -/
theorem ChunkFile.Holds.stream (h : file.Holds volume place content) :
    (file.stream volume).failure = none ∧ (file.stream volume).chunks.flatten = content := by
  obtain ⟨number, reads⟩ := h.reads
  unfold ChunkFile.stream
  rw [reads.drain, ← ChunkStream.items_of_ok, ChunkStream.ofItems_items]
  exact ⟨rfl, Bytes.flatten_cut file.chunkSize_pos content⟩

end BlobCluster

import BlobCluster.Proofs.BlobId
import BlobCluster.Proofs.Storage.Ready

/-!
# Stores stay in their folder

An id is one name directly in the folder of a store.  What is done under an id that is accepted can
be seen there alone, save that a file which gets the id leaves its old name; under any other text,
and whenever making or naming a file is refused, nothing at all is done.  `create_eq_ok_iff` and
`persist_eq_ok_iff` say what the two operations do when they are not refused.
-/

namespace BlobCluster

variable {volume after : Volume} {store : ChunkStore} {file made named : ChunkFile} {id : String}
  {place : Path} {content : Bytes}

/-- The handle that is gone on with: the new one, or the old one if there is none. -/
def ChunkFile.goOn (file : ChunkFile) : Except Failure ChunkFile → ChunkFile
  | .ok named => named
  | .error _ => file

namespace ChunkStore

/-! ## When an operation is done -/

theorem validate_eq_error (refused : ¬ BlobId.Valid id) :
    ∃ e : Failure, e.kind = .invalidArgument ∧ BlobId.validate id = .error e := by
  unfold BlobId.validate
  cases objected : BlobId.objection? id with
  | none => exact absurd objected refused
  | some objection => exact ⟨_, rfl, rfl⟩

theorem create_eq_ok_iff : store.create id volume = (.ok made, after)
    ↔ BlobId.Valid id ∧ volume.write (store.pathFor id) [] = .ok after
      ∧ made = store.handle id 0 := by
  unfold create
  constructor
  · intro created
    split at created
    · cases created
    · rename_i valid
      split at created
      · cases created
      · rename_i written
        cases created
        exact ⟨BlobId.validate_eq_ok_iff.1 valid, written, rfl⟩
  · rintro ⟨valid, written, rfl⟩
    simp only [BlobId.validate_eq_ok_iff.2 valid, written]

theorem persist_eq_ok_iff : store.persist file id volume = (.ok named, after)
    ↔ BlobId.Valid id ∧ volume.rename file.path (store.pathFor id) = .ok after
      ∧ named = { file with path := store.pathFor id, label := store.labelFor id } := by
  unfold persist
  constructor
  · intro persisted
    split at persisted
    · cases persisted
    · rename_i valid
      split at persisted
      · cases persisted
      · rename_i renamed
        cases persisted
        exact ⟨BlobId.validate_eq_ok_iff.1 valid, renamed, rfl⟩
  · rintro ⟨valid, renamed, rfl⟩
    simp only [BlobId.validate_eq_ok_iff.2 valid, renamed]

theorem create_eq_error {e : Failure} (refused : store.create id volume = (.error e, after)) :
    after = volume := by
  unfold create at refused
  split at refused
  · cases refused
    rfl
  · split at refused <;> cases refused
    rfl

theorem persist_eq_error {e : Failure}
    (refused : store.persist file id volume = (.error e, after)) : after = volume := by
  unfold persist at refused
  split at refused
  · cases refused
    rfl
  · split at refused <;> cases refused
    rfl

theorem load_snd (store : ChunkStore) (id : String) (volume : Volume) :
    (store.load id volume).2 = volume :=
  (leaves_load id).1

/-! ## The entry of an id -/

/-- The place of an id: its name directly in the folder of the store. -/
def EntryAt (store : ChunkStore) (volume : Volume) (id : String) (place : Path) : Prop :=
  ∃ top, volume.locate store.root = .ok top ∧ volume.at? top = some .folder ∧ place = top ++ [id]

theorem entryAt_of_locate (sound : volume.Sound) (valid : BlobId.Valid id)
    (located : volume.locate (store.pathFor id) = .ok place) : store.EntryAt volume id place := by
  obtain ⟨noDot, noDots⟩ := ne_dot_of_valid valid
  obtain ⟨top, walked, rfl⟩ := Volume.locate_name noDot noDots located
  have folder := sound.folder_of_locate located
  rw [List.dropLast_concat] at folder
  refine ⟨top, ?_, folder, rfl⟩
  unfold Volume.locate at located ⊢
  rw [pathFor, Path.textSize_concat] at located
  split at located
  · cases located
  · rw [if_neg (by omega), walked]

theorem exists_create (valid : BlobId.Valid id)
    (located : volume.locate (store.pathFor id) = .ok place)
    (noFolder : volume.seen place ≠ some .folder) :
    ∃ after, store.create id volume = (.ok (store.handle id 0), after) := by
  rw [Ne, Volume.seen_eq_folder_iff] at noFolder
  obtain ⟨after, written⟩ := Volume.exists_write located noFolder []
  exact ⟨after, create_eq_ok_iff.2 ⟨valid, written, rfl⟩⟩

/-- What is made under an id is an empty file at its entry. -/
theorem replaced_of_create (sound : volume.Sound)
    (created : store.create id volume = (.ok made, after)) :
    ∃ place, store.EntryAt volume id place ∧ volume.Replaced after place (some (.file [])) := by
  obtain ⟨valid, written, -⟩ := create_eq_ok_iff.1 created
  obtain ⟨place, located, replaced⟩ := sound.write written
  exact ⟨place, entryAt_of_locate sound valid located, replaced⟩

theorem exists_persist (sound : volume.Sound) {here : Path}
    (held : volume.locate file.path = .ok here) (seen : volume.seen here = some (.file content))
    (valid : BlobId.Valid id) (located : volume.locate (store.pathFor id) = .ok place)
    (noFolder : volume.seen place ≠ some .folder) :
    ∃ named after, store.persist file id volume = (.ok named, after) := by
  obtain ⟨number, there, -⟩ := Volume.seen_eq_file_iff.1 seen
  obtain ⟨after, renamed⟩ := sound.exists_renamePlace there (sound.folder_of_locate located)
    fun folder => noFolder (Volume.seen_eq_folder_iff.2 folder)
  refine ⟨_, after, persist_eq_ok_iff.2 ⟨valid, ?_, rfl⟩⟩
  unfold Volume.rename
  rw [held, located]
  exact renamed

/-- A file that gets an id is seen at its entry and not at its old place any more. -/
theorem seen_of_persist (sound : volume.Sound) {here : Path}
    (held : volume.locate file.path = .ok here) (seen : volume.seen here = some (.file content))
    (persisted : store.persist file id volume = (.ok named, after)) :
    ∃ place, store.EntryAt volume id place ∧ after.Sound
      ∧ ∀ other, after.seen other = if other = place then some (.file content)
          else if other = here then none else volume.seen other := by
  obtain ⟨valid, renamed, -⟩ := persist_eq_ok_iff.1 persisted
  obtain ⟨place, between, located, gone, replaced⟩ := sound.rename renamed held seen
  refine ⟨place, entryAt_of_locate sound valid located, replaced.sound, fun other => ?_⟩
  rw [replaced.seen, gone.seen]

theorem contains_eq_true_iff : store.contains id volume = true
    ↔ BlobId.Valid id ∧ ∃ bytes, volume.bytes? (store.pathFor id) = some bytes := by
  unfold contains Volume.isFile Volume.bytes?
  rcases volume.find (store.pathFor id) with e | _ | number <;> simp

theorem exists_create_iff (sound : volume.Sound) (valid : BlobId.Valid id) :
    (∃ made after, store.create id volume = (.ok made, after))
      ↔ ∃ place, volume.locate (store.pathFor id) = .ok place
          ∧ volume.seen place ≠ some .folder := by
  constructor
  · rintro ⟨made, after, created⟩
    obtain ⟨-, written, -⟩ := create_eq_ok_iff.1 created
    obtain ⟨place, located, replaced⟩ := sound.write written
    exact ⟨place, located, replaced.noFolder⟩
  · rintro ⟨place, located, noFolder⟩
    obtain ⟨after, created⟩ := exists_create valid located noFolder
    exact ⟨_, after, created⟩

theorem exists_persist_iff (sound : volume.Sound) {here : Path}
    (held : volume.locate file.path = .ok here) (seen : volume.seen here = some (.file content))
    (valid : BlobId.Valid id) :
    (∃ named after, store.persist file id volume = (.ok named, after))
      ↔ ∃ place, volume.locate (store.pathFor id) = .ok place
          ∧ volume.seen place ≠ some .folder := by
  constructor
  · rintro ⟨named, after, persisted⟩
    obtain ⟨-, renamed, -⟩ := persist_eq_ok_iff.1 persisted
    obtain ⟨place, between, located, gone, replaced⟩ := sound.rename renamed held seen
    refine ⟨place, located, fun folder => ?_⟩
    have still := (gone.keeps.folders place).2 (Volume.seen_eq_folder_iff.1 folder)
    exact replaced.noFolder (Volume.seen_eq_folder_iff.2 still)
  · rintro ⟨place, located, noFolder⟩
    exact exists_persist sound held seen valid located noFolder

/-- Under an id that is not acceptable nothing is done.  Under one that is, making a file empties or
adds the entry of the id, and giving the id to a file moves the file there; nothing else is seen to
change, and either is refused exactly if the path of the id leads nowhere or to a folder.  Looking
changes nothing, and neither does what is refused, the handle included.

On a volume that is not sound two places might share a content, and what is written at one would
show at the other. -/
theorem confined_to_root (sound : volume.Sound) (store : ChunkStore) (file : ChunkFile)
    (id : String) :
    (BlobId.validate id = .ok () ↔ BlobId.Acceptable id)
      ∧ (¬ BlobId.Acceptable id → ∃ e : Failure, e.kind = .invalidArgument
          ∧ store.create id volume = (.error e, volume) ∧ store.load id volume = (.error e, volume)
          ∧ store.persist file id volume = (.error e, volume) ∧ store.contains id volume = false)
      ∧ (BlobId.Acceptable id → ((∃ made after, store.create id volume = (.ok made, after))
          ↔ ∃ place, volume.locate (store.pathFor id) = .ok place
              ∧ volume.seen place ≠ some .folder))
      ∧ (∀ made after, store.create id volume = (.ok made, after) →
          made = store.handle id 0
            ∧ ∃ place, store.EntryAt volume id place ∧ volume.Replaced after place (some (.file [])))
      ∧ (∀ here content, volume.locate file.path = .ok here →
          volume.seen here = some (.file content) →
          (BlobId.Acceptable id → ((∃ named after, store.persist file id volume = (.ok named, after))
            ↔ ∃ place, volume.locate (store.pathFor id) = .ok place
                ∧ volume.seen place ≠ some .folder))
            ∧ ∀ named after, store.persist file id volume = (.ok named, after) →
              (file.goOn (.ok named)).path = store.pathFor id
                ∧ (file.goOn (.ok named)).size = file.size
                ∧ ∃ place, store.EntryAt volume id place
                  ∧ ∀ other, after.seen other = if other = place then some (.file content)
                      else if other = here then none else volume.seen other)
      ∧ (store.load id volume).2 = volume
      ∧ (store.contains id volume = true
          ↔ BlobId.Acceptable id ∧ ∃ bytes, volume.bytes? (store.pathFor id) = some bytes)
      ∧ (∀ e after, store.create id volume = (.error e, after) → after = volume)
      ∧ ∀ e after, store.persist file id volume = (.error e, after) →
          after = volume ∧ file.goOn (.error e) = file := by
  rw [← BlobId.valid_iff_acceptable]
  refine ⟨BlobId.validate_eq_ok_iff, fun refused => ?_, exists_create_iff sound,
    fun made after created => ⟨(create_eq_ok_iff.1 created).2.2, replaced_of_create sound created⟩,
    fun here content held seen => ⟨exists_persist_iff sound held seen,
      fun named after persisted => ?_⟩,
    load_snd store id volume, contains_eq_true_iff, fun e after => create_eq_error,
    fun e after refused => ⟨persist_eq_error refused, rfl⟩⟩
  · obtain ⟨e, kind, refusal⟩ := validate_eq_error refused
    have absent : store.contains id volume = false := by
      rw [Bool.eq_false_iff]
      exact fun there => refused (contains_eq_true_iff.1 there).1
    refine ⟨e, kind, ?_, ?_, ?_, absent⟩
    · simp only [create, refusal]
    · simp only [load, refusal]
    · simp only [persist, refusal]
  · obtain ⟨place, entry, -, shown⟩ := seen_of_persist sound held seen persisted
    obtain ⟨-, -, rfl⟩ := persist_eq_ok_iff.1 persisted
    exact ⟨rfl, rfl, place, entry, shown⟩

end ChunkStore

/-! ## A folder with one file -/

/-- A volume with a folder that holds one file of three bytes. -/
def Volume.shelf : Volume :=
  ((blank.makeFolders ["s"]).2.write ["s", "a"] [1, 2, 3]).toOption.getD blank

theorem Volume.sound_shelf : shelf.Sound := by
  have sound := sound_blank.makeFolders ["s"]
  unfold shelf
  cases written : (blank.makeFolders ["s"]).2.write ["s", "a"] [1, 2, 3] with
  | error e => exact sound_blank
  | ok after =>
    obtain ⟨place, -, replaced⟩ := sound.write written
    exact replaced.sound

/-- The store in the folder. -/
def ChunkStore.onShelf : ChunkStore := ⟨["s"], "s", 2, by decide⟩

/-- In the folder the file is given another name, and no file leaves it. -/
theorem ChunkStore.confined_to_shelf :
    (∃ named after, onShelf.persist (onShelf.handle "a" 3) "b" Volume.shelf = (.ok named, after)
        ∧ after.seen ["s", "b"] = some (.file [1, 2, 3]) ∧ after.seen ["s", "a"] = none)
      ∧ ∃ e : Failure, e.kind = .invalidArgument
        ∧ onShelf.persist (onShelf.handle "a" 3) "../b" Volume.shelf = (.error e, Volume.shelf) := by
  have held : Volume.shelf.locate (onShelf.handle "a" 3).path = .ok ["s", "a"] := by decide +kernel
  have seen : Volume.shelf.seen ["s", "a"] = some (.file [1, 2, 3]) :=
    Volume.seen_eq_file_iff.2 ⟨0, by decide +kernel, by decide +kernel⟩
  have free : Volume.shelf.locate (onShelf.pathFor "b") = .ok ["s", "b"] := by decide +kernel
  have noFolder : Volume.shelf.seen ["s", "b"] ≠ some .folder := by
    rw [Ne, Volume.seen_eq_folder_iff]
    decide +kernel
  constructor
  · obtain ⟨-, -, -, -, persists, -⟩ :=
      confined_to_root Volume.sound_shelf onShelf (onShelf.handle "a" 3) "b"
    obtain ⟨possible, moved⟩ := persists _ _ held seen
    have acceptable : BlobId.Acceptable "b" := BlobId.valid_iff_acceptable.1 (by decide +kernel)
    obtain ⟨named, after, persisted⟩ := (possible acceptable).2 ⟨_, free, noFolder⟩
    obtain ⟨-, -, place, ⟨top, located, -, rfl⟩, shown⟩ := moved named after persisted
    have root : Volume.shelf.locate onShelf.root = .ok ["s"] := by decide +kernel
    obtain rfl : ["s"] = top := Except.ok.inj (root.symm.trans located)
    refine ⟨named, after, persisted, ?_, ?_⟩ <;> rw [shown] <;> rfl
  · obtain ⟨-, refuses, -⟩ :=
      confined_to_root Volume.sound_shelf onShelf (onShelf.handle "a" 3) "../b"
    obtain ⟨e, kind, -, -, refused, -⟩ := refuses fun acceptable =>
      absurd (BlobId.valid_iff_acceptable.2 acceptable) (by decide +kernel)
    exact ⟨e, kind, refused⟩

end BlobCluster
